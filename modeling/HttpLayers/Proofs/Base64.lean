import HttpLayers.Text.Base64

-- Reading undoes writing for byte lists of every length, and accepts nothing but what writing
-- gives.

namespace HttpLayers.Text.Base64

theorem toNat_bounds {low high c : Char} (within : (low ≤ c && c ≤ high) = true) :
    low.toNat ≤ c.toNat ∧ c.toNat ≤ high.toNat := by
  simpa [Char.le_def,UInt32.le_iff_toNat_le] using within

theorem sextet?_sound {c : Char} {n : Nat} (read : sextet? c = some n) : n < 64 ∧ symbol n = c := by
  unfold sextet? at read
  split at read
  · rename_i upper
    have bounds : 65 ≤ c.toNat ∧ c.toNat ≤ 90 := toNat_bounds upper
    cases Option.some.inj read
    refine ⟨by omega,?_⟩
    rw [symbol,if_pos (by omega),show 65 + (c.toNat - 65) = c.toNat by omega,Char.ofNat_toNat]
  split at read
  · rename_i lower
    have bounds : 97 ≤ c.toNat ∧ c.toNat ≤ 122 := toNat_bounds lower
    cases Option.some.inj read
    refine ⟨by omega,?_⟩
    rw [symbol,if_neg (by omega),if_pos (by omega),show 71 + (c.toNat - 71) = c.toNat by omega,
      Char.ofNat_toNat]
  split at read
  · rename_i digit
    have bounds : 48 ≤ c.toNat ∧ c.toNat ≤ 57 := toNat_bounds digit
    cases Option.some.inj read
    refine ⟨by omega,?_⟩
    rw [symbol,if_neg (by omega),if_neg (by omega),if_pos (by omega),
      show c.toNat + 4 - 4 = c.toNat by omega,Char.ofNat_toNat]
  split at read
  · cases Option.some.inj read
    exact ⟨by decide,Eq.symm ‹c = '+'›⟩
  split at read
  · cases Option.some.inj read
    exact ⟨by decide,Eq.symm ‹c = '/'›⟩
  · cases read

theorem decodeOne_encode (a : UInt8) :
    decodeOne (symbol (a.toNat / 4)) (symbol (a.toNat % 4 * 16)) = some [a] := by
  have bound := a.toNat_lt
  have whole : a.toNat / 4 * 4 + a.toNat % 4 * 16 / 16 = a.toNat := by omega
  simp only [decodeOne,sextet?_symbol _ (show a.toNat / 4 < 64 by omega),
    sextet?_symbol _ (show a.toNat % 4 * 16 < 64 by omega),Option.bind_eq_bind,Option.bind_some,
    whole,UInt8.ofNat_toNat]
  exact if_pos (by omega)

theorem decodeTwo_encode (a b : UInt8) :
    decodeTwo (symbol (a.toNat / 4)) (symbol (a.toNat % 4 * 16 + b.toNat / 16))
      (symbol (b.toNat % 16 * 4)) = some [a,b] := by
  have boundA := a.toNat_lt
  have boundB := b.toNat_lt
  have first : a.toNat / 4 * 4 + (a.toNat % 4 * 16 + b.toNat / 16) / 16 = a.toNat := by omega
  have second : (a.toNat % 4 * 16 + b.toNat / 16) % 16 * 16 + b.toNat % 16 * 4 / 4 = b.toNat := by
    omega
  simp only [decodeTwo,sextet?_symbol _ (show a.toNat / 4 < 64 by omega),
    sextet?_symbol _ (show a.toNat % 4 * 16 + b.toNat / 16 < 64 by omega),
    sextet?_symbol _ (show b.toNat % 16 * 4 < 64 by omega),Option.bind_eq_bind,Option.bind_some,
    first,second,UInt8.ofNat_toNat]
  exact if_pos (by omega)

theorem decodeThree_encode (a b c : UInt8) :
    decodeThree (symbol (a.toNat / 4)) (symbol (a.toNat % 4 * 16 + b.toNat / 16))
      (symbol (b.toNat % 16 * 4 + c.toNat / 64)) (symbol (c.toNat % 64)) = some [a,b,c] := by
  have boundA := a.toNat_lt
  have boundB := b.toNat_lt
  have boundC := c.toNat_lt
  have first : a.toNat / 4 * 4 + (a.toNat % 4 * 16 + b.toNat / 16) / 16 = a.toNat := by omega
  have second : (a.toNat % 4 * 16 + b.toNat / 16) % 16 * 16 +
      (b.toNat % 16 * 4 + c.toNat / 64) / 4 = b.toNat := by omega
  have third : (b.toNat % 16 * 4 + c.toNat / 64) % 4 * 64 + c.toNat % 64 = c.toNat := by omega
  simp only [decodeThree,sextet?_symbol _ (show a.toNat / 4 < 64 by omega),
    sextet?_symbol _ (show a.toNat % 4 * 16 + b.toNat / 16 < 64 by omega),
    sextet?_symbol _ (show b.toNat % 16 * 4 + c.toNat / 64 < 64 by omega),
    sextet?_symbol _ (show c.toNat % 64 < 64 by omega),Option.bind_eq_bind,Option.bind_some,
    first,second,third,UInt8.ofNat_toNat,Option.pure_def]

-- What a group is read as, its symbols are the writing of. The bits that carry nothing decide: had
-- they been let through, two groups would read as the same byte.
theorem decodeOne_sound {p q : Char} {bytes : List UInt8} (read : decodeOne p q = some bytes) :
    encode bytes = [p,q,'=','='] := by
  simp only [decodeOne,Option.bind_eq_bind,Option.bind_eq_some_iff] at read
  obtain ⟨x,readX,y,readY,read⟩ := read
  obtain ⟨boundX,rfl⟩ := sextet?_sound readX
  obtain ⟨boundY,rfl⟩ := sextet?_sound readY
  split at read
  · cases Option.some.inj read
    have value : (UInt8.ofNat (x * 4 + y / 16)).toNat = x * 4 + y / 16 := by
      rw [UInt8.toNat_ofNat']; omega
    rw [encode,value,show (x * 4 + y / 16) / 4 = x by omega,
      show (x * 4 + y / 16) % 4 * 16 = y by omega]
  · cases read

theorem decodeTwo_sound {p q r : Char} {bytes : List UInt8}
    (read : decodeTwo p q r = some bytes) : encode bytes = [p,q,r,'='] := by
  simp only [decodeTwo,Option.bind_eq_bind,Option.bind_eq_some_iff] at read
  obtain ⟨x,readX,y,readY,z,readZ,read⟩ := read
  obtain ⟨boundX,rfl⟩ := sextet?_sound readX
  obtain ⟨boundY,rfl⟩ := sextet?_sound readY
  obtain ⟨boundZ,rfl⟩ := sextet?_sound readZ
  split at read
  · cases Option.some.inj read
    have first : (UInt8.ofNat (x * 4 + y / 16)).toNat = x * 4 + y / 16 := by
      rw [UInt8.toNat_ofNat']; omega
    have second : (UInt8.ofNat (y % 16 * 16 + z / 4)).toNat = y % 16 * 16 + z / 4 := by
      rw [UInt8.toNat_ofNat']; omega
    rw [encode,first,second,show (x * 4 + y / 16) / 4 = x by omega,
      show (x * 4 + y / 16) % 4 * 16 + (y % 16 * 16 + z / 4) / 16 = y by omega,
      show (y % 16 * 16 + z / 4) % 16 * 4 = z by omega]
  · cases read

theorem decodeThree_sound {p q r s : Char} {bytes rest : List UInt8}
    (read : decodeThree p q r s = some bytes) :
    encode (bytes ++ rest) = p :: q :: r :: s :: encode rest := by
  simp only [decodeThree,Option.bind_eq_bind,Option.bind_eq_some_iff] at read
  obtain ⟨x,readX,y,readY,z,readZ,w,readW,read⟩ := read
  obtain ⟨boundX,rfl⟩ := sextet?_sound readX
  obtain ⟨boundY,rfl⟩ := sextet?_sound readY
  obtain ⟨boundZ,rfl⟩ := sextet?_sound readZ
  obtain ⟨boundW,rfl⟩ := sextet?_sound readW
  cases Option.some.inj read
  have first : (UInt8.ofNat (x * 4 + y / 16)).toNat = x * 4 + y / 16 := by
    rw [UInt8.toNat_ofNat']; omega
  have second : (UInt8.ofNat (y % 16 * 16 + z / 4)).toNat = y % 16 * 16 + z / 4 := by
    rw [UInt8.toNat_ofNat']; omega
  have third : (UInt8.ofNat (z % 4 * 64 + w)).toNat = z % 4 * 64 + w := by
    rw [UInt8.toNat_ofNat']; omega
  simp only [List.cons_append,List.nil_append,encode,first,second,third]
  rw [show (x * 4 + y / 16) / 4 = x by omega,
    show (x * 4 + y / 16) % 4 * 16 + (y % 16 * 16 + z / 4) / 16 = y by omega,
    show (y % 16 * 16 + z / 4) % 16 * 4 + (z % 4 * 64 + w) / 64 = z by omega,
    show (z % 4 * 64 + w) % 64 = w by omega]

theorem symbol_ne_pad : ∀ n < 64, symbol n ≠ '=' := by
  decide

theorem decode_encode (bytes : List UInt8) : decode (encode bytes) = some bytes := by
  fun_induction encode bytes with
  | case1 => rfl
  | case2 a => exact decodeOne_encode a
  | case3 a b =>
      have present : symbol (b.toNat % 16 * 4) ≠ '=' := symbol_ne_pad _ (by omega)
      rw [decode]
      · exact decodeTwo_encode a b
      · intro pad; exact absurd pad present
  | case4 a b c rest ih =>
      have present : symbol (c.toNat % 64) ≠ '=' := symbol_ne_pad _ (by omega)
      rw [decode]
      · rw [decodeThree_encode a b c,ih]; rfl
      · intro _ pad; exact absurd pad present
      · intro pad; exact absurd pad present

theorem encode_of_decode {text : List Char} {bytes : List UInt8}
    (read : decode text = some bytes) : text = encode bytes := by
  fun_induction decode text generalizing bytes with
  | case1 => cases Option.some.inj read; rfl
  | case2 a b => exact (decodeOne_sound read).symm
  | case3 a b c => exact (decodeTwo_sound read).symm
  | case4 a b c d rest _ _ ih =>
      simp only [Option.bind_eq_bind,Option.bind_eq_some_iff] at read
      obtain ⟨group,readGroup,others,readOthers,read⟩ := read
      cases Option.some.inj read
      rw [ih readOthers]
      exact (decodeThree_sound readGroup).symm
  | case5 => cases read

theorem symbol_visible : ∀ n < 64, 32 < (symbol n).toNat ∧ (symbol n).toNat < 127 := by
  decide

theorem encode_visible (bytes : List UInt8) :
    ∀ c ∈ encode bytes, 32 < c.toNat ∧ c.toNat < 127 := by
  fun_induction encode bytes with
  | case1 => simp
  | case2 a =>
      have bound := a.toNat_lt
      simp only [List.mem_cons,List.not_mem_nil,or_false]
      intro c member
      rcases member with rfl | rfl | rfl | rfl
      · exact symbol_visible _ (by omega)
      · exact symbol_visible _ (by omega)
      · decide
      · decide
  | case3 a b =>
      have boundA := a.toNat_lt
      have boundB := b.toNat_lt
      simp only [List.mem_cons,List.not_mem_nil,or_false]
      intro c member
      rcases member with rfl | rfl | rfl | rfl
      · exact symbol_visible _ (by omega)
      · exact symbol_visible _ (by omega)
      · exact symbol_visible _ (by omega)
      · decide
  | case4 a b d rest ih =>
      have boundA := a.toNat_lt
      have boundB := b.toNat_lt
      have boundD := d.toNat_lt
      simp only [List.mem_cons]
      intro c member
      rcases member with rfl | rfl | rfl | rfl | member
      · exact symbol_visible _ (by omega)
      · exact symbol_visible _ (by omega)
      · exact symbol_visible _ (by omega)
      · exact symbol_visible _ (by omega)
      · exact ih c member

theorem encode_ne_nil {bytes : List UInt8} (present : bytes ≠ []) : encode bytes ≠ [] := by
  fun_cases encode bytes with
  | case1 => exact absurd rfl present
  | case2 => exact List.cons_ne_nil _ _
  | case3 => exact List.cons_ne_nil _ _
  | case4 => exact List.cons_ne_nil _ _

theorem decode_eq_some_iff {text : List Char} {bytes : List UInt8} :
    decode text = some bytes ↔ text = encode bytes :=
  ⟨encode_of_decode,fun written => written ▸ decode_encode bytes⟩

end HttpLayers.Text.Base64
