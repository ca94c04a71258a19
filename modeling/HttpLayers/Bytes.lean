namespace HttpLayers

abbrev Bytes := List UInt8

namespace Bytes

def ofString (s : String) : Bytes :=
  s.toByteArray.data.toList

def toString? (bytes : Bytes) : Option String :=
  String.fromUTF8? ⟨bytes.toArray⟩

-- ASCII keeps its meaning; every other byte becomes a character outside ASCII.
def toChars (bytes : Bytes) : List Char :=
  bytes.map fun b => Char.ofNat b.toNat

theorem toString?_ofString (s : String) : toString? (ofString s) = some s := by
  have same : (⟨(ofString s).toArray⟩ : ByteArray) = s.toByteArray := by simp [ofString]
  simp [toString?,same,String.fromUTF8?,s.isValidUTF8,String.fromUTF8]

theorem ofString_eq (s : String) : ofString s = s.toList.flatMap String.utf8EncodeChar := by
  rw [ofString,← String.utf8Encode_toList]
  exact List.toList_data_toByteArray

theorem ofString_append (s t : String) : ofString (s ++ t) = ofString s ++ ofString t := by
  simp only [ofString_eq,String.toList_append,List.flatMap_append]

theorem toString?_eq_some_iff {bytes : Bytes} {s : String} :
    toString? bytes = some s ↔ bytes = ofString s := by
  constructor
  · intro read
    unfold toString? String.fromUTF8? at read
    split at read
    · cases Option.some.inj read
      simp [ofString,String.fromUTF8]
    · cases read
  · rintro rfl
    exact toString?_ofString s

theorem ofString_inj {s t : String} : ofString s = ofString t ↔ s = t := by
  constructor
  · intro same
    exact Option.some.inj ((toString?_ofString s).symm.trans (same ▸ toString?_ofString t))
  · rintro rfl
    rfl

theorem utf8EncodeChar_ascii {c : Char} (ascii : c.toNat < 128) :
    String.utf8EncodeChar c = [UInt8.ofNat c.toNat] := by
  have small : c.val.toNat ≤ 127 := Nat.le_of_lt_succ ascii
  simp only [String.utf8EncodeChar,small,if_true]
  rfl

theorem toNat_ofNat_byte {b : UInt8} : (Char.ofNat b.toNat).toNat = b.toNat := by
  have valid : b.toNat.isValidChar := .inl (by have := b.toNat_lt; omega)
  rw [Char.ofNat,dif_pos valid]
  rfl

theorem ofString_toChars {bytes : Bytes} (ascii : ∀ b ∈ bytes, b.toNat < 128) :
    ofString (String.ofList (toChars bytes)) = bytes := by
  rw [ofString_eq,String.toList_ofList]
  induction bytes with
  | nil => rfl
  | cons b rest ih =>
      have first : (Char.ofNat b.toNat).toNat < 128 := by
        rw [toNat_ofNat_byte]; exact ascii b (by simp)
      have others := ih fun c member => ascii c (List.mem_cons_of_mem _ member)
      simp only [toChars] at others
      simp only [toChars,List.map_cons,List.flatMap_cons,utf8EncodeChar_ascii first,
        toNat_ofNat_byte,UInt8.ofNat_toNat,others,List.cons_append,List.nil_append]

theorem toChars_ofString {s : String} (ascii : ∀ c ∈ s.toList, c.toNat < 128) :
    toChars (ofString s) = s.toList := by
  rw [ofString_eq]
  generalize s.toList = chars at ascii ⊢
  induction chars with
  | nil => rfl
  | cons c rest ih =>
      have first : c.toNat < 128 := ascii c (by simp)
      have others := ih fun d member => ascii d (List.mem_cons_of_mem _ member)
      have byte : (UInt8.ofNat c.toNat).toNat = c.toNat := by
        rw [UInt8.toNat_ofNat']; omega
      simp only [toChars] at others
      simp only [toChars,List.flatMap_cons,utf8EncodeChar_ascii first,List.cons_append,
        List.nil_append,List.map_cons,byte,Char.ofNat_toNat,others]

-- Neither a control below the space nor delete; tab is the only other byte of a header value.
def IsClear (b : UInt8) : Prop := 32 ≤ b.toNat ∧ b.toNat ≠ 127

-- Split as the encoding is: one byte for ASCII, and bytes from 128 on for everything else.
theorem utf8EncodeChar_bytes {c : Char} :
    ∀ b ∈ String.utf8EncodeChar c, (c.toNat < 128 ∧ b.toNat = c.toNat) ∨ 128 ≤ b.toNat := by
  have high : ∀ n, n < 256 → 128 ≤ n → 128 ≤ (UInt8.ofNat n).toNat := by
    intro n small large
    rw [UInt8.toNat_ofNat',Nat.mod_eq_of_lt small]
    exact large
  intro b member
  by_cases ascii : c.toNat < 128
  · rw [utf8EncodeChar_ascii ascii,List.mem_singleton] at member
    refine .inl ⟨ascii,?_⟩
    rw [member,UInt8.toNat_ofNat',Nat.mod_eq_of_lt (by omega)]
  · right
    change ¬c.val.toNat < 128 at ascii
    unfold String.utf8EncodeChar at member
    dsimp only at member
    split at member
    · omega
    · split at member
      · simp only [List.mem_cons,List.not_mem_nil,or_false] at member
        rcases member with rfl | rfl <;> exact high _ (by omega) (by omega)
      · split at member
        · simp only [List.mem_cons,List.not_mem_nil,or_false] at member
          rcases member with rfl | rfl | rfl <;> exact high _ (by omega) (by omega)
        · simp only [List.mem_cons,List.not_mem_nil,or_false] at member
          rcases member with rfl | rfl | rfl | rfl <;> exact high _ (by omega) (by omega)

theorem mem_ofString_ascii {s : String} {b : UInt8} (member : b ∈ ofString s)
    (ascii : b.toNat < 128) : Char.ofNat b.toNat ∈ s.toList := by
  rw [ofString_eq] at member
  obtain ⟨c,present,encoded⟩ := List.mem_flatMap.mp member
  rcases utf8EncodeChar_bytes b encoded with ⟨_,code⟩ | high
  · rw [code,Char.ofNat_toNat]
    exact present
  · omega

theorem ofString_clear {s : String} (clear : ∀ c ∈ s.toList, 32 ≤ c.toNat ∧ c.toNat ≠ 127) :
    ∀ b ∈ ofString s, IsClear b := by
  intro b member
  rw [ofString_eq] at member
  obtain ⟨c,present,encoded⟩ := List.mem_flatMap.mp member
  have range := clear c present
  unfold IsClear
  rcases utf8EncodeChar_bytes b encoded with ⟨_,code⟩ | high <;> omega

end Bytes

end HttpLayers
