import HttpLayers.Proofs.Address.Alphabet
import HttpLayers.Proofs.Address.Digits

-- An address is read in the same way where more follows it, as long as that cannot be taken for a part
-- of it. What follows is left over, so the whole is no address.

namespace HttpLayers.Net

open Reader

variable {s rest more : List Char}

theorem Reader.cut_more {p : Char → Bool} (s : List Char) (ends : Ends p more) :
    (s ++ more).takeWhile p = s.takeWhile p ∧ (s ++ more).dropWhile p = s.dropWhile p ++ more := by
  have later : Ends p (s.dropWhile p ++ more) := by
    intro c first
    have stopped := List.head?_dropWhile_not p s
    cases left : s.dropWhile p with
    | nil =>
        rw [left,List.nil_append] at first
        exact ends c first
    | cons d tail =>
        rw [left] at first stopped
        cases Option.some.inj first
        simpa using stopped
  have whole : s ++ more = s.takeWhile p ++ (s.dropWhile p ++ more) := by
    rw [← List.append_assoc,List.takeWhile_append_dropWhile]
  rw [whole]
  exact cut_ends (List.all_eq_true.mp List.all_takeWhile) later

namespace Reader

variable {α β : Type}

-- What is behind makes no difference, whether the reader takes something or refuses.
def Halts (reader : Reader α) (more : List Char) : Prop :=
  ∀ s, reader (s ++ more) = (reader s).map fun read => (read.1,read.2 ++ more)

theorem Halts.taken {reader : Reader α} (halts : Halts reader more) {a : α}
    (read : reader s = some (a,rest)) : reader (s ++ more) = some (a,rest ++ more) := by
  rw [halts,read]
  rfl

theorem Halts.alone {reader : Reader α} (halts : Halts reader more) {a : α}
    (read : reader (s ++ more) = some (a,more)) : reader s = some (a,[]) := by
  rw [halts] at read
  obtain ⟨⟨b,left⟩,alone,same⟩ := Option.map_eq_some_iff.mp read
  obtain ⟨rfl,behind⟩ := Prod.mk.inj same
  have nothing : left = [] := List.append_left_eq_self.mp behind
  rw [alone,nothing]

theorem Halts.bind {first : Reader α} {next : α × List Char → Option (β × List Char)}
    (halts : Halts first more) (later : ∀ a, Halts (fun t => next (a,t)) more) :
    Halts (fun t => (first t).bind next) more := by
  intro s
  dsimp only
  rw [halts]
  cases first s with
  | none => rfl
  | some read => exact later read.1 read.2

theorem exactly_halts {c : Char} (ends : Ends (· == c) more) : Halts (exactly c) more := by
  intro s
  cases s with
  | nil =>
      cases more with
      | nil => rfl
      | cons d tail =>
          have other : d ≠ c := by simpa using ends d rfl
          exact if_neg other
  | cons d tail =>
      rw [List.cons_append,exactly,exactly]
      split <;> rfl

theorem decimal_halts (most : Nat) (ends : Ends Char.isDigit more) :
    Halts (decimal most) more := by
  intro s
  obtain ⟨taken,left⟩ := cut_more s ends
  simp only [decimal,taken,left]
  split <;> rfl

theorem octet_halts (ends : Ends Char.isDigit more) : Halts octet more := by
  intro s
  simp only [octet,(cut_more s ends).1,decimal_halts 255 ends s]
  split <;> rfl

theorem group_halts (ends : Ends isHexDigit more) : Halts group more := by
  intro s
  obtain ⟨taken,left⟩ := cut_more s ends
  simp only [group,taken,left]
  split <;> rfl

theorem exactly_more {c : Char} {value : Unit} (read : exactly c s = some (value,rest)) :
    exactly c (s ++ more) = some (value,rest ++ more) := by
  rw [exactly_eq_some_iff.mp read]
  exact exactly_eq_some_iff.mpr rfl

end Reader

namespace IpAddress

theorem readV4_halts (digits : Ends Char.isDigit more) (dots : Ends (· == '.') more) :
    Halts readV4 more := by
  have octets := octet_halts digits
  have dot := exactly_halts dots
  exact octets.bind fun _ => dot.bind fun _ => octets.bind fun _ => dot.bind fun _ =>
    octets.bind fun _ => dot.bind fun _ => octets.bind fun _ _ => rfl

-- A dot behind it is left alone as well, once all four octets are there.
theorem readV4_more {bits : BitVec 32} (read : readV4 s = some (bits,rest))
    (ends : Ends Char.isDigit more) : readV4 (s ++ more) = some (bits,rest ++ more) := by
  have octets := octet_halts ends
  unfold readV4 at read
  obtain ⟨⟨_,_⟩,first,read⟩ := Option.bind_eq_some_iff.mp read
  obtain ⟨⟨_,_⟩,dot,read⟩ := Option.bind_eq_some_iff.mp read
  obtain ⟨⟨_,_⟩,second,read⟩ := Option.bind_eq_some_iff.mp read
  obtain ⟨⟨_,_⟩,again,read⟩ := Option.bind_eq_some_iff.mp read
  obtain ⟨⟨_,_⟩,third,read⟩ := Option.bind_eq_some_iff.mp read
  obtain ⟨⟨_,_⟩,another,read⟩ := Option.bind_eq_some_iff.mp read
  obtain ⟨⟨_,_⟩,fourth,read⟩ := Option.bind_eq_some_iff.mp read
  cases read
  simp [readV4,octets.taken first,exactly_more dot,octets.taken second,exactly_more again,
    octets.taken third,exactly_more another,octets.taken fourth]

-- No character of an address stands in front.
def Outside (more : List Char) : Prop :=
  ∀ c, more.head? = some c → ¬IsAddressChar c

theorem outside_cons {c : Char} (other : ¬IsAddressChar c) : Outside (c :: more) := by
  rintro _ ⟨⟩
  exact other

theorem Outside.ends {p : Char → Bool} (outside : Outside more)
    (inside : ∀ c, p c = true → IsAddressChar c) : Ends p more := by
  intro c first
  rw [Bool.eq_false_iff]
  exact mt (inside c) (outside c first)

theorem Outside.readV4 (outside : Outside more) : Halts readV4 more := by
  apply readV4_halts (outside.ends fun _ => .of_digit)
  exact outside.ends fun _ same => .inl (beq_iff_eq.mp same)

theorem Outside.colon (outside : Outside more) : Halts (exactly ':') more :=
  exactly_halts (outside.ends fun _ same => .inr (.inl (beq_iff_eq.mp same)))

theorem readGroups_more (outside : Outside more) (room : Nat) (leading : Bool) (s : List Char) :
    readGroups room leading (s ++ more) = { readGroups room leading s with
      rest := (readGroups room leading s).rest ++ more } := by
  induction room generalizing leading s with
  | zero => rfl
  | succ room ih =>
      have colon : (if leading then some ((),s ++ more) else exactly ':' (s ++ more)) =
          (if leading then some ((),s) else exactly ':' s).map fun read =>
            (read.1,read.2 ++ more) := by
        cases leading with
        | true => rfl
        | false => exact outside.colon s
      rw [readGroups,readGroups,colon]
      cases if leading then some ((),s) else exactly ':' s with
      | none => rfl
      | some separated =>
          obtain ⟨_,t⟩ := separated
          have octets : (if room = 0 then none else readV4 (t ++ more)) =
              (if room = 0 then none else readV4 t).map fun read => (read.1,read.2 ++ more) := by
            split
            · rfl
            · exact outside.readV4 t
          have groups := group_halts (outside.ends fun _ digit => .inr (.inr digit)) t
          dsimp only [Option.map_some]
          rw [octets,groups]
          cases if room = 0 then none else readV4 t with
          | some found => rfl
          | none =>
              cases group t with
              | none => rfl
              | some found =>
                  dsimp only [Option.map_some,Option.map_none]
                  rw [ih]

theorem readV6_halts (outside : Outside more) : Halts readV6 more := by
  intro s
  unfold readV6
  dsimp only
  rw [readGroups_more outside]
  dsimp only
  split
  · rfl
  · split
    · rfl
    · refine outside.colon.bind (fun _ => outside.colon.bind fun _ t => ?_) _
      dsimp only
      rw [readGroups_more outside]
      rfl

theorem readV6_dotted {bits : BitVec 32} (octets : readV4 s = some (bits,rest)) :
    readV6 s = none := by
  have run : readGroups 8 true s = ⟨pairOf bits,true,rest⟩ := by simp [readGroups,octets]
  simp [readV6,run,pairOf]

theorem ofText?_v4_iff {bits : BitVec 32} :
    ofText? s = some (.v4 bits) ↔ readV4 s = some (bits,[]) := by
  unfold ofText? IpAddress.read
  cases octets : readV4 s with
  | some found =>
      obtain ⟨low,left⟩ := found
      cases left <;> simp
  | none =>
      cases readV6 s with
      | none => simp
      | some found =>
          obtain ⟨high,left⟩ := found
          cases left <;> simp

theorem ofText?_v6_iff {bits : BitVec 128} :
    ofText? s = some (.v6 bits) ↔ readV6 s = some (bits,[]) := by
  unfold ofText? IpAddress.read
  cases octets : readV4 s with
  | some found =>
      obtain ⟨low,left⟩ := found
      rw [readV6_dotted octets]
      cases left <;> simp
  | none =>
      cases readV6 s with
      | none => simp
      | some found =>
          obtain ⟨high,left⟩ := found
          cases left <;> simp

theorem ofText?_more {bits : BitVec 32} {c : Char} (read : ofText? s = some (.v4 bits))
    (outside : c.isDigit = false) : ofText? (s ++ c :: more) = none := by
  have ends : Ends Char.isDigit (c :: more) := ends_cons outside
  have octets := readV4_more (ofText?_v4_iff.mp read) ends
  simp [ofText?,IpAddress.read,octets]

end IpAddress

end HttpLayers.Net
