import HttpLayers.Proofs.Address.Digits
import HttpLayers.Proofs.Outcome
import HttpLayers.Text.Integer

namespace HttpLayers.Text.Integer

open Net.Reader Outcome

-- A decimal numeral: digits, at least one, and a plus sign or nothing before them. Zeros in front
-- are allowed in any number.
inductive Numeral : List Char → Nat → Prop where
  | plain {digits : List Char} (present : digits ≠ [])
      (decimal : ∀ c ∈ digits, c.isDigit = true) :
      Numeral digits (Nat.ofDigitChars 10 digits 0)
  | plus {digits : List Char} (present : digits ≠ [])
      (decimal : ∀ c ∈ digits, c.isDigit = true) :
      Numeral ('+' :: digits) (Nat.ofDigitChars 10 digits 0)

theorem le_ofDigitChars (digits : List Char) (soFar : Nat) :
    soFar ≤ Nat.ofDigitChars 10 digits soFar := by
  rw [Nat.ofDigitChars_eq_ofDigitChars_zero]
  exact Nat.le_trans (Nat.le_mul_of_pos_left soFar (Nat.pow_pos (by decide))) (Nat.le_add_right _ _)

-- Every digit is checked against the bound, which comes to checking the whole number: further
-- digits never make it smaller.
theorem magnitude_eq_ok_iff {most : Nat} {past : Fault} {soFar n : Nat} {digits : List Char}
    (bound : soFar ≤ most) :
    magnitude most past soFar digits = .ok n ↔
      (∀ c ∈ digits, c.isDigit = true) ∧ n = Nat.ofDigitChars 10 digits soFar ∧ n ≤ most := by
  induction digits generalizing soFar with
  | nil =>
      rw [magnitude,Except.ok.injEq,Nat.ofDigitChars_nil]
      constructor
      · rintro rfl
        exact ⟨by simp,rfl,bound⟩
      · intro read
        exact read.2.1.symm
  | cons c rest ih =>
      rw [magnitude,digit?,Nat.ofDigitChars_cons,List.forall_mem_cons]
      by_cases digit : c.isDigit = true
      · rw [if_pos digit,and_iff_right digit]
        by_cases within : 10 * soFar + (c.toNat - '0'.toNat) ≤ most
        · simp only [if_pos within]
          exact ih within
        · simp only [if_neg within]
          refine ⟨nofun,?_⟩
          intro read
          obtain ⟨_,rfl,small⟩ := read
          exact absurd (Nat.le_trans (le_ofDigitChars rest _) small) within
      · rw [if_neg digit]
        exact ⟨nofun,fun read => absurd read.1.1 digit⟩

theorem natural_eq_ok_iff {most n : Nat} {s : List Char} :
    natural most s = .ok n ↔ Numeral s n ∧ n ≤ most := by
  have reads : ∀ digits, magnitude most .tooLarge 0 digits = .ok n ↔
      (∀ c ∈ digits, c.isDigit = true) ∧ n = Nat.ofDigitChars 10 digits 0 ∧ n ≤ most :=
    fun _ => magnitude_eq_ok_iff (Nat.zero_le most)
  fun_cases natural most s with
  | case1 =>
      refine ⟨nofun,?_⟩
      rintro ⟨numeral,_⟩
      cases numeral with
      | plain present => exact absurd rfl present
  | case2 =>
      refine ⟨nofun,?_⟩
      rintro ⟨numeral,_⟩
      cases numeral with
      | plain _ decimal => exact absurd (decimal '+' (by simp)) (by decide)
      | plus present => exact absurd rfl present
  | case3 digits present =>
      rw [reads]
      constructor
      · rintro ⟨decimal,rfl,small⟩
        exact ⟨.plus present decimal,small⟩
      · rintro ⟨numeral,small⟩
        cases numeral with
        | plain _ decimal => exact absurd (decimal '+' (by simp)) (by decide)
        | plus _ decimal => exact ⟨decimal,rfl,small⟩
  | case4 _ present _ unsigned =>
      rw [reads]
      constructor
      · rintro ⟨decimal,rfl,small⟩
        exact ⟨.plain present decimal,small⟩
      · rintro ⟨numeral,small⟩
        cases numeral with
        | plain _ decimal => exact ⟨decimal,rfl,small⟩
        | plus => exact (unsigned _ rfl).elim

theorem natural64_eq_ok_iff {n : Nat} {s : List Char} :
    natural64 s = .ok n ↔ Numeral s n ∧ n < UInt64.size := by
  rw [natural64,natural_eq_ok_iff,Nat.le_sub_one_iff_lt (by decide)]

-- A minus sign may stand in front instead.
inductive SignedNumeral : List Char → Int → Prop where
  | unsigned {s : List Char} {n : Nat} (numeral : Numeral s n) : SignedNumeral s n
  | minus {digits : List Char} (present : digits ≠ [])
      (decimal : ∀ c ∈ digits, c.isDigit = true) :
      SignedNumeral ('-' :: digits) (-(Nat.ofDigitChars 10 digits 0 : Int))

theorem not_numeral_minus {rest : List Char} {n : Nat} : ¬Numeral ('-' :: rest) n := by
  intro numeral
  cases numeral with
  | plain _ decimal => exact absurd (decimal '-' (List.mem_cons_self ..)) (by decide)

theorem signed_eq_ok_iff {below above : Nat} {z : Int} {s : List Char} :
    signed below above s = .ok z ↔ SignedNumeral s z ∧ -(below : Int) ≤ z ∧ z ≤ above := by
  fun_cases signed below above s with
  | case1 =>
      refine ⟨nofun,?_⟩
      rintro ⟨numeral,_⟩
      cases numeral with
      | unsigned numeral => exact absurd numeral not_numeral_minus
      | minus present => exact absurd rfl present
  | case2 digits present =>
      refine map_eq_ok_iff.trans ⟨?_,?_⟩
      · rintro ⟨_,widened,rfl⟩
        obtain ⟨m,read,⟨⟩⟩ := bind_eq_ok_iff.mp widened
        obtain ⟨decimal,rfl,small⟩ := (magnitude_eq_ok_iff (Nat.zero_le below)).mp read
        exact ⟨.minus present decimal,by omega,by omega⟩
      · rintro ⟨numeral,lower,_⟩
        cases numeral with
        | unsigned numeral => exact absurd numeral not_numeral_minus
        | minus _ decimal =>
            have read : magnitude below .tooSmall 0 digits = .ok (Nat.ofDigitChars 10 digits 0) :=
              (magnitude_eq_ok_iff (Nat.zero_le below)).mpr ⟨decimal,rfl,by omega⟩
            exact ⟨_,bind_eq_ok_iff.mpr ⟨_,read,rfl⟩,rfl⟩
  | case3 _ _ unsigned =>
      refine map_eq_ok_iff.trans ⟨?_,?_⟩
      · rintro ⟨n,read,rfl⟩
        obtain ⟨numeral,small⟩ := natural_eq_ok_iff.mp read
        exact ⟨.unsigned numeral,by simp,by simpa using small⟩
      · rintro ⟨numeral,_,upper⟩
        cases numeral with
        | unsigned numeral => exact ⟨_,natural_eq_ok_iff.mpr ⟨numeral,Int.ofNat_le.mp upper⟩,rfl⟩
        | minus => exact absurd rfl (unsigned _)

theorem SignedNumeral.unique {s : List Char} {one other : Int} (numeral : SignedNumeral s one)
    (also : SignedNumeral s other) : one = other := by
  have reads : ∀ z, SignedNumeral s z → z.natAbs ≤ one.natAbs + other.natAbs →
      signed (one.natAbs + other.natAbs) (one.natAbs + other.natAbs) s = .ok z :=
    fun z written small => signed_eq_ok_iff.mpr ⟨written,by omega,by omega⟩
  exact Except.ok.inj ((reads one numeral (by omega)).symm.trans (reads other also (by omega)))

theorem Numeral.unique {s : List Char} {one other : Nat} (numeral : Numeral s one)
    (also : Numeral s other) : one = other :=
  Int.ofNat_inj.mp (SignedNumeral.unique (.unsigned numeral) (.unsigned also))

theorem numeral_toDigits (n : Nat) : Numeral (Nat.toDigits 10 n) n := by
  have isDecimal := isDecimal_toDigits n
  have numeral := Numeral.plain isDecimal.present isDecimal.decimal
  rwa [isDecimal.value] at numeral

-- The text of an integer is a numeral of it, so that no two integers share one.
theorem signedNumeral_toString (z : Int) : SignedNumeral (toString z).toList z := by
  rw [Int.toString_eq_repr,Int.repr_eq_if]
  split
  · rename_i positive
    have numeral := SignedNumeral.unsigned (numeral_toDigits z.toNat)
    rwa [← Nat.toList_repr,Int.toNat_of_nonneg positive] at numeral
  · rename_i negative
    have isDecimal := isDecimal_toDigits (-z).toNat
    have value : -((-z).toNat : Int) = z := by omega
    have numeral := SignedNumeral.minus isDecimal.present isDecimal.decimal
    rw [isDecimal.value,value] at numeral
    rw [String.toList_append,Nat.toList_repr]
    exact numeral

theorem toString_inj {one other : Int} : toString one = toString other ↔ one = other := by
  constructor
  · intro same
    have numeral := signedNumeral_toString one
    rw [same] at numeral
    exact numeral.unique (signedNumeral_toString other)
  · rintro rfl
    rfl

-- Digits are read from the left up to the first character that is none, or to the digit that takes
-- the number past the bound.
inductive Breaks (most : Nat) (past : Fault) (soFar : Nat) (digits : List Char) : Fault → Prop where
  | badDigit {front rest : List Char} {c : Char} (cut : digits = front ++ c :: rest)
      (decimal : ∀ d ∈ front, d.isDigit = true) (within : Nat.ofDigitChars 10 front soFar ≤ most)
      (bad : ¬c.isDigit = true) : Breaks most past soFar digits .badDigit
  | past {front rest : List Char} {c : Char} (cut : digits = front ++ c :: rest)
      (decimal : ∀ d ∈ front, d.isDigit = true) (within : Nat.ofDigitChars 10 front soFar ≤ most)
      (digit : c.isDigit = true) (exceeds : most < Nat.ofDigitChars 10 (front ++ [c]) soFar) :
      Breaks most past soFar digits past

variable {most soFar : Nat} {past fault : Fault}

theorem Breaks.within {digits : List Char} (breaks : Breaks most past soFar digits fault) :
    soFar ≤ most := by
  cases breaks with
  | badDigit _ _ small => exact Nat.le_trans (le_ofDigitChars _ _) small
  | past _ _ small => exact Nat.le_trans (le_ofDigitChars _ _) small

theorem Breaks.cons_iff {c : Char} {rest : List Char} (bound : soFar ≤ most) :
    Breaks most past soFar (c :: rest) fault ↔
      (¬c.isDigit = true ∧ fault = .badDigit) ∨
      (c.isDigit = true ∧ most < 10 * soFar + (c.toNat - '0'.toNat) ∧ fault = past) ∨
      (c.isDigit = true ∧ Breaks most past (10 * soFar + (c.toNat - '0'.toNat)) rest fault) := by
  constructor
  · intro breaks
    cases breaks with
    | @badDigit front _ _ cut decimal small bad =>
        cases front with
        | nil => cases cut; exact .inl ⟨bad,rfl⟩
        | cons first front =>
            cases cut
            obtain ⟨digit,decimal⟩ := List.forall_mem_cons.mp decimal
            exact .inr (.inr ⟨digit,.badDigit rfl decimal small bad⟩)
    | @past front _ _ cut decimal small next exceeds =>
        cases front with
        | nil => cases cut; exact .inr (.inl ⟨next,exceeds,rfl⟩)
        | cons first front =>
            cases cut
            obtain ⟨digit,decimal⟩ := List.forall_mem_cons.mp decimal
            exact .inr (.inr ⟨digit,.past rfl decimal small next exceeds⟩)
  · intro broken
    rcases broken with ⟨bad,rfl⟩ | ⟨digit,exceeds,rfl⟩ | ⟨digit,breaks⟩
    · exact .badDigit (List.nil_append _).symm (List.forall_mem_nil _) bound bad
    · exact .past (List.nil_append _).symm (List.forall_mem_nil _) bound digit exceeds
    · cases breaks with
      | badDigit cut decimal small bad =>
          exact .badDigit (congrArg _ cut) (List.forall_mem_cons.mpr ⟨digit,decimal⟩) small bad
      | past cut decimal small next exceeds =>
          exact .past (congrArg _ cut) (List.forall_mem_cons.mpr ⟨digit,decimal⟩) small next exceeds

theorem magnitude_eq_error_iff {digits : List Char} (bound : soFar ≤ most) :
    magnitude most past soFar digits = .error fault ↔ Breaks most past soFar digits fault := by
  induction digits generalizing soFar with
  | nil =>
      refine ⟨nofun,?_⟩
      intro breaks
      cases breaks with
      | badDigit cut => simp at cut
      | past cut => simp at cut
  | cons c rest ih =>
      rw [magnitude,digit?,Breaks.cons_iff bound]
      by_cases digit : c.isDigit = true
      · rw [if_pos digit]
        simp only
        generalize 10 * soFar + (c.toNat - '0'.toNat) = next
        by_cases within : next ≤ most
        · rw [if_pos within,ih within]
          simp [digit,Nat.not_lt.mpr within]
        · have unbroken : ¬Breaks most past next rest fault := mt Breaks.within within
          rw [if_neg within]
          simp [unbroken,digit,Nat.not_le.mp within,eq_comm]
      · rw [if_neg digit]
        simp [digit,eq_comm]

-- A plus sign is passed over where something follows it; alone it is a bad digit.
def afterPlus : List Char → List Char
  | '+' :: c :: rest => c :: rest
  | s => s

inductive NaturalFault (most : Nat) (s : List Char) : Fault → Prop where
  | empty (nothing : s = []) : NaturalFault most s .empty
  | broken {fault : Fault} (breaks : Breaks most .tooLarge 0 (afterPlus s) fault) :
      NaturalFault most s fault

theorem natural_eq_error_iff {s : List Char} :
    natural most s = .error fault ↔ NaturalFault most s fault := by
  have reads : ∀ {digits}, magnitude most .tooLarge 0 digits = .error fault ↔
      Breaks most .tooLarge 0 digits fault :=
    magnitude_eq_error_iff (Nat.zero_le most)
  have broken : s ≠ [] → (NaturalFault most s fault ↔ Breaks most .tooLarge 0 (afterPlus s) fault) :=
    fun present => ⟨fun | .empty nothing => absurd nothing present | .broken breaks => breaks,.broken⟩
  fun_cases natural most s with
  | case1 =>
      constructor
      · rintro ⟨⟩
        exact .empty rfl
      · rintro (_ | ⟨breaks⟩)
        · rfl
        · exact nomatch reads.mpr breaks
  | case2 => exact reads.trans (broken (by simp)).symm
  | case3 digits present =>
      obtain ⟨c,rest,rfl⟩ := List.exists_cons_of_ne_nil present
      exact reads.trans (broken (by simp)).symm
  | case4 digits present alone unsigned =>
      have whole : afterPlus s = s := by
        unfold afterPlus
        split
        · exact (unsigned _ rfl).elim
        · rfl
      rw [broken present,whole]
      exact reads

inductive SignedFault (below above : Nat) (s : List Char) : Fault → Prop where
  | minus {digits : List Char} {fault : Fault} (negative : s = '-' :: digits) (present : digits ≠ [])
      (breaks : Breaks below .tooSmall 0 digits fault) : SignedFault below above s fault
  | unsigned {fault : Fault} (positive : ∀ digits, s = '-' :: digits → digits = [])
      (broken : NaturalFault above s fault) : SignedFault below above s fault

theorem signed_eq_error_iff {below above : Nat} {s : List Char} :
    signed below above s = .error fault ↔ SignedFault below above s fault := by
  fun_cases signed below above s with
  | case1 =>
      have alone : natural above ['-'] = .error .badDigit := rfl
      constructor
      · rintro ⟨⟩
        exact .unsigned (by rintro _ ⟨⟩; rfl) (natural_eq_error_iff.mp alone)
      · rintro (⟨⟨⟩,present,_⟩ | ⟨_,broken⟩)
        · exact absurd rfl present
        · cases alone.symm.trans (natural_eq_error_iff.mpr broken)
          rfl
  | case2 digits present =>
      refine map_eq_error_iff.trans (bind_eq_error_iff.trans ⟨?_,?_⟩)
      · rintro (read | ⟨_,_,⟨⟩⟩)
        exact .minus rfl present ((magnitude_eq_error_iff (Nat.zero_le below)).mp read)
      · rintro (⟨⟨⟩,_,breaks⟩ | ⟨positive,_⟩)
        · exact .inl ((magnitude_eq_error_iff (Nat.zero_le below)).mpr breaks)
        · exact absurd (positive digits rfl) present
  | case3 _ _ unsigned =>
      refine map_eq_error_iff.trans (natural_eq_error_iff.trans ⟨?_,?_⟩)
      · exact .unsigned (fun digits negative => (unsigned digits negative).elim)
      · rintro (⟨negative,_,_⟩ | ⟨_,broken⟩)
        · exact (unsigned _ negative).elim
        · exact broken

end HttpLayers.Text.Integer
