import HttpLayers.Net.Address.Reader

-- Numbers as digit lists, and numerals as the readers of an address take them.

namespace HttpLayers.Net

open IpAddress

theorem ofDigits_concat (base : Nat) (digits : List Nat) (d : Nat) :
    ofDigits base (digits ++ [d]) = base * ofDigits base digits + d := by
  rw [ofDigits,List.foldl_append]
  rfl

theorem ofDigits_digitsOf {base count n : Nat} (fits : n < Nat.pow base count) :
    ofDigits base (digitsOf base count n) = n := by
  induction count generalizing n with
  | zero => exact (Nat.lt_one_iff.mp fits).symm
  | succ count ih =>
      rw [digitsOf,ofDigits_concat,ih (Nat.div_lt_of_lt_mul (by rwa [Nat.mul_comm])),
        Nat.div_add_mod]

theorem length_digitsOf (base count n : Nat) : (digitsOf base count n).length = count := by
  induction count generalizing n with
  | zero => rfl
  | succ count ih => rw [digitsOf,List.length_append,ih]; rfl

theorem lt_of_mem_digitsOf {base count n d : Nat} (positive : 0 < base)
    (member : d ∈ digitsOf base count n) : d < base := by
  induction count generalizing n with
  | zero => cases member
  | succ count ih =>
      rcases List.mem_append.mp member with front | last
      · exact ih front
      · rw [List.mem_singleton.mp last]
        exact Nat.mod_lt n positive

theorem digitValue_digitChar : ∀ d < 16, Reader.digitValue (Nat.digitChar d) = d := by
  decide

theorem isHexDigit_digitChar : ∀ d < 16, Reader.isHexDigit (Nat.digitChar d) = true := by
  decide

-- What is common to decimal and hexadecimal numerals.
structure IsBase (base : Nat) : Prop where
  least : 1 < base
  most : base ≤ 16

theorem isBase_ten : IsBase 10 := ⟨by decide,by decide⟩

theorem isBase_sixteen : IsBase 16 := ⟨by decide,by decide⟩

theorem digits_of_mem_toDigits {base n : Nat} (isBase : IsBase base) {c : Char}
    (member : c ∈ Nat.toDigits base n) : ∃ d < base, c = Nat.digitChar d := by
  induction n using Nat.strongRecOn with
  | ind n ih =>
      rw [Nat.toDigits_eq_if isBase.least] at member
      split at member
      · rename_i small
        exact ⟨n,small,List.mem_singleton.mp member⟩
      · rename_i large
        rcases List.mem_append.mp member with front | last
        · exact ih _ (Nat.div_lt_self (by have := isBase.least; omega) isBase.least) front
        · exact ⟨_,Nat.mod_lt n (Nat.lt_trans Nat.zero_lt_one isBase.least),
            List.mem_singleton.mp last⟩

theorem ofDigits_toDigits {base : Nat} (isBase : IsBase base) (n : Nat) :
    ofDigits base ((Nat.toDigits base n).map Reader.digitValue) = n := by
  have most := isBase.most
  induction n using Nat.strongRecOn with
  | ind n ih =>
      rw [Nat.toDigits_eq_if isBase.least]
      split
      · rename_i small
        rw [List.map_singleton,digitValue_digitChar n (by omega)]
        simp [ofDigits]
      · rename_i large
        have shorter : n / base < n :=
          Nat.div_lt_self (by have := isBase.least; omega) isBase.least
        have digit : n % base < base := Nat.mod_lt n (Nat.lt_trans Nat.zero_lt_one isBase.least)
        rw [List.map_append,List.map_singleton,ofDigits_concat,ih _ shorter,
          digitValue_digitChar _ (by omega),Nat.div_add_mod]

theorem toDigits_head_zero {base n : Nat} (isBase : IsBase base)
    (first : (Nat.toDigits base n).head? = some '0') : n = 0 := by
  induction n using Nat.strongRecOn with
  | ind n ih =>
      rw [Nat.toDigits_eq_if isBase.least] at first
      split at first
      · exact Nat.digitChar_eq_zero.mp (Option.some.inj first)
      · rename_i large
        have positive := isBase.least
        have front : (Nat.toDigits base (n / base)).head? = some '0' := by
          rwa [List.head?_append,List.head?_eq_some_head Nat.toDigits_ne_nil,Option.some_or,
            ← List.head?_eq_some_head] at first
        have none := ih _ (Nat.div_lt_self (by omega) isBase.least) front
        have some := Nat.div_pos (Nat.le_of_not_lt large) (Nat.lt_trans Nat.zero_lt_one positive)
        omega

namespace Reader

-- The numeral in front is not continued.
def Ends (p : Char → Bool) (rest : List Char) : Prop :=
  ∀ c, rest.head? = some c → p c = false

theorem ends_nil (p : Char → Bool) : Ends p [] := by
  intro c first
  cases first

theorem ends_cons {p : Char → Bool} {c : Char} {rest : List Char} (outside : p c = false) :
    Ends p (c :: rest) := by
  rintro _ ⟨⟩
  exact outside

theorem cut_ends {p : Char → Bool} {front rest : List Char} (inside : ∀ c ∈ front, p c = true)
    (ends : Ends p rest) :
    (front ++ rest).takeWhile p = front ∧ (front ++ rest).dropWhile p = rest := by
  rw [List.takeWhile_append_of_pos inside,List.dropWhile_append_of_pos inside]
  cases rest with
  | nil => exact ⟨List.append_nil front,rfl⟩
  | cons c rest =>
      have outside : ¬p c = true := by simp [ends c rfl]
      rw [List.takeWhile_cons_of_neg outside,List.dropWhile_cons_of_neg outside,List.append_nil]
      exact ⟨rfl,rfl⟩

theorem isDigit_of_mem_toDigits {n : Nat} : ∀ c ∈ Nat.toDigits 10 n, c.isDigit = true :=
  fun _ => Nat.isDigit_of_mem_toDigits (by decide) (by decide)

theorem isHexDigit_of_mem_toDigits {base n : Nat} (isBase : IsBase base) :
    ∀ c ∈ Nat.toDigits base n, isHexDigit c = true := by
  intro c member
  obtain ⟨d,small,rfl⟩ := digits_of_mem_toDigits isBase member
  exact isHexDigit_digitChar d (Nat.lt_of_lt_of_le small isBase.most)

theorem ofDigits_digitValue {digits : List Char} (decimal : ∀ c ∈ digits, c.isDigit = true) :
    ofDigits 10 (digits.map digitValue) = Nat.ofDigitChars 10 digits 0 := by
  rw [ofDigits,Nat.ofDigitChars_eq_foldl,List.foldl_map]
  apply List.foldl_rel (r := Eq) rfl
  intro c member n _ same
  rw [same,digitValue,if_pos (decimal c member)]
  rfl

-- A number without a sign. Zeros in front are allowed in any number.
structure IsDecimal (digits : List Char) (n : Nat) : Prop where
  present : digits ≠ []
  decimal : ∀ c ∈ digits, c.isDigit = true
  value : Nat.ofDigitChars 10 digits 0 = n

theorem IsDecimal.not_mem {digits : List Char} {n : Nat} (isDecimal : IsDecimal digits n) {c : Char}
    (other : c.isDigit = false) : c ∉ digits := by
  intro member
  cases (isDecimal.decimal c member).symm.trans other

theorem isDecimal_toDigits (n : Nat) : IsDecimal (Nat.toDigits 10 n) n :=
  ⟨Nat.toDigits_ne_nil,isDigit_of_mem_toDigits,Nat.ofDigitChars_ten_toDigits⟩

theorem decimal_eq_some_iff {most n : Nat} {s rest : List Char} :
    decimal most s = some (n,rest) ↔
      ∃ digits, s = digits ++ rest ∧ IsDecimal digits n ∧ n ≤ most ∧ Ends Char.isDigit rest := by
  constructor
  · intro read
    obtain ⟨⟨present,small⟩,same⟩ := Option.ite_none_right_eq_some.mp read
    obtain ⟨rfl,rfl⟩ := Prod.mk.inj (Option.some.inj same)
    have decimal := List.all_eq_true.mp (List.all_takeWhile (p := Char.isDigit) (l := s))
    refine ⟨_,List.takeWhile_append_dropWhile.symm,⟨present,decimal,?_⟩,small,?_⟩
    · exact (ofDigits_digitValue decimal).symm
    · intro c first
      have stopped := List.head?_dropWhile_not Char.isDigit s
      rw [first] at stopped
      simpa using stopped
  · intro written
    obtain ⟨digits,rfl,isDecimal,small,ends⟩ := written
    obtain ⟨taken,left⟩ := cut_ends isDecimal.decimal ends
    simp only [decimal,taken,left,ofDigits_digitValue isDecimal.decimal,isDecimal.value]
    exact if_pos ⟨isDecimal.present,small⟩

theorem decimal_toDigits {most n : Nat} {rest : List Char} (bound : n ≤ most)
    (ends : Ends Char.isDigit rest) :
    decimal most (Nat.toDigits 10 n ++ rest) = some (n,rest) :=
  decimal_eq_some_iff.mpr ⟨_,rfl,isDecimal_toDigits n,bound,ends⟩

theorem octet_toDigits {n : Nat} {rest : List Char} (small : n < 256)
    (ends : Ends Char.isDigit rest) : octet (Nat.toDigits 10 n ++ rest) = some (n,rest) := by
  have taken := (cut_ends (isDigit_of_mem_toDigits (n := n)) ends).1
  have length : (Nat.toDigits 10 n).length ≤ 3 :=
    (Nat.length_toDigits_le_iff (by decide) (by decide)).mpr (Nat.lt_trans small (by decide))
  have zero : (Nat.toDigits 10 n).head? = some '0' → (Nat.toDigits 10 n).length = 1 := by
    intro first
    rw [toDigits_head_zero isBase_ten first]
    rfl
  simp only [octet,taken]
  rw [if_pos ⟨length,zero⟩,decimal_toDigits (Nat.le_of_lt_succ small) ends]

theorem group_toDigits {n : Nat} {rest : List Char} (small : n < 65536)
    (ends : Ends isHexDigit rest) : group (Nat.toDigits 16 n ++ rest) = some (n,rest) := by
  obtain ⟨taken,left⟩ := cut_ends (isHexDigit_of_mem_toDigits (n := n) isBase_sixteen) ends
  have length : (Nat.toDigits 16 n).length ≤ 4 :=
    (Nat.length_toDigits_le_iff (by decide) (by decide)).mpr small
  simp only [group,taken,left,ofDigits_toDigits isBase_sixteen]
  exact if_pos ⟨Nat.toDigits_ne_nil,length⟩

theorem group_ends {s : List Char} (ends : Ends isHexDigit s) : group s = none := by
  have taken : s.takeWhile isHexDigit = [] := (cut_ends (List.forall_mem_nil _) ends).1
  simp [group,taken]

end Reader

end HttpLayers.Net
