import HttpLayers.Net.Cidr
import HttpLayers.Proofs.Address.Alphabet
import HttpLayers.Proofs.Integer
import HttpLayers.Proofs.Parts

-- How a range is written. Neither an address nor a number has a slash or white space in it, so there is
-- one place at most where a text can be cut, and either both parts fit or it is no range.

namespace HttpLayers.Net.Cidr

open Text Integer

-- An address alone is the range of that address. A number behind a slash is the length of the prefix,
-- and it never exceeds the bits that the address has.
inductive Spells : List Char → Cidr → Prop where
  | alone {text : List Char} {address : IpAddress}
      (read : IpAddress.ofText? text = some address) :
      Spells text ⟨address,address.width,Nat.le_refl _⟩
  | slashed {text numeral : List Char} {address : IpAddress} {length : Nat}
      (read : IpAddress.ofText? text = some address) (written : Numeral numeral length)
      (fits : length ≤ address.width) :
      Spells (text ++ '/' :: numeral) ⟨address,length,fits⟩

theorem width_le (address : IpAddress) : address.width ≤ 128 := by
  cases address with
  | v4 bits => exact (by decide : 32 ≤ 128)
  | v6 bits => exact Nat.le_refl _

theorem make?_eq_some_iff {network : IpAddress} {length : Nat} {range : Cidr} :
    make? network length = some range ↔ ∃ fits, range = ⟨network,length,fits⟩ := by
  unfold make?
  split
  · rename_i fits
    simp [fits,eq_comm]
  · rename_i long
    simp [long]

theorem natural_toOption {most n : Nat} {numeral : List Char} :
    (natural most numeral).toOption = some n ↔ Numeral numeral n ∧ n ≤ most := by
  rw [← natural_eq_ok_iff]
  cases natural most numeral <;> simp [Except.toOption]

theorem slash_not_mem {text : List Char} {address : IpAddress}
    (read : IpAddress.ofText? text = some address) : '/' ∉ text :=
  IpAddress.not_mem_ofText? read (by decide)

theorem mem_numeral {numeral : List Char} {n : Nat} (written : Numeral numeral n) :
    ∀ c ∈ numeral, c = '+' ∨ c.isDigit = true := by
  cases written with
  | plain _ decimal => exact fun c member => .inr (decimal c member)
  | plus _ decimal =>
      intro c member
      rcases List.mem_cons.mp member with sign | digit
      · exact .inl sign
      · exact .inr (decimal c digit)

variable {s text left right : List Char} {range : Cidr}

theorem read_alone (whole : '/' ∉ text) :
    (IpAddress.ofText? text >>= fun address => make? address address.width) = some range ↔
      Spells text range := by
  rw [Option.bind_eq_bind,Option.bind_eq_some_iff]
  constructor
  · intro found
    obtain ⟨address,read,made⟩ := found
    obtain ⟨_,rfl⟩ := make?_eq_some_iff.mp made
    exact .alone read
  · intro spelled
    cases spelled with
    | alone read => exact ⟨_,read,make?_eq_some_iff.mpr ⟨_,rfl⟩⟩
    | slashed => simp at whole

-- A number is read with room for 255, but one that fits an address is far smaller.
theorem read_cut (first : '/' ∉ left) :
    (IpAddress.ofText? left >>= fun address => (natural 255 right).toOption >>= make? address) =
        some range ↔ Spells (left ++ '/' :: right) range := by
  simp only [Option.bind_eq_bind,Option.bind_eq_some_iff,natural_toOption]
  constructor
  · intro found
    obtain ⟨address,read,length,⟨written,_⟩,made⟩ := found
    obtain ⟨fits,rfl⟩ := make?_eq_some_iff.mp made
    exact .slashed read written fits
  · intro spelled
    generalize cut : left ++ '/' :: right = whole at spelled
    cases spelled with
    | alone read => exact absurd (cut ▸ List.mem_append_cons_self) (slash_not_mem read)
    | @slashed _ _ address _ read written fits =>
        obtain ⟨rfl,rfl⟩ := cut_unique cut first (slash_not_mem read)
        have most := width_le address
        exact ⟨_,read,_,⟨written,by omega⟩,make?_eq_some_iff.mpr ⟨_,rfl⟩⟩

theorem ofText?_eq_some_iff : ofText? s = some range ↔ Spells (trim s) range := by
  unfold ofText?
  dsimp only
  cases cut : splitOnce '/' (trim s) with
  | none => exact read_alone (splitOnce_eq_none_iff.mp cut)
  | some parts =>
      obtain ⟨whole,first⟩ := splitOnce_eq_some_iff.mp cut
      rw [whole]
      exact read_cut first

-- What can be wrong with the two sides of a slash.
inductive Spoiled (left right : List Char) : Prop where
  | again (second : '/' ∈ left ∨ '/' ∈ right) : Spoiled left right
  | empty (nothing : left = [] ∨ right = []) : Spoiled left right
  | spaced {c : Char} (member : c ∈ left ∨ c ∈ right) (blank : isBlank c = true) :
      Spoiled left right
  | large {n : Nat} (written : Numeral right n) (exceeds : 256 ≤ n) : Spoiled left right

-- With the slash of the range there is no place for another one.
theorem cut_spelled {numeral : List Char} {address : IpAddress} {length : Nat}
    (read : IpAddress.ofText? text = some address) (written : Numeral numeral length)
    (same : left ++ '/' :: right = text ++ '/' :: numeral) :
    '/' ∉ right ∧ left = text ∧ right = numeral := by
  have before := slash_not_mem read
  have after : '/' ∉ numeral := by
    intro member
    rcases mem_numeral written '/' member with sign | digit
    · cases sign
    · cases digit
  have slashes := congrArg (List.count '/') same
  simp only [List.count_append,List.count_cons_self,List.count_eq_zero.mpr before,
    List.count_eq_zero.mpr after] at slashes
  have first : '/' ∉ left := List.count_eq_zero.mp (by omega)
  obtain ⟨rfl,rfl⟩ := cut_unique same first before
  exact ⟨after,rfl,rfl⟩

theorem Spoiled.not_spells (spoiled : Spoiled left right) :
    ¬Spells (left ++ '/' :: right) range := by
  intro spelled
  generalize cut : left ++ '/' :: right = whole at spelled
  cases spelled with
  | alone read => exact absurd (cut ▸ List.mem_append_cons_self) (slash_not_mem read)
  | @slashed _ _ address _ read written fits =>
      obtain ⟨after,rfl,rfl⟩ := cut_spelled read written cut
      cases spoiled with
      | again second =>
          rcases second with early | late
          · exact slash_not_mem read early
          · exact after late
      | empty nothing =>
          rcases nothing with rfl | rfl
          · exact IpAddress.ne_nil_of_ofText? read rfl
          · cases written with
            | plain present => exact present rfl
      | @spaced c member blank =>
          have visible : 32 < c.toNat ∧ c.toNat < 127 := by
            rcases member with early | late
            · exact (IpAddress.mem_ofText? read c early).visible
            · rcases mem_numeral written c late with rfl | digit
              · decide
              · exact (IsAddressChar.of_digit digit).visible
          rw [not_blank_of_visible visible] at blank
          cases blank
      | large other exceeds =>
          have most := width_le address
          have same := written.unique other
          omega

theorem reads_exactly (s : List Char) :
    (∀ range, ofText? s = some range ↔ Spells (trim s) range) ∧
    ∀ left right, trim s = left ++ '/' :: right → Spoiled left right → ofText? s = none := by
  refine ⟨fun _ => ofText?_eq_some_iff,?_⟩
  intro left right cut spoiled
  apply Option.eq_none_iff_forall_ne_some.mpr
  intro range read
  have spelled := ofText?_eq_some_iff.mp read
  rw [cut] at spelled
  exact spoiled.not_spells spelled

-- The bits behind the prefix stay as written.
example : ofText? " 10.1.2.3/+008 ".toList = some ⟨.v4 0x0A010203,8,by decide⟩ := by decide

end HttpLayers.Net.Cidr
