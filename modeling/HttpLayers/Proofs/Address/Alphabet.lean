import HttpLayers.Proofs.Trim
import HttpLayers.Net.Address.Reader

-- What an address can be read from: hexadecimal digits, dots and colons. A slash or white space is never
-- taken for a part of one.

namespace HttpLayers.Net

open Reader Text

def IsAddressChar (c : Char) : Prop :=
  c = '.' ∨ c = ':' ∨ isHexDigit c = true

instance (c : Char) : Decidable (IsAddressChar c) :=
  inferInstanceAs (Decidable (c = '.' ∨ c = ':' ∨ isHexDigit c = true))

theorem Reader.isHexDigit_iff {c : Char} : isHexDigit c = true ↔
    ((48 ≤ c.toNat ∧ c.toNat ≤ 57) ∨ 97 ≤ c.toNat ∧ c.toNat ≤ 102) ∨
      65 ≤ c.toNat ∧ c.toNat ≤ 70 := by
  simp only [isHexDigit,Char.isDigit,Bool.or_eq_true,Bool.and_eq_true,decide_eq_true_eq,
    Char.le_def,UInt32.le_iff_toNat_le]
  exact Iff.rfl

theorem IsAddressChar.visible {c : Char} (kind : IsAddressChar c) : 32 < c.toNat ∧ c.toNat < 127 := by
  rcases kind with rfl | rfl | digit
  · decide
  · decide
  · rw [isHexDigit_iff] at digit
    omega

theorem IsAddressChar.of_digit {c : Char} (digit : c.isDigit = true) : IsAddressChar c :=
  .inr (.inr (by simp [isHexDigit,digit]))

-- Nothing but characters of an address stands in `s` before `rest`.
def Leads (s rest : List Char) : Prop :=
  ∃ front, s = front ++ rest ∧ ∀ c ∈ front, IsAddressChar c

theorem Leads.refl (s : List Char) : Leads s s :=
  ⟨[],rfl,List.forall_mem_nil _⟩

theorem Leads.trans {s middle rest : List Char} (first : Leads s middle)
    (second : Leads middle rest) : Leads s rest := by
  obtain ⟨front,rfl,before⟩ := first
  obtain ⟨more,rfl,after⟩ := second
  refine ⟨front ++ more,(List.append_assoc ..).symm,?_⟩
  intro c member
  rcases List.mem_append.mp member with early | late
  · exact before c early
  · exact after c late

theorem Leads.mem {s rest : List Char} (leads : Leads s rest) {c : Char} (member : c ∈ rest) :
    c ∈ s := by
  obtain ⟨front,rfl,_⟩ := leads
  exact List.mem_append_right front member

theorem Leads.dropWhile {p : Char → Bool} (inside : ∀ c, p c = true → IsAddressChar c)
    (s : List Char) : Leads s (s.dropWhile p) := by
  refine ⟨s.takeWhile p,List.takeWhile_append_dropWhile.symm,?_⟩
  intro c member
  exact inside c (List.all_eq_true.mp List.all_takeWhile c member)

namespace IpAddress

variable {s rest : List Char}

theorem exactly_leads {c : Char} {value : Unit} (kind : IsAddressChar c)
    (read : exactly c s = some (value,rest)) : Leads s rest := by
  rw [exactly_eq_some_iff.mp read]
  exact ⟨[c],rfl,by simpa using kind⟩

theorem octet_leads {n : Nat} (read : octet s = some (n,rest)) : Leads s rest := by
  unfold octet decimal at read
  dsimp only at read
  split at read
  · split at read
    · cases read
      exact .dropWhile (fun _ => .of_digit) s
    · cases read
  · cases read

theorem group_leads {g : Nat} (read : group s = some (g,rest)) : Leads s rest := by
  unfold group at read
  dsimp only at read
  split at read
  · cases read
    exact .dropWhile (fun _ digit => .inr (.inr digit)) s
  · cases read

theorem readV4_leads {bits : BitVec 32} (read : readV4 s = some (bits,rest)) : Leads s rest := by
  unfold readV4 at read
  obtain ⟨⟨_,_⟩,first,read⟩ := Option.bind_eq_some_iff.mp read
  obtain ⟨⟨_,_⟩,dot,read⟩ := Option.bind_eq_some_iff.mp read
  obtain ⟨⟨_,_⟩,second,read⟩ := Option.bind_eq_some_iff.mp read
  obtain ⟨⟨_,_⟩,again,read⟩ := Option.bind_eq_some_iff.mp read
  obtain ⟨⟨_,_⟩,third,read⟩ := Option.bind_eq_some_iff.mp read
  obtain ⟨⟨_,_⟩,more,read⟩ := Option.bind_eq_some_iff.mp read
  obtain ⟨⟨_,_⟩,fourth,read⟩ := Option.bind_eq_some_iff.mp read
  cases read
  have isDot : IsAddressChar '.' := .inl rfl
  exact (octet_leads first).trans ((exactly_leads isDot dot).trans ((octet_leads second).trans
    ((exactly_leads isDot again).trans ((octet_leads third).trans
      ((exactly_leads isDot more).trans (octet_leads fourth))))))

theorem readGroups_leads (room : Nat) (leading : Bool) (s : List Char) :
    Leads s (readGroups room leading s).rest := by
  induction room generalizing leading s with
  | zero => exact .refl s
  | succ room ih =>
      rw [readGroups]
      split
      · exact .refl s
      · rename_i t separated
        have colon : Leads s t := by
          cases leading with
          | true => cases separated; exact .refl s
          | false => exact exactly_leads (.inr (.inl rfl)) separated
        split
        · rename_i bits rest octets
          split at octets
          · cases octets
          · exact colon.trans (readV4_leads octets)
        · split
          · exact .refl s
          · rename_i g rest digits
            exact colon.trans ((group_leads digits).trans (ih false rest))

theorem readV6_leads {bits : BitVec 128} (read : readV6 s = some (bits,rest)) : Leads s rest := by
  have front := readGroups_leads 8 true s
  have isColon : IsAddressChar ':' := .inr (.inl rfl)
  unfold readV6 at read
  dsimp only at read
  split at read
  · cases read
    exact front
  · split at read
    · cases read
    · obtain ⟨⟨_,_⟩,colon,read⟩ := Option.bind_eq_some_iff.mp read
      obtain ⟨⟨_,_⟩,again,read⟩ := Option.bind_eq_some_iff.mp read
      cases read
      exact front.trans ((exactly_leads isColon colon).trans
        ((exactly_leads isColon again).trans (readGroups_leads ..)))

theorem read_leads {address : IpAddress} (found : read s = some (address,rest)) :
    Leads s rest := by
  unfold read at found
  split at found
  · rename_i octets
    cases found
    exact readV4_leads octets
  · obtain ⟨⟨_,_⟩,groups,made⟩ := Option.map_eq_some_iff.mp found
    cases made
    exact readV6_leads groups

theorem mem_ofText? {address : IpAddress} (found : ofText? s = some address) :
    ∀ c ∈ s, IsAddressChar c := by
  unfold ofText? at found
  split at found
  · rename_i whole
    obtain ⟨front,rfl,inside⟩ := read_leads whole
    rwa [List.append_nil]
  · cases found

theorem not_mem_ofText? {address : IpAddress} (found : ofText? s = some address) {c : Char}
    (other : ¬IsAddressChar c) : c ∉ s :=
  fun member => other (mem_ofText? found c member)

theorem trim_of_ofText? {address : IpAddress} (found : ofText? s = some address) : trim s = s :=
  strip_of_bare (.of_all fun c member => not_blank_of_visible (mem_ofText? found c member).visible)

theorem ne_nil_of_ofText? {address : IpAddress} (found : ofText? s = some address) : s ≠ [] := by
  rintro rfl
  cases found

end IpAddress

end HttpLayers.Net
