-- Only the case of ASCII letters is disregarded: `É` and `é` differ.

namespace HttpLayers.Text

def lower (s : List Char) : List Char :=
  s.map Char.toLower

def sameFolded (s t : List Char) : Bool :=
  lower s == lower t

theorem sameFolded_iff {s t : List Char} : sameFolded s t = true ↔ lower s = lower t := by
  simp [sameFolded]

theorem toLower_cases (c : Char) : c.toLower = c ∨
    65 ≤ c.toNat ∧ c.toNat ≤ 90 ∧ c.toLower.toNat = c.toNat + 32 := by
  unfold Char.toLower
  split
  · rename_i upper
    have least : 65 ≤ c.val.toNat := UInt32.le_iff_toNat_le.mp upper.1
    have most : c.val.toNat ≤ 90 := UInt32.le_iff_toNat_le.mp upper.2
    refine .inr ⟨least,most,?_⟩
    change (c.val + ('a'.val - 'A'.val)).toNat = c.val.toNat + 32
    rw [UInt32.toNat_add,show ('a'.val - 'A'.val).toNat = 32 from rfl,Nat.mod_eq_of_lt (by omega)]
  · exact .inl rfl

theorem toLower_toLower (c : Char) : c.toLower.toLower = c.toLower := by
  rcases toLower_cases c.toLower with same | ⟨least,most,_⟩
  · exact same
  · rcases toLower_cases c with same | ⟨_,_,code⟩
    · rw [same]
      exact same
    · omega

theorem lower_lower (s : List Char) : lower (lower s) = lower s := by
  rw [lower,lower,List.map_map]
  exact List.map_congr_left fun c _ => toLower_toLower c

-- Nothing but a letter becomes a letter, so what comes before the small ones comes of itself.
theorem eq_of_toLower {c d : Char} (lowered : c.toLower = d) (before : d.toNat < 'a'.toNat) :
    c = d := by
  rcases toLower_cases c with same | ⟨least,_,code⟩
  · exact same.symm.trans lowered
  · rw [lowered] at code
    have small : d.toNat < 97 := before
    omega

end HttpLayers.Text
