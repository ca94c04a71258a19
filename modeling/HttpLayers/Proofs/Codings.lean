import HttpLayers.Policy.ContentEncoding
import HttpLayers.Proofs.Entries

-- A value stands for its codings and nothing else, so how it is written does not count: two values with
-- the same codings are both allowed or both refused, and one coding that is not listed is enough to be
-- refused.

namespace HttpLayers.ContentEncoding

open Text

variable {policy : ContentEncoding} {accepted more : List String} {coding also : List Char}
  {one other value : String}

def Known (accepted : List String) (coding : List Char) : Prop :=
  ∃ entry ∈ accepted, lower entry.toList = lower coding

theorem Known.folded (known : Known accepted coding) (same : lower coding = lower also) :
    Known accepted also := by
  obtain ⟨entry,listed,folded⟩ := known
  exact ⟨entry,listed,folded.trans same⟩

theorem Known.enlarged (known : Known accepted coding) (kept : ∀ entry ∈ accepted, entry ∈ more) :
    Known more coding := by
  obtain ⟨entry,listed,folded⟩ := known
  exact ⟨entry,kept entry listed,folded⟩

-- Without a list nothing is admitted, not even a value without a coding.
def Admits (policy : ContentEncoding) (codings : List (List Char)) : Prop :=
  ∃ accepted, policy.encodings = some accepted ∧ ∀ coding ∈ codings, Known accepted coding

theorem allows_iff : policy.allows value = true ↔ policy.Admits (entries value.toList) := by
  unfold allows Admits
  cases policy.encodings with
  | none => simp
  | some accepted => simp [sameFolded_iff,Known]

theorem admits_append {codings others : List (List Char)} :
    policy.Admits (codings ++ others) ↔ policy.Admits codings ∧ policy.Admits others := by
  constructor
  · intro admits
    obtain ⟨accepted,configured,known⟩ := admits
    obtain ⟨first,second⟩ := List.forall_mem_append.mp known
    exact ⟨⟨accepted,configured,first⟩,⟨accepted,configured,second⟩⟩
  · intro both
    obtain ⟨⟨accepted,configured,first⟩,⟨_,again,second⟩⟩ := both
    cases configured.symm.trans again
    exact ⟨accepted,configured,List.forall_mem_append.mpr ⟨first,second⟩⟩

theorem Admits.of_folded {codings others : List (List Char)} (admits : policy.Admits codings)
    (within : ∀ folded, folded ∈ others.map lower → folded ∈ codings.map lower) :
    policy.Admits others := by
  obtain ⟨accepted,configured,known⟩ := admits
  refine ⟨accepted,configured,fun coding member => ?_⟩
  obtain ⟨also,present,same⟩ := List.mem_map.mp (within _ (List.mem_map_of_mem member))
  exact (known also present).folded same

theorem allows_cut (policy : ContentEncoding) (one other : String) :
    policy.allows (one ++ "," ++ other) = (policy.allows one && policy.allows other) := by
  have written : (one ++ "," ++ other).toList = one.toList ++ ',' :: other.toList := by simp
  rw [Bool.eq_iff_iff,Bool.and_eq_true,allows_iff,allows_iff,allows_iff,written,entries_cut,
    admits_append]

theorem allows_of_joined {values : List String} (allowed : policy.allows (",".intercalate values) = true)
    (member : value ∈ values) : policy.allows value = true := by
  rw [allows_iff,String.toList_intercalate] at allowed
  obtain ⟨accepted,configured,known⟩ := allowed
  refine allows_iff.mpr ⟨accepted,configured,fun coding inside => known coding ?_⟩
  rw [show ",".toList = [','] from rfl,entries_intercalate]
  exact List.mem_flatMap.mpr ⟨value.toList,List.mem_map_of_mem member,inside⟩

def listing (policy : ContentEncoding) (accepted : List String) : ContentEncoding :=
  { policy with encodings := some accepted }

theorem codings_decide (policy : ContentEncoding) :
    (∀ one other, policy.allows (one ++ "," ++ other) =
      (policy.allows one && policy.allows other)) ∧
    (policy.encodings = none → ∀ value, policy.allows value = false) ∧
    (∀ value, ∃ codings, (∀ others, Itemizes value.toList others ↔ others = codings) ∧
      (policy.allows value = true ↔ ∃ accepted, policy.encodings = some accepted ∧
        ∀ coding ∈ codings, ∃ entry ∈ accepted, lower entry.toList = lower coding)) ∧
    (∀ one other codings others, Itemizes one.toList codings → Itemizes other.toList others →
      (∀ folded, folded ∈ codings.map lower ↔ folded ∈ others.map lower) →
      policy.allows one = policy.allows other) ∧
    (∀ earlier value later, policy.allows value = false →
      policy.allows (",".intercalate (earlier ++ value :: later)) = false) ∧
    ∀ more, (∀ entry ∈ policy.encodings.getD [], entry ∈ more) →
      ∀ value, policy.allows value = true → (policy.listing more).allows value = true := by
  refine ⟨allows_cut policy,?unlisted,?exact,?unwritten,?anywhere,?enlarged⟩
  case unlisted =>
    intro unlisted value
    rw [allows,unlisted]
  case exact =>
    intro value
    exact ⟨entries value.toList,fun others => entries_eq_iff.symm.trans eq_comm,allows_iff⟩
  case unwritten =>
    intro one other codings others itemizes also same
    rw [Bool.eq_iff_iff,allows_iff,allows_iff,entries_eq_iff.mpr itemizes,entries_eq_iff.mpr also]
    exact ⟨fun admits => admits.of_folded fun folded => (same folded).mpr,
      fun admits => admits.of_folded fun folded => (same folded).mp⟩
  case anywhere =>
    intro earlier value later refused
    rw [Bool.eq_false_iff] at refused ⊢
    exact mt (allows_of_joined · (by simp)) refused
  case enlarged =>
    intro more kept value allowed
    obtain ⟨accepted,configured,known⟩ := allows_iff.mp allowed
    rw [configured] at kept
    exact allows_iff.mpr ⟨more,rfl,fun coding member => Known.enlarged (known coding member) kept⟩

example : ({} : ContentEncoding).allows " GZip ,, deflate\t,gzip" = true := by
  decide

end HttpLayers.ContentEncoding
