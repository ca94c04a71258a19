import HttpLayers.Proofs.Enumeration
import HttpLayers.Proofs.Stamp
import Mathlib.Data.List.Nodup

-- Several parts of a service may have a value for one header. They stand in a row, and the first that
-- has one decides. A stage that overwrites comes in at the front of the row and one that yields at
-- its end, whatever the stages further in have done.

namespace HttpLayers.Http

-- The values that one part has for a name.
abbrev Giver := FieldName → FieldValue → Prop

inductive Decided (name : FieldName) : List Giver → List FieldValue → Prop where
  | absent : Decided name [] []
  | given {giver : Giver} {others : List Giver} {value : FieldValue} (gives : giver name value) :
      Decided name (giver :: others) [value]
  | passed {giver : Giver} {others : List Giver} {values : List FieldValue}
      (silent : ∀ value, ¬giver name value) (decided : Decided name others values) :
      Decided name (giver :: others) values

-- The id has a value for its own header alone.
def marked (policy : RequestId) (request : Request) : Giver := fun name value =>
  name = policy.field ∧ policy.Stamped request value

namespace Decided

variable {name : FieldName} {giver : Giver} {givers others : List Giver}
  {values : List FieldValue} {given : Headers} {patch : HeaderPatch}

theorem single (decided : Decided name givers values) : values.length ≤ 1 := by
  induction decided with
  | absent => exact Nat.zero_le 1
  | given => exact Nat.le_refl 1
  | passed _ _ ih => exact ih

theorem unique {other : List FieldValue}
    (one : ∀ giver ∈ givers, ∀ first second, giver name first → giver name second →
      first = second)
    (decided : Decided name givers values) (also : Decided name givers other) :
    values = other := by
  induction decided with
  | absent =>
      cases also
      rfl
  | given gives =>
      cases also with
      | given too => rw [one _ List.mem_cons_self _ _ gives too]
      | passed silent => exact absurd gives (silent _)
  | passed silent _ ih =>
      cases also with
      | given gives => exact absurd gives (silent _)
      | passed _ next => exact ih (fun giver listed => one giver (List.mem_cons_of_mem _ listed)) next

-- Those at the end of the row do not count where somebody has a value.
theorem before (present : values ≠ []) (decided : Decided name givers values) :
    Decided name (givers ++ others) values := by
  induction decided with
  | absent => exact absurd rfl present
  | given gives => exact .given gives
  | passed silent _ ih => exact .passed silent (ih present)

theorem behind (decided : Decided name givers []) (next : Decided name others values) :
    Decided name (givers ++ others) values := by
  generalize empty : ([] : List FieldValue) = nothing at decided
  induction decided with
  | absent => exact next
  | given => cases empty
  | passed silent _ ih => exact .passed silent (ih empty)

theorem silent_behind (silent : ∀ value, ¬giver name value)
    (decided : Decided name givers values) : Decided name (givers ++ [giver]) values := by
  by_cases empty : values = []
  · subst empty
    exact decided.behind (.passed silent .absent)
  · exact decided.before empty

theorem overwritten (overwrites : patch.overwrite = true)
    (gives : ∀ value, giver name value ↔ (name,value) ∈ patch.set)
    (decided : Decided name givers (given.values name)) :
    Decided name (giver :: givers) ((patch.apply given).values name) := by
  have carries := HeaderPatch.apply_exact.mp (rfl : (patch.apply given).values name = _)
  generalize (patch.apply given).values name = values at carries ⊢
  cases carries with
  | unruled free => exact .passed (fun value => mt (gives value).mp (free value)) decided
  | replaced _ cut => exact .given ((gives _).mpr (by rw [cut]; simp))
  | kept yields | filled yields =>
      rw [yields] at overwrites
      cases overwrites

theorem yielded (yields : patch.overwrite = false)
    (gives : ∀ value, giver name value ↔ (name,value) ∈ patch.set)
    (decided : Decided name givers (given.values name)) :
    Decided name (givers ++ [giver]) ((patch.apply given).values name) := by
  have carries := HeaderPatch.apply_exact.mp (rfl : (patch.apply given).values name = _)
  generalize (patch.apply given).values name = values at carries ⊢
  cases carries with
  | unruled free => exact decided.silent_behind fun value => mt (gives value).mp (free value)
  | replaced overwrites =>
      rw [yields] at overwrites
      cases overwrites
  | kept _ present => exact decided.before present
  | filled _ absent cut =>
      rw [absent] at decided
      exact decided.behind (.given ((gives _).mpr (by rw [cut]; simp)))

theorem stamped {policy : RequestId} {request : Request} {response : Response}
    (decided : Decided name givers (response.headers.values name)) :
    Decided name (marked policy request :: givers)
      ((policy.answer request response).headers.values name) := by
  unfold RequestId.answer
  split
  · rename_i none
    refine .passed ?_ decided
    intro value id
    rw [RequestId.stamp?_exact.mpr id.2] at none
    cases none
  · rename_i value drawn
    rw [Headers.values_insert]
    split
    · rename_i same
      exact .given ⟨same.symm,RequestId.stamp?_exact.mp drawn⟩
    · rename_i other
      exact .passed (fun _ id => other id.1.symm) decided

end Decided

-- A pair of a table counts where both of its parts are legal; a value is so by its type.
structure Spelled (entry : String × String) (name : FieldName) (value : FieldValue) : Prop where
  token : isToken entry.1.toList = true
  short : entry.1.toList.length ≤ 65535
  named : name.text = String.ofList (Text.lower entry.1.toList)
  valued : value.bytes = Bytes.ofString entry.2

def Listed (table : List (String × String)) : Giver := fun name value =>
  ∃ entry ∈ table, Spelled entry name value

-- No two names of the table differ in case only.
def Apart (table : List (String × String)) : Prop :=
  (table.map fun entry => Text.lower entry.1.toList).Nodup

instance (table : List (String × String)) : Decidable (Apart table) :=
  inferInstanceAs (Decidable (List.Nodup _))

variable {table : List (String × String)} {name : FieldName} {value : FieldValue}

theorem field?_iff {entry : String × String} :
    HeaderPatch.field? entry.1 entry.2 = some (name,value) ↔ Spelled entry name value := by
  have parts : HeaderPatch.field? entry.1 entry.2 = some (name,value) ↔
      FieldName.ofString? entry.1 = some name ∧ FieldValue.ofString? entry.2 = some value := by
    unfold HeaderPatch.field?
    cases FieldName.ofString? entry.1 <;> cases FieldValue.ofString? entry.2 <;> simp
  rw [parts,FieldName.ofString?,FieldName.ofText?_eq_some_iff,FieldValue.ofString?_eq_some_iff]
  constructor
  · intro both
    obtain ⟨⟨token,short,named⟩,valued⟩ := both
    exact ⟨token,short,named,valued⟩
  · intro spelled
    obtain ⟨token,short,named,valued⟩ := spelled
    exact ⟨⟨token,short,named⟩,valued⟩

theorem listed_iff : Listed table name value ↔ (name,value) ∈ HeaderPatch.legal table := by
  simp only [HeaderPatch.mem_legal,field?_iff,Listed]

theorem listed_iff_sorted :
    Listed table name value ↔ (name,value) ∈ HeaderPatch.sortedFields table :=
  listed_iff.trans (HeaderPatch.sortedFields_perm table).mem_iff.symm

theorem listed_nowhere
    (unnamed : name.text ∉ table.map fun entry => String.ofList (Text.lower entry.1.toList)) :
    ∀ value, ¬Listed table name value := by
  intro value listed
  obtain ⟨entry,member,spelled⟩ := listed
  exact unnamed (List.mem_map.mpr ⟨entry,member,spelled.named.symm⟩)

theorem Apart.one {other : FieldValue} (apart : Apart table) (listed : Listed table name value)
    (also : Listed table name other) : value = other := by
  obtain ⟨entry,member,spelled⟩ := listed
  obtain ⟨again,included,spells⟩ := also
  have named := String.ofList_injective (spelled.named.symm.trans spells.named)
  have same := List.inj_on_of_nodup_map apart member included named
  exact FieldValue.ext (by rw [spelled.valued,spells.valued,same])

end HttpLayers.Http
