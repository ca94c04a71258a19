import HttpLayers.Snapshot

-- Settings are applied in order: the last one for a field decides, and a collection is replaced as
-- a whole.

namespace HttpLayers

class Adjustable (P : Type) (S : outParam Type) where
  -- the policy that no setting has changed
  initial : P
  set : P → S → P
  snapshot : P → Snapshot

namespace Adjustable

variable {P S : Type} [Adjustable P S]

def applyAll (policy : P) (settings : List S) : P :=
  settings.foldl set policy

def ofSettings (settings : List S) : P :=
  applyAll initial settings

theorem applyAll_append (policy : P) (first second : List S) :
    applyAll policy (first ++ second) = applyAll (applyAll policy first) second :=
  List.foldl_append

end Adjustable

-- No list lists nothing.
def isListed (paths : Option (List String)) (path : String) : Bool :=
  (paths.getD []).contains path

theorem isListed_iff {paths : Option (List String)} {path : String} :
    isListed paths path = true ↔ ∃ listed, paths = some listed ∧ path ∈ listed := by
  unfold isListed
  cases paths with
  | none => simp
  | some listed => simp

end HttpLayers
