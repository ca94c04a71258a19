import HttpLayers.Http.Message

-- With `overwrite` a set field replaces what the handler gave; without, it yields to it.

namespace HttpLayers.Http

structure HeaderPatch where
  removed : List FieldName := []
  set : List (FieldName × FieldValue) := []
  overwrite : Bool := false
  deriving DecidableEq, Repr

namespace HeaderPatch

def field? (name value : String) : Option (FieldName × FieldValue) := do
  return (← FieldName.ofString? name,← FieldValue.ofString? value)

-- Pairs whose names differ in case only keep their order.
def sortedFields (pairs : List (String × String)) : List (FieldName × FieldValue) :=
  (pairs.filterMap fun pair => field? pair.1 pair.2).mergeSort fun a b => a.1.text ≤ b.1.text

def strip (patch : HeaderPatch) (headers : Headers) : Headers :=
  patch.removed.foldl Headers.erase headers

def apply (patch : HeaderPatch) (headers : Headers) : Headers :=
  patch.set.foldl
    (fun kept pair =>
      if patch.overwrite then kept.insert pair.1 pair.2 else kept.insertIfAbsent pair.1 pair.2)
    headers

def layer {m : Type → Type} [Functor m] (patch : HeaderPatch) (inner : Service m) : Service m :=
  fun request =>
    (fun response => { response with headers := patch.apply response.headers }) <$>
      inner { request with headers := patch.strip request.headers }

end HeaderPatch

end HttpLayers.Http
