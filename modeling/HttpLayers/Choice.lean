namespace HttpLayers

class Choice (α : Type) where
  -- every value once
  all : List α
  name : α → String
  title : α → String

inductive Written where
  | name (text : String)
  | tagged (tag : String) (isNull : Bool)
  | other
  deriving DecidableEq, Repr

namespace Choice

variable {α : Type} [Choice α]

def ofName? (text : String) : Option α :=
  (all : List α).find? fun value => name value == text

def ofWritten? : Written → Option α
  | .name text => ofName? text
  | .tagged tag isNull => if isNull then ofName? tag else none
  | .other => none

end Choice

end HttpLayers
