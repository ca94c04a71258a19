import HttpLayers.Text.Unprintable

namespace HttpLayers.Text

def escape? (c : Char) : Option (List Char) :=
  if c = '"' ∨ c = '\\' then some ['\\',c]
  else if c = '\t' then some ['\\','t']
  else if c = '\r' then some ['\\','r']
  else if c = '\n' then some ['\\','n']
  else if c.toNat = 0 then some ['\\','0']
  else if isPrintable c then none
  else some ("\\u\x7b".toList ++ Nat.toDigits 16 c.toNat ++ "\x7d".toList)

-- A single quote needs no escape.
def quoted (s : String) : String :=
  "\"" ++ String.ofList (s.toList.flatMap fun c => (escape? c).getD [c]) ++ "\""

inductive Shown where
  | word (written : String)
  | quote (content : String)
  | tagged (tag : String) (content : Shown)
  | list (items : List Shown)
  | record (name : String) (fields : List (String × Shown))
  deriving Repr

namespace Shown

def ofOption : Option Shown → Shown
  | none => .word "None"
  | some content => .tagged "Some" content

mutual

def render : Shown → String
  | .word written => written
  | .quote content => quoted content
  | .tagged tag content => tag ++ "(" ++ content.render ++ ")"
  | .list items => "[" ++ ", ".intercalate (renderAll items) ++ "]"
  | .record name fields => name ++ " \x7b " ++ ", ".intercalate (renderFields fields) ++ " \x7d"

def renderAll : List Shown → List String
  | [] => []
  | item :: rest => item.render :: renderAll rest

def renderFields : List (String × Shown) → List String
  | [] => []
  | (name,value) :: rest => (name ++ ": " ++ value.render) :: renderFields rest

end

end Shown

end HttpLayers.Text
