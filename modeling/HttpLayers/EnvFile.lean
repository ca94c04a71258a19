import HttpLayers.EnvFile.Entry
import HttpLayers.EnvFile.Value

-- The first entry that is no row ends the file. A value may refer to the environment and to the
-- rows before it.

namespace HttpLayers

open Text

namespace EnvFile

def isNameStart (c : Char) : Bool :=
  c.isAlpha || c == '_'

def isNameChar (c : Char) : Bool :=
  c.isAlphanum || c == '_' || c == '.'

def readName (s : List Char) : Option (List Char × List Char) :=
  if s.head?.any isNameStart then
    some (s.takeWhile isNameChar,(s.dropWhile isNameChar).dropWhile isBlank)
  else none

def afterEquals? : List Char → Option (List Char)
  | '=' :: rest => some (rest.dropWhile isBlank)
  | _ => none

-- The word `export` may stand in front, and is a name itself where an equals sign follows it.
def readAssignment (s : List Char) : Option (List Char × List Char) := do
  let (name,rest) ← readName s
  match afterEquals? rest with
  | some value => return (name,value)
  | none =>
    guard (name = "export".toList)
    let (name,rest) ← readName rest
    return (name,← afterEquals? rest)

def isSilent (s : List Char) : Bool :=
  s.isEmpty || s.head? == some '#'

def readRow (env : Environment) (entry : List Char) : Option (String × String) := do
  let (name,written) ← readAssignment entry
  let value ← if isSilent written then some [] else value? env written
  return (String.ofList name,String.ofList value)

-- Rows that have been read stand last first.
def rowsBehind (env : Environment) (read : List (String × String)) :
    List (List Char) → List (String × String)
  | [] => read.reverse
  | entry :: others =>
    if isSilent entry then rowsBehind env read others
    else
      match readRow (fun name => env.orElse read.reverse name) entry with
      | none => read.reverse
      | some row => rowsBehind env (row :: read) others

def rows (env : Environment) (file : String) : List (String × String) :=
  rowsBehind env [] (entries file)

end EnvFile

end HttpLayers
