import HttpLayers.Environment

-- A dollar sign refers to a variable by the letters and digits of ASCII that come next, or by all
-- that stands between braces. Outside of quotes a blank ends the value, and only a comment may
-- follow.

namespace HttpLayers.EnvFile

-- Names of variables are held backwards.
inductive Mode where
  -- `isQuoted` says here and below whether this is between double quotes
  | plain (isQuoted : Bool)
  | escaped (isQuoted : Bool)
  | named (isQuoted : Bool) (name : List Char)
  | braced (isQuoted : Bool) (name : List Char)
  | literal
  | ended
  | comment
  deriving DecidableEq, Repr

def unescape? (c : Char) : Option Char :=
  if c = 'n' then some '\n'
  else if c = '\\' ∨ c = '\'' ∨ c = '"' ∨ c = '$' ∨ c = ' ' then some c
  else none

def isGap (c : Char) : Bool :=
  c == ' ' || c == '\t'

structure Reading where
  mode : Mode
  value : List Char

namespace Reading

def start : Reading where
  mode := .plain false
  value := []

def refer (env : Environment) (name value : List Char) : List Char :=
  ((env (String.ofList name.reverse)).getD "").toList.reverse ++ value

-- The character that ends a name stands for itself, whatever it is, unless another reference begins
-- with it.
def next (env : Environment) : Reading → Char → Option Reading
  | ⟨.plain isQuoted,value⟩,c =>
    if c = '$' then some ⟨.named isQuoted [],value⟩
    else if c = '\\' then some ⟨.escaped isQuoted,value⟩
    else if c = '"' then some ⟨.plain !isQuoted,value⟩
    else if isQuoted then some ⟨.plain isQuoted,c :: value⟩
    else if c = '\'' then some ⟨.literal,value⟩
    else if isGap c then some ⟨.ended,value⟩
    else some ⟨.plain isQuoted,c :: value⟩
  | ⟨.escaped isQuoted,value⟩,c =>
    (unescape? c).map fun meant => ⟨.plain isQuoted,meant :: value⟩
  | ⟨.named isQuoted name,value⟩,c =>
    if c.isAlphanum then some ⟨.named isQuoted (c :: name),value⟩
    else if c = '\x7b' ∧ name = [] then some ⟨.braced isQuoted [],value⟩
    else if c = '$' then some ⟨.named isQuoted [],refer env name value⟩
    else some ⟨.plain isQuoted,c :: refer env name value⟩
  | ⟨.braced isQuoted name,value⟩,c =>
    if c = '\x7d' then some ⟨.plain isQuoted,refer env name value⟩
    else some ⟨.braced isQuoted (c :: name),value⟩
  | ⟨.literal,value⟩,c =>
    if c = '\'' then some ⟨.plain false,value⟩ else some ⟨.literal,c :: value⟩
  | ⟨.ended,value⟩,c =>
    if isGap c then some ⟨.ended,value⟩
    else if c = '#' then some ⟨.comment,value⟩
    else none
  | ⟨.comment,value⟩,_ => some ⟨.comment,value⟩

-- No quotes and no braces may be open at the end. A backslash in the last place does not count.
def finish (env : Environment) : Reading → Option (List Char)
  | ⟨.plain false,value⟩ | ⟨.escaped false,value⟩ | ⟨.ended,value⟩ | ⟨.comment,value⟩ =>
    some value.reverse
  | ⟨.named false name,value⟩ => some (refer env name value).reverse
  | _ => none

end Reading

def value? (env : Environment) (written : List Char) : Option (List Char) :=
  (written.foldlM (Reading.next env) Reading.start).bind (Reading.finish env)

end HttpLayers.EnvFile
