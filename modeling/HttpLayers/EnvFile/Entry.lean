import HttpLayers.Text.Blank

-- A number sign begins a comment first on a line, apart from white space, and behind an odd number
-- of blanks. Behind an even number it is a character as any other, and quotes after it count. What
-- is still open at the end of the file is no entry: a quote, a backslash, or a blank where a
-- comment could begin.

namespace HttpLayers.EnvFile

open Text

inductive Place where
  -- behind white space only
  | start
  | plain
  -- behind a blank that came where no gap was
  | gap
  | escaped
  | quoted (mark : Char)
  | escapedWithin (mark : Char)
  | comment
  deriving DecidableEq, Repr

namespace Place

def behind (c : Char) : Place :=
  if c = '\\' then .escaped
  else if c = '\'' ∨ c = '"' then .quoted c
  else .plain

-- A carriage return makes no gap.
def next : Place → Char → Place
  | .start,c => if c = '#' then .comment else if isBlank c then .start else behind c
  | .plain,c => if isBlank c && c != '\r' then .gap else behind c
  | .gap,c => if c = '#' then .comment else behind c
  | .escaped,_ => .plain
  | .quoted mark,c =>
    if c = '\\' then .escapedWithin mark else if c = mark then .plain else .quoted mark
  | .escapedWithin mark,_ => .quoted mark
  | .comment,_ => .comment

def isWithinQuotes : Place → Bool
  | .quoted _ | .escapedWithin _ => true
  | _ => false

def isClosed : Place → Bool
  | .start | .plain | .comment => true
  | _ => false

end Place

-- The entry at hand is written backwards, and so is the list of those before it.
structure Cutting where
  place : Place
  entry : List Char
  done : List (List Char)

namespace Cutting

def start : Cutting where
  place := .start
  entry := []
  done := []

def next (cut : Cutting) (c : Char) : Cutting :=
  if c = '\n' ∧ !cut.place.isWithinQuotes then
    { start with done := cut.entry.reverse :: cut.done }
  else
    let place := cut.place.next c
    { cut with place,entry := if place = .comment then cut.entry else c :: cut.entry }

def finish (cut : Cutting) : List (List Char) :=
  let done := if cut.place.isClosed then cut.entry.reverse :: cut.done else cut.done
  done.reverse

end Cutting

def behindMark : List Char → List Char
  | '\ufeff' :: rest => rest
  | s => s

def entries (file : String) : List (List Char) :=
  ((behindMark file.toList).foldl Cutting.next Cutting.start).finish.map trim

end HttpLayers.EnvFile
