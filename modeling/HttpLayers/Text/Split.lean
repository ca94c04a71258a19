import HttpLayers.Text.Blank

namespace HttpLayers.Text

def splitOnce (sep : Char) : List Char → Option (List Char × List Char)
  | [] => none
  | c :: rest =>
    if c = sep then some ([],rest)
    else (splitOnce sep rest).map fun halves => (c :: halves.1,halves.2)

def before (sep : Char) (s : List Char) : List Char :=
  s.takeWhile (· != sep)

-- Blank entries do not count.
def entries (s : List Char) : List (List Char) :=
  ((s.splitOn ',').map trim).filter fun entry => !entry.isEmpty

theorem splitOnce_eq_some_iff {sep : Char} {s left right : List Char} :
    splitOnce sep s = some (left,right) ↔ s = left ++ sep :: right ∧ sep ∉ left := by
  induction s generalizing left with
  | nil => simp [splitOnce]
  | cons c rest ih =>
      by_cases same : c = sep
      · subst same
        cases left with
        | nil => simp [splitOnce]
        | cons d left => simp [splitOnce]; grind
      · cases left with
        | nil => simp [splitOnce,same]
        | cons d left => simp [splitOnce,same,Option.map_eq_some_iff]; grind

theorem splitOnce_eq_none_iff {sep : Char} {s : List Char} :
    splitOnce sep s = none ↔ sep ∉ s := by
  induction s with
  | nil => simp [splitOnce]
  | cons c rest ih => by_cases same : c = sep <;> simp [splitOnce,same,ih]; grind

end HttpLayers.Text
