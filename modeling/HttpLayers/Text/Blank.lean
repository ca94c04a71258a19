namespace HttpLayers.Text

-- The closed ranges of code points with the Unicode property White_Space.
def blankRanges : List (Nat × Nat) :=
  [(0x09,0x0D),(0x20,0x20),(0x85,0x85),(0xA0,0xA0),(0x1680,0x1680),(0x2000,0x200A),
   (0x2028,0x2029),(0x202F,0x202F),(0x205F,0x205F),(0x3000,0x3000)]

-- The zero width space U+200B is not in the class.
def isBlank (c : Char) : Bool :=
  blankRanges.any fun range => range.1 ≤ c.toNat && c.toNat ≤ range.2

variable (p : Char → Bool)

def dropEndWhile (s : List Char) : List Char :=
  (s.reverse.dropWhile p).reverse

def strip (s : List Char) : List Char :=
  dropEndWhile p (s.dropWhile p)

def trim (s : List Char) : List Char :=
  strip isBlank s

theorem dropEndWhile_append_of_all {s tail : List Char} (inside : ∀ c ∈ tail, p c = true) :
    dropEndWhile p (s ++ tail) = dropEndWhile p s := by
  rw [dropEndWhile,List.reverse_append,dropEndWhile,
    List.dropWhile_append_of_pos fun c member => inside c (List.mem_reverse.mp member)]

-- The characters taken from the end all belong to the class.
theorem dropEndWhile_append_exists (s : List Char) :
    ∃ tail, s = dropEndWhile p s ++ tail ∧ ∀ c ∈ tail, p c = true := by
  refine ⟨(s.reverse.takeWhile p).reverse,?_,?_⟩
  · rw [dropEndWhile,← List.reverse_append,List.takeWhile_append_dropWhile,List.reverse_reverse]
  · intro c member
    exact (List.all_eq_true.mp List.all_takeWhile) c (List.mem_reverse.mp member)

end HttpLayers.Text
