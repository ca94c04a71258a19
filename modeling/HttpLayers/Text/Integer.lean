-- The value is never wrapped: a digit that takes it past the bound ends the reading, even where a
-- bad character would follow.

namespace HttpLayers.Text.Integer

inductive Fault where
  | empty
  | badDigit
  | tooLarge
  | tooSmall
  deriving DecidableEq, Repr

def Fault.message : Fault → String
  | .empty => "cannot parse integer from empty string"
  | .badDigit => "invalid digit found in string"
  | .tooLarge => "number too large to fit in target type"
  | .tooSmall => "number too small to fit in target type"

def digit? (c : Char) : Option Nat :=
  if c.isDigit then some (c.toNat - '0'.toNat) else none

-- Continues a number that stands at `soFar` with further digits; past `most` it is `past`.
def magnitude (most : Nat) (past : Fault) (soFar : Nat) : List Char → Except Fault Nat
  | [] => .ok soFar
  | c :: rest =>
    match digit? c with
    | none => .error .badDigit
    | some d =>
      if 10 * soFar + d ≤ most then magnitude most past (10 * soFar + d) rest else .error past

-- A minus sign counts as a bad digit, before zero too.
def natural (most : Nat) : List Char → Except Fault Nat
  | [] => .error .empty
  | ['+'] => .error .badDigit
  | '+' :: digits => magnitude most .tooLarge 0 digits
  | digits => magnitude most .tooLarge 0 digits

def signed (below above : Nat) : List Char → Except Fault Int
  | ['-'] => .error .badDigit
  | '-' :: digits => (fun n => -(n : Int)) <$> magnitude below .tooSmall 0 digits
  | s => Int.ofNat <$> natural above s

def natural64 : List Char → Except Fault Nat :=
  natural (UInt64.size - 1)

def signed64 : List Char → Except Fault Int :=
  signed (UInt64.size / 2) (UInt64.size / 2 - 1)

end HttpLayers.Text.Integer
