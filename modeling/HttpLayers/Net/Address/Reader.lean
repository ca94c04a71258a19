import HttpLayers.Net.Address

-- A reader takes what it can from the front of a text and gives back the rest, or refuses.

namespace HttpLayers.Net

abbrev Reader (α : Type) := List Char → Option (α × List Char)

def Reader.exactly (c : Char) : Reader Unit
  | [] => none
  | d :: rest => if d = c then some ((),rest) else none

theorem Reader.exactly_eq_some_iff {c : Char} {s rest : List Char} {value : Unit} :
    exactly c s = some (value,rest) ↔ s = c :: rest := by
  cases s with
  | nil => simp [exactly]
  | cons d tail => simp [exactly]

def Reader.digitValue (c : Char) : Nat :=
  if c.isDigit then c.toNat - 48 else if c.isLower then c.toNat - 87 else c.toNat - 55

def Reader.isHexDigit (c : Char) : Bool :=
  c.isDigit || ('a' ≤ c && c ≤ 'f') || ('A' ≤ c && c ≤ 'F')

def Reader.decimal (most : Nat) : Reader Nat := fun s =>
  let digits := s.takeWhile Char.isDigit
  let value := IpAddress.ofDigits 10 (digits.map digitValue)
  if digits ≠ [] ∧ value ≤ most then some (value,s.dropWhile Char.isDigit) else none

def Reader.octet : Reader Nat := fun s =>
  let digits := s.takeWhile Char.isDigit
  if digits.length ≤ 3 ∧ (digits.head? = some '0' → digits.length = 1) then decimal 255 s else none

def Reader.group : Reader Nat := fun s =>
  let digits := s.takeWhile isHexDigit
  if digits ≠ [] ∧ digits.length ≤ 4 then
    some (IpAddress.ofDigits 16 (digits.map digitValue),s.dropWhile isHexDigit)
  else none

namespace IpAddress

def readV4 : Reader (BitVec 32) := fun s => do
  let (a,s) ← Reader.octet s
  let (_,s) ← Reader.exactly '.' s
  let (b,s) ← Reader.octet s
  let (_,s) ← Reader.exactly '.' s
  let (c,s) ← Reader.octet s
  let (_,s) ← Reader.exactly '.' s
  let (d,s) ← Reader.octet s
  return (ofOctets [a,b,c,d],s)

def pairOf (bits : BitVec 32) : List Nat :=
  [bits.toNat / 65536,bits.toNat % 65536]

structure Run where
  groups : List Nat
  -- whether the last two groups were written as octets
  dotted : Bool
  rest : List Char

-- `leading` marks a run that a colon does not precede. Octets end the run and need room for two
-- groups.
def readGroups : (room : Nat) → (leading : Bool) → List Char → Run
  | 0,_,s => ⟨[],false,s⟩
  | room + 1,leading,s =>
    match if leading then some ((),s) else Reader.exactly ':' s with
    | none => ⟨[],false,s⟩
    | some (_,t) =>
      match if room = 0 then none else readV4 t with
      | some (bits,rest) => ⟨pairOf bits,true,rest⟩
      | none =>
        match Reader.group t with
        | none => ⟨[],false,s⟩
        | some (g,rest) =>
          let run := readGroups room false rest
          ⟨g :: run.groups,run.dotted,run.rest⟩

def readV6 : Reader (BitVec 128) := fun s =>
  let front := readGroups 8 true s
  if front.groups.length = 8 then some (ofGroups front.groups,front.rest)
  else if front.dotted then none
  else do
    let (_,s) ← Reader.exactly ':' front.rest
    let (_,s) ← Reader.exactly ':' s
    let back := readGroups (7 - front.groups.length) true s
    let zeros := List.replicate (8 - front.groups.length - back.groups.length) 0
    return (ofGroups (front.groups ++ zeros ++ back.groups),back.rest)

def read : Reader IpAddress := fun s =>
  match readV4 s with
  | some (bits,rest) => some (v4 bits,rest)
  | none => (readV6 s).map fun (bits,rest) => (v6 bits,rest)

def ofText? (s : List Char) : Option IpAddress :=
  match read s with
  | some (address,[]) => some address
  | _ => none

end IpAddress

end HttpLayers.Net
