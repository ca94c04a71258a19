-- Reading is strict: the padding is exactly what writing puts there and the bits that carry nothing
-- are zero, so each byte list has one written form.

namespace HttpLayers.Text.Base64

def symbol (n : Nat) : Char :=
  if n < 26 then Char.ofNat (65 + n)
  else if n < 52 then Char.ofNat (71 + n)
  else if n < 62 then Char.ofNat (n - 4)
  else if n = 62 then '+'
  else '/'

def sextet? (c : Char) : Option Nat :=
  if 'A' ≤ c && c ≤ 'Z' then some (c.toNat - 65)
  else if 'a' ≤ c && c ≤ 'z' then some (c.toNat - 71)
  else if '0' ≤ c && c ≤ '9' then some (c.toNat + 4)
  else if c = '+' then some 62
  else if c = '/' then some 63
  else none

def encode : List UInt8 → List Char
  | [] => []
  | [a] => [symbol (a.toNat / 4),symbol (a.toNat % 4 * 16),'=','=']
  | [a,b] =>
    [symbol (a.toNat / 4),symbol (a.toNat % 4 * 16 + b.toNat / 16),symbol (b.toNat % 16 * 4),'=']
  | a :: b :: c :: rest =>
    symbol (a.toNat / 4) :: symbol (a.toNat % 4 * 16 + b.toNat / 16) ::
      symbol (b.toNat % 16 * 4 + c.toNat / 64) :: symbol (c.toNat % 64) :: encode rest

-- The last four bits are zero.
def decodeOne (a b : Char) : Option (List UInt8) := do
  let x ← sextet? a
  let y ← sextet? b
  if y % 16 = 0 then some [UInt8.ofNat (x * 4 + y / 16)] else none

-- The last two bits are zero.
def decodeTwo (a b c : Char) : Option (List UInt8) := do
  let x ← sextet? a
  let y ← sextet? b
  let z ← sextet? c
  if z % 4 = 0 then some [UInt8.ofNat (x * 4 + y / 16),UInt8.ofNat (y % 16 * 16 + z / 4)] else none

def decodeThree (a b c d : Char) : Option (List UInt8) := do
  let x ← sextet? a
  let y ← sextet? b
  let z ← sextet? c
  let w ← sextet? d
  return [UInt8.ofNat (x * 4 + y / 16),UInt8.ofNat (y % 16 * 16 + z / 4),
    UInt8.ofNat (z % 4 * 64 + w)]

def decode : List Char → Option (List UInt8)
  | [] => some []
  | [a,b,'=','='] => decodeOne a b
  | [a,b,c,'='] => decodeTwo a b c
  | a :: b :: c :: d :: rest => do
    let bytes ← decodeThree a b c d
    let others ← decode rest
    return bytes ++ others
  | _ => none

theorem sextet?_symbol : ∀ n < 64, sextet? (symbol n) = some n := by
  decide

end HttpLayers.Text.Base64
