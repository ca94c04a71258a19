import HttpLayers.Text.Blank

namespace HttpLayers

structure Duration where
  secs : UInt64
  nanos : Nat := 0
  nanos_lt : nanos < 1000000000 := by decide
  deriving DecidableEq, Repr

namespace Duration

def seconds (n : UInt64) : Duration where
  secs := n

def isZero (d : Duration) : Bool :=
  d.secs == 0 && d.nanos == 0

def toNanos (d : Duration) : Nat :=
  d.secs.toNat * 1000000000 + d.nanos

def wholeMillis (d : Duration) : Nat :=
  d.toNanos / 1000000

-- Timers do not go off before a millisecond that has begun is over.
def millisCeil (d : Duration) : Nat :=
  (d.toNanos + 999999) / 1000000

-- `part` out of `10 ^ width` as the digits after a point, without zeros at the end and without
-- the point where nothing is left.
def fraction (width part : Nat) : List Char :=
  let digits := Nat.toDigits 10 part
  let padded := List.replicate (width - digits.length) '0' ++ digits
  match Text.dropEndWhile (· == '0') padded with
  | [] => []
  | kept => '.' :: kept

def text (d : Duration) : String :=
  let write (whole width part : Nat) (unit : String) :=
    toString whole ++ String.ofList (fraction width part) ++ unit
  if d.secs ≠ 0 then write d.secs.toNat 9 d.nanos "s"
  else if 1000000 ≤ d.nanos then write (d.nanos / 1000000) 6 (d.nanos % 1000000) "ms"
  else if 1000 ≤ d.nanos then write (d.nanos / 1000) 3 (d.nanos % 1000) "µs"
  else write d.nanos 0 0 "ns"

end Duration

end HttpLayers
