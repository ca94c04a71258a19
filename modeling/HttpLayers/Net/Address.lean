namespace HttpLayers.Net

inductive IpAddress where
  | v4 (bits : BitVec 32)
  | v6 (bits : BitVec 128)
  deriving DecidableEq, Repr

namespace IpAddress

def width : IpAddress → Nat
  | v4 _ => 32
  | v6 _ => 128

-- Digits stand the most significant first.
def ofDigits (base : Nat) (digits : List Nat) : Nat :=
  digits.foldl (fun n d => base * n + d) 0

def digitsOf (base : Nat) : (count : Nat) → Nat → List Nat
  | 0,_ => []
  | count + 1,n => digitsOf base count (n / base) ++ [n % base]

def octets (bits : BitVec 32) : List Nat :=
  digitsOf 256 4 bits.toNat

def ofOctets (digits : List Nat) : BitVec 32 :=
  BitVec.ofNat 32 (ofDigits 256 digits)

def groups (bits : BitVec 128) : List Nat :=
  digitsOf 65536 8 bits.toNat

def ofGroups (digits : List Nat) : BitVec 128 :=
  BitVec.ofNat 128 (ofDigits 65536 digits)

def dotted (bits : BitVec 32) : List Char :=
  ['.'].intercalate ((octets bits).map (Nat.toDigits 10))

def colonned (digits : List Nat) : List Char :=
  [':'].intercalate (digits.map (Nat.toDigits 16))

-- Start and length of every run among eight places, the longer ones first and those of one length
-- from the left.
def runs : List (Nat × Nat) :=
  [8,7,6,5,4,3,2].flatMap fun length =>
    (List.range (9 - length)).map fun start => (start,length)

-- A single zero is no run.
def zeroRun? (digits : List Nat) : Option (Nat × Nat) :=
  runs.find? fun run => ((digits.drop run.1).take run.2).all (· == 0)

def compressed (digits : List Nat) : List Char :=
  match zeroRun? digits with
  | some (start,length) =>
    colonned (digits.take start) ++ [':',':'] ++ colonned (digits.drop (start + length))
  | none => colonned digits

-- 80 zero bits, then 16 ones.
def isMapped (bits : BitVec 128) : Bool :=
  bits.toNat / 0x100000000 == 0xFFFF

def text : IpAddress → List Char
  | v4 bits => dotted bits
  | v6 bits =>
    if isMapped bits then "::ffff:".toList ++ dotted (bits.truncate 32)
    else compressed (groups bits)

end IpAddress

end HttpLayers.Net
