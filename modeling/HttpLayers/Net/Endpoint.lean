import HttpLayers.Net.Address.Reader

-- A scope of zero is not written.

namespace HttpLayers.Net

inductive Endpoint where
  | v4 (bits : BitVec 32) (port : UInt16)
  | v6 (bits : BitVec 128) (scope : UInt32) (port : UInt16)
  deriving DecidableEq, Repr

namespace Endpoint

def address : Endpoint → IpAddress
  | v4 bits _ => .v4 bits
  | v6 bits _ _ => .v6 bits

def port : Endpoint → UInt16
  | v4 _ port => port
  | v6 _ _ port => port

-- Only the newer family has scopes.
def scope? : Endpoint → Option UInt32
  | v4 _ _ => none
  | v6 _ scope _ => some scope

def text : Endpoint → List Char
  | v4 bits port => (IpAddress.v4 bits).text ++ ':' :: Nat.toDigits 10 port.toNat
  | v6 bits scope port =>
    let zone := if scope = 0 then [] else '%' :: Nat.toDigits 10 scope.toNat
    '[' :: (IpAddress.v6 bits).text ++ zone ++ [']',':'] ++ Nat.toDigits 10 port.toNat

def readPort : Reader UInt16 := fun s => do
  let (_,s) ← Reader.exactly ':' s
  let (port,s) ← Reader.decimal 65535 s
  return (port.toUInt16,s)

-- None of it is read where it does not fit.
def readScope (s : List Char) : UInt32 × List Char :=
  let found := do
    let (_,s) ← Reader.exactly '%' s
    Reader.decimal 4294967295 s
  match found with
  | some (scope,rest) => (scope.toUInt32,rest)
  | none => (0,s)

def readV4 : Reader Endpoint := fun s => do
  let (bits,s) ← IpAddress.readV4 s
  let (port,s) ← readPort s
  return (v4 bits port,s)

def readV6 : Reader Endpoint := fun s => do
  let (_,s) ← Reader.exactly '[' s
  let (bits,s) ← IpAddress.readV6 s
  let (scope,s) := readScope s
  let (_,s) ← Reader.exactly ']' s
  let (port,s) ← readPort s
  return (v6 bits scope port,s)

def ofText? (s : List Char) : Option Endpoint :=
  match (readV4 s).orElse fun _ => readV6 s with
  | some (endpoint,[]) => some endpoint
  | _ => none

end Endpoint

end HttpLayers.Net
