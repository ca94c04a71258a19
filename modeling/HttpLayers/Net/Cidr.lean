import HttpLayers.Net.Address.Reader
import HttpLayers.Text.Integer
import HttpLayers.Text.Shown
import HttpLayers.Text.Split

-- The network is kept as written: bits behind the mask stay, and do not matter.

namespace HttpLayers.Net

open Text

structure Cidr where
  network : IpAddress
  prefixLen : Nat
  prefixLen_le : prefixLen ≤ network.width
  deriving DecidableEq, Repr

namespace Cidr

def make? (network : IpAddress) (prefixLen : Nat) : Option Cidr :=
  if fits : prefixLen ≤ network.width then some ⟨network,prefixLen,fits⟩ else none

-- White space may surround the text but not the slash.
def ofText? (s : List Char) : Option Cidr :=
  let s := trim s
  match splitOnce '/' s with
  | some (network,length) => do
    let network ← IpAddress.ofText? network
    let length ← (Integer.natural 255 length).toOption
    make? network length
  | none => do
    let network ← IpAddress.ofText? s
    make? network network.width

-- A word is shifted by less than its width or not at all.
def shiftLeft? {width : Nat} (bits : BitVec width) (shift : Nat) : Option (BitVec width) :=
  if shift < width then some (bits <<< shift) else none

-- A length cannot be taken from a smaller width.
def shift? (width prefixLen : Nat) : Option Nat :=
  if prefixLen ≤ width then some (width - prefixLen) else none

-- No bit is asked for by a prefix of length 0, whose shift would be by the whole width.
def mask? (width prefixLen : Nat) : Option (BitVec width) :=
  if prefixLen = 0 then some 0
  else (shift? width prefixLen).bind (shiftLeft? (BitVec.allOnes width))

def contains? (range : Cidr) (address : IpAddress) : Option Bool :=
  match range.network,address with
  | .v4 network,.v4 bits =>
    (mask? 32 range.prefixLen).map fun mask => network &&& mask == bits &&& mask
  | .v6 network,.v6 bits =>
    (mask? 128 range.prefixLen).map fun mask => network &&& mask == bits &&& mask
  | _,_ => some false

theorem mask?_eq_shift {width prefixLen : Nat} (asked : prefixLen ≠ 0) (fits : prefixLen ≤ width) :
    mask? width prefixLen = some (BitVec.allOnes width <<< (width - prefixLen)) := by
  have below : width - prefixLen < width := by omega
  rw [mask?,if_neg asked,shift?,if_pos fits,Option.bind_some,shiftLeft?,if_pos below]

theorem mask?_isSome {width prefixLen : Nat} (fits : prefixLen ≤ width) :
    (mask? width prefixLen).isSome = true := by
  by_cases none : prefixLen = 0
  · rw [mask?,if_pos none,Option.isSome_some]
  · rw [mask?_eq_shift none fits,Option.isSome_some]

theorem contains?_isSome (range : Cidr) (address : IpAddress) :
    (range.contains? address).isSome = true := by
  obtain ⟨network,prefixLen,fits⟩ := range
  cases network with
  | v4 network =>
      cases address with
      | v4 bits => exact Option.isSome_map.trans (mask?_isSome fits)
      | v6 bits => rfl
  | v6 network =>
      cases address with
      | v4 bits => rfl
      | v6 bits => exact Option.isSome_map.trans (mask?_isSome fits)

def contains (range : Cidr) (address : IpAddress) : Bool :=
  (range.contains? address).get (range.contains?_isSome address)

def shown (range : Cidr) : Shown :=
  .record "CidrRange"
    [("network",.word (String.ofList range.network.text)),
     ("prefix_len",.word (toString range.prefixLen))]

end Cidr

end HttpLayers.Net
