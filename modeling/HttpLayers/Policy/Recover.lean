import HttpLayers.Adjustable

namespace HttpLayers

namespace Recover

def defaultStackSize : Int := 4096

end Recover

structure Recover where
  stackSize : Int := Recover.defaultStackSize
  enableStackTrace : Bool := true
  statusCode : UInt16 := 500

namespace Recover

inductive Setting where
  | stackSize (value : Int)
  | enableStackTrace (value : Bool)
  | statusCode (value : UInt16)

def set (policy : Recover) : Setting → Recover
  | .stackSize value => { policy with stackSize := value }
  | .enableStackTrace value => { policy with enableStackTrace := value }
  | .statusCode value => { policy with statusCode := value }

def snapshot (policy : Recover) : Snapshot where
  name := "RecoverConfig"
  fields :=
    [("stack_size",.integer policy.stackSize),
     ("enable_stack_trace",.flag policy.enableStackTrace),
     ("status_code",.ofCode policy.statusCode)]

instance : Adjustable Recover Setting where
  initial := {}
  set := set
  snapshot := snapshot

-- The nearest place between two characters, sought backwards from `n`. None would mean that the search
-- ran past the front.
def boundary? (trace : String) : (n : Nat) → Option Nat
  | 0 => if (⟨0⟩ : String.Pos.Raw).isValid trace then some 0 else none
  | n + 1 =>
    if (⟨n + 1⟩ : String.Pos.Raw).isValid trace then some (n + 1) else boundary? trace n

-- There is no text to be had by cutting inside a character or behind the end.
def front? (trace : String) (n : Nat) : Option String :=
  if within : (⟨n⟩ : String.Pos.Raw).IsValid trace then
    some (trace.sliceTo (trace.pos ⟨n⟩ within)).copy
  else none

def clip? (policy : Recover) (trace : String) : Option String :=
  let limit := policy.stackSize.toNat
  if !policy.enableStackTrace || policy.stackSize ≤ 0 then some ""
  else if trace.utf8ByteSize ≤ limit then some trace
  else (boundary? trace limit).bind (front? trace)

end Recover

end HttpLayers
