import HttpLayers.Adjustable
import HttpLayers.Http.Message
import HttpLayers.Text.Integer

-- A declared length over the limit, a body read past it and any 413 of the service itself are all
-- answered alike.

namespace HttpLayers

open Http Text

namespace BodyLimit

def defaultLimit : Int := 1048576

end BodyLimit

structure BodyLimit where
  -- the most bytes accepted; a negative number accepts any
  limit : Int := BodyLimit.defaultLimit
  statusCode : UInt16 := 413
  message : String := "Request body too large"

namespace BodyLimit

inductive Setting where
  | limit (value : Int)
  | statusCode (value : UInt16)
  | message (value : String)

def set (policy : BodyLimit) : Setting → BodyLimit
  | .limit value => { policy with limit := value }
  | .statusCode value => { policy with statusCode := value }
  | .message value => { policy with message := value }

def snapshot (policy : BodyLimit) : Snapshot where
  name := "BodyLimitConfig"
  fields :=
    [("limit",.integer policy.limit),
     ("status_code",.ofCode policy.statusCode),
     ("message",.text policy.message)]

instance : Adjustable BodyLimit Setting where
  initial := {}
  set := set
  snapshot := snapshot

def cap? (policy : BodyLimit) : Option Nat :=
  if 0 ≤ policy.limit then some policy.limit.toNat else none

def readCap (policy : BodyLimit) : ReadCap :=
  match policy.cap? with
  | some bytes => .atMost bytes
  | none => .unlimited

-- A number that does not fit into 64 bits declares nothing.
def declaredLength? (request : Request) : Option Nat := do
  let value ← request.headers.text? (.of "content-length")
  (Integer.natural64 value).toOption

-- The configured status where it is one that a response can have.
def rejectionStatus (policy : BodyLimit) : UInt16 :=
  if 100 ≤ policy.statusCode && policy.statusCode ≤ 999 then policy.statusCode else 413

def rejection (policy : BodyLimit) : Response :=
  .ofText policy.rejectionStatus policy.message

def refuses (policy : BodyLimit) (request : Request) : Bool :=
  match declaredLength? request,policy.cap? with
  | some declared,some most => most < declared
  | _,_ => false

def layer {m : Type → Type} [Functor m] [Pure m] (policy : BodyLimit) (inner : Service m) :
    Service m := fun request =>
  if policy.refuses request then pure policy.rejection
  else
    (fun response => if response.status = 413 then policy.rejection else response) <$>
      inner { request with readCap := policy.readCap }

end BodyLimit

end HttpLayers
