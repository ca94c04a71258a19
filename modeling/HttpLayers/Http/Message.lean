import HttpLayers.Duration
import HttpLayers.Http.Headers
import HttpLayers.Http.Target
import HttpLayers.Net.Endpoint

-- A service answers in some monad, so that a claim about a layer holds for services with any
-- effects.

namespace HttpLayers.Http

inductive ReadCap where
  -- the limit that holds where none was set: 2 MiB
  | standard
  | unlimited
  | atMost (bytes : Nat)
  deriving DecidableEq, Repr

def ReadCap.admits : ReadCap → Nat → Bool
  | standard,size => size ≤ 2097152
  | unlimited,_ => true
  | atMost bytes,size => size ≤ bytes

structure Request where
  method : String := "GET"
  target : Target := .origin "/" none
  headers : Headers := {}
  body : Bytes := []
  peer : Option Net.Endpoint := none
  timeLimit : Option Duration := none
  readCap : ReadCap := .standard
  deriving Repr

structure Response where
  status : UInt16
  headers : Headers := {}
  body : Bytes := []
  deriving DecidableEq, Repr

abbrev Service (m : Type → Type) := Request → m Response

namespace Request

def path (request : Request) : String :=
  request.target.path

inductive Fault where
  | method
  | target
  | fieldName
  | fieldValue
  | peer
  deriving DecidableEq, Repr

-- The first bad field decides, its name before its value.
def readFields : List (Bytes × Bytes) → Except Fault (List (FieldName × FieldValue))
  | [] => .ok []
  | (name,value) :: rest => do
    let some name := FieldName.ofText? name.toChars | .error .fieldName
    let some value := FieldValue.ofBytes? value | .error .fieldValue
    return (name,value) :: (← readFields rest)

def assemble (method target : String) (fields : List (Bytes × Bytes)) (body : Bytes)
    (peer : Option String) (timeLimit : Option Duration) : Except Fault Request := do
  unless isToken method.toList do .error .method
  let some target := Target.ofString? target | .error .target
  let fields ← readFields fields
  let peer ← match peer with
    | none => pure none
    | some text =>
      match Net.Endpoint.ofText? text.toList with
      | some endpoint => pure (some endpoint)
      | none => .error .peer
  return { method,target,headers := ⟨fields⟩,body,peer,timeLimit }

end Request

namespace Response

def ofText (status : UInt16) (text : String) : Response where
  status
  headers := ⟨[(.of "content-type",.of "text/plain; charset=utf-8")]⟩
  body := Bytes.ofString text

-- The first name or value that is not legal turns the whole answer into an error of the server.
def withFields (response : Response) : List (String × String) → Response
  | [] => response
  | (name,value) :: rest =>
    match FieldName.ofString? name,FieldValue.ofString? value with
    | none,_ => ofText 500 "invalid HTTP header name"
    | some _,none => ofText 500 "failed to parse header value"
    | some name,some value =>
      withFields { response with headers := response.headers.insert name value } rest

def bodyTooLong : Response :=
  ofText 413 "Failed to buffer the request body: length limit exceeded"

end Response

def readingBody {m : Type → Type} [Pure m] (answer : Bytes → m Response) : Service m :=
  fun request =>
  if request.readCap.admits request.body.length then answer request.body
  else pure Response.bodyTooLong

end HttpLayers.Http
