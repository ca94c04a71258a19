import HttpLayers.Adjustable
import HttpLayers.Http.Message
import HttpLayers.Text.Hex

-- A source is the stream of ids it will give with the number of those already given, so that
-- drawing an id is a change of a value.

namespace HttpLayers

open Http Text

structure IdSource where
  ids : Nat → String
  drawn : Nat := 0

namespace IdSource

def next (source : IdSource) : String × IdSource :=
  (source.ids source.drawn,{ source with drawn := source.drawn + 1 })

def take : Nat → IdSource → List String × IdSource
  | 0,source => ([],source)
  | n + 1,source =>
    let (id,later) := source.next
    let (rest,after) := take n later
    (id :: rest,after)

def constant (id : String) : IdSource where
  ids := fun _ => id

def sequence (start : String) : IdSource where
  ids := fun n => start ++ toString n

def hexId (bytes : Bytes) : String :=
  String.ofList (Hex.encode bytes)

-- What asking for random bytes came to. Where they are refused, the time makes the id.
inductive Draw where
  | bytes (random : Bytes)
  | refused (nanoseconds : Int)
  deriving DecidableEq, Repr

def Draw.id : Draw → String
  | bytes random => hexId random
  | refused nanoseconds => "request-" ++ toString nanoseconds

def hexOrTime (draws : Nat → Draw) : IdSource where
  ids := fun n => (draws n).id

def randomHex (entropy : Nat → Bytes) : IdSource :=
  hexOrTime fun n => .bytes (entropy n)

-- Marks sixteen bytes as an identifier of version 4: four bits tell the version and two the
-- variant.
def stampVersion (bytes : Bytes) : Bytes :=
  (bytes.modify 6 fun b => b &&& 0x0F ||| 0x40).modify 8 fun b => b &&& 0x3F ||| 0x80

def uuidText (bytes : Bytes) : String :=
  let parts := [bytes.take 4,(bytes.drop 4).take 2,(bytes.drop 6).take 2,(bytes.drop 8).take 2,
    bytes.drop 10]
  String.ofList (['-'].intercalate (parts.map Hex.encode))

def randomUuid (entropy : Nat → Bytes) : IdSource where
  ids := fun n => uuidText (stampVersion (entropy n))

end IdSource

namespace RequestId

def defaultHeader : String := "X-Request-Id"

def defaultField : FieldName := .of "x-request-id"

end RequestId

structure RequestId where
  header : String := RequestId.defaultHeader
  -- absent, incoming ids travel on but none is made
  source : Option IdSource

namespace RequestId

inductive Setting where
  | header (value : String)
  | source (value : Option IdSource)

def set (policy : RequestId) : Setting → RequestId
  | .header value => { policy with header := value }
  | .source value => { policy with source := value }

def initial (entropy : Nat → Bytes) : RequestId where
  source := some (.randomHex entropy)

def snapshot (policy : RequestId) : Snapshot where
  name := "RequestIdConfig"
  fields :=
    [("header",.text policy.header),
     ("generator",.strategy policy.source.isSome)]

@[reducible] def adjustable (entropy : Nat → Bytes) : Adjustable RequestId Setting where
  initial := initial entropy
  set := set
  snapshot := snapshot

-- A name that is none gives way to the default.
def field (policy : RequestId) : FieldName :=
  (FieldName.ofString? policy.header).getD defaultField

-- The first value decides; it must be printable and not empty.
def incoming? (policy : RequestId) (request : Request) : Option String :=
  ((request.headers.text? policy.field).filter fun id => !id.isEmpty).map String.ofList

-- The id of a request with the policy that is left for the next one.
def settle (policy : RequestId) (request : Request) : Option String × RequestId :=
  match policy.incoming? request,policy.source with
  | some id,_ => (some id,policy)
  | none,none => (none,policy)
  | none,some source =>
    let (id,later) := source.next
    (some id,{ policy with source := some later })

def idFor (policy : RequestId) (request : Request) : Option String :=
  (policy.settle request).1

def after (policy : RequestId) (request : Request) : RequestId :=
  (policy.settle request).2

-- An id that no header can carry is known to the log alone.
def stamp? (policy : RequestId) (request : Request) : Option FieldValue :=
  (policy.idFor request).bind FieldValue.ofString?

variable {m : Type → Type} [Functor m]

-- An id is settled before the service is called, whether or not a header can carry it.
def serve (policy : RequestId) (inner : Service m) (request : Request) :
    m (Response × RequestId) :=
  let (id,later) := policy.settle request
  match id.bind FieldValue.ofString? with
  | none => (fun response => (response,later)) <$> inner request
  | some value =>
    (fun response =>
        ({ response with headers := response.headers.insert policy.field value },later)) <$>
      inner { request with headers := request.headers.insert policy.field value }

def layer (policy : RequestId) (inner : Service m) : Service m :=
  fun request => Prod.fst <$> policy.serve inner request

def read? (request : Request) : Option String :=
  (request.headers.text? defaultField).map String.ofList

end RequestId

end HttpLayers
