import HttpLayers.Policies

-- The stack wraps every path, so a path without a route is answered through the same layers. On the
-- route itself, and for a target that is no path from the root, the response is completed outside
-- of all layers.

namespace HttpLayers

open Http

namespace Router

def version : String := "0.1.0"

def healthPath : String := "/health"

def isRead (method : String) : Bool :=
  method == "GET" || method == "HEAD"

def health : Response where
  status := 200
  headers := ⟨[(.of "content-type",.of "application/json")]⟩
  body := Bytes.ofString ("\x7b\"status\":\"ok\",\"version\":\"" ++ version ++ "\"\x7d")

def notFound : Response where
  status := 404

def methodNotAllowed : Response where
  status := 405

variable {m : Type → Type} [Monad m]

def report : Service m := fun request =>
  pure (if isRead request.method then health else methodNotAllowed)

def route (policies : Policies) : Service m := fun request =>
  if request.path = healthPath then policies.noCache.patch.layer report request
  else pure notFound

def gate (policy : BasicAuth) (inner : Service m) : Service m :=
  if policy.validator.isSome then policy.layer inner else inner

-- From the outside in, apart from the log and the ids, which go around them.
def stack (policies : Policies) (inner : Service m) : Service m :=
  policies.securityHeaders.patch.layer <|
    policies.setHeader.patch.layer <|
      policies.cors.layer <|
        gate policies.basicAuth <|
          policies.bodyLimit.layer inner

-- A tunnel is not followed by a body.
def opensTunnel (request : Request) (response : Response) : Bool :=
  request.method == "CONNECT" && 200 ≤ response.status && response.status < 300

def nameMethods (request : Request) (response : Response) : Response :=
  if isRead request.method then response
  else { response with
    headers := response.headers.insertIfAbsent (.of "allow") (.of "GET,HEAD") }

-- The length is that of the body before it is taken away.
def measure (request : Request) (response : Response) : Response :=
  { response with
    headers := response.headers.insertIfAbsent (.of "content-length")
      (.ofNat response.body.length)
    body := if request.method = "HEAD" then [] else response.body }

-- `*` and the empty path of an authority do not start at the root.
def isRooted (path : String) : Bool :=
  path.toList.head? == some '/'

-- A rooted path without a route is answered as it stands.
def complete (request : Request) (response : Response) : Response :=
  if opensTunnel request response then { response with body := [] }
  else if request.path = healthPath then measure request (nameMethods request response)
  else if isRooted request.path then response
  else measure request response

-- The answer and the policies for the next request.
def serve (policies : Policies) (request : Request) : m (Response × Policies) := do
  let (response,requestId) ← policies.requestId.serve (stack policies (route policies)) request
  return (complete request response,{ policies with requestId })

end Router

structure Exchange where
  response : Response
  log : Option (LogSpan × LogEvent)
  next : Policies

namespace Router

def exchange (policies : Policies) (request : Request) (latency : Duration) : Exchange :=
  let (response,next) := Id.run (serve policies request)
  let requestId := policies.requestId.idFor request
  { response
    log := policies.requestLogger.log request requestId response.status latency
    next }

end Router

end HttpLayers
