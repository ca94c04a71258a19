import HttpLayers.Adjustable
import HttpLayers.Http.Message

namespace HttpLayers

open Http

inductive LogLevel where
  | error
  | warn
  | info
  | debug
  | trace
  deriving DecidableEq, Repr

instance : Choice LogLevel where
  all := [.error,.warn,.info,.debug,.trace]
  name
    | .error => "ERROR"
    | .warn => "WARN"
    | .info => "INFO"
    | .debug => "DEBUG"
    | .trace => "TRACE"
  title
    | .error => "Level(Error)"
    | .warn => "Level(Warn)"
    | .info => "Level(Info)"
    | .debug => "Level(Debug)"
    | .trace => "Level(Trace)"

structure LogSpan where
  level : LogLevel
  method : String
  uri : String
  requestId : Option String := none
  headers : Option String := none
  deriving DecidableEq, Repr

structure LogEvent where
  level : LogLevel
  status : UInt16
  latencyMs : Nat
  deriving DecidableEq, Repr

structure RequestLogger where
  level : LogLevel := .info
  skipPaths : Option (List String) := none
  includeHeaders : Bool := false
  includeQuery : Bool := true

namespace RequestLogger

inductive Setting where
  | level (value : LogLevel)
  | skipPaths (value : Option (List String))
  | includeHeaders (value : Bool)
  | includeQuery (value : Bool)

def set (policy : RequestLogger) : Setting → RequestLogger
  | .level value => { policy with level := value }
  | .skipPaths value => { policy with skipPaths := value }
  | .includeHeaders value => { policy with includeHeaders := value }
  | .includeQuery value => { policy with includeQuery := value }

def snapshot (policy : RequestLogger) : Snapshot where
  name := "RequestLoggerConfig"
  fields :=
    [("level",.ofChoice policy.level),
     ("skip_paths",.optionalTexts policy.skipPaths),
     ("include_headers",.flag policy.includeHeaders),
     ("include_query",.flag policy.includeQuery)]

instance : Adjustable RequestLogger Setting where
  initial := {}
  set := set
  snapshot := snapshot

def logs (policy : RequestLogger) (path : String) : Bool :=
  !isListed policy.skipPaths path

-- With its query only where queries are logged.
def recordedTarget (policy : RequestLogger) (target : Target) : String :=
  if policy.includeQuery then target.pathAndQuery?.getD target.path else target.path

-- The level of a span is settled where the span is made, so there is one place for each level.
def openSpan (policy : RequestLogger) (method uri : String) : LogSpan :=
  match policy.level with
  | .error => { level := .error,method,uri }
  | .warn => { level := .warn,method,uri }
  | .info => { level := .info,method,uri }
  | .debug => { level := .debug,method,uri }
  | .trace => { level := .trace,method,uri }

-- None is the span of a path that is skipped.
def span? (policy : RequestLogger) (request : Request) (requestId : Option String) :
    Option LogSpan :=
  if policy.logs request.path then
    some { policy.openSpan request.method (policy.recordedTarget request.target) with
      requestId
      headers := if policy.includeHeaders then some request.headers.shown else none }
  else none

def spanName : String := "request"

def eventMessage : String := "Request completed"

-- Milliseconds are counted in 64 bits.
def latencyMs (latency : Duration) : Nat :=
  latency.wholeMillis % UInt64.size

-- The level is looked up again: nothing of the span is asked but whether there is one.
def onResponse (policy : RequestLogger) (span : Option LogSpan) (status : UInt16)
    (latency : Duration) : Option LogEvent :=
  match span with
  | none => none
  | some _ =>
    let latencyMs := latencyMs latency
    match policy.level with
    | .error => some { level := .error,status,latencyMs }
    | .warn => some { level := .warn,status,latencyMs }
    | .info => some { level := .info,status,latencyMs }
    | .debug => some { level := .debug,status,latencyMs }
    | .trace => some { level := .trace,status,latencyMs }

def log (policy : RequestLogger) (request : Request) (requestId : Option String) (status : UInt16)
    (latency : Duration) : Option (LogSpan × LogEvent) := do
  let span := policy.span? request requestId
  let opened ← span
  let event ← policy.onResponse span status latency
  return (opened,event)

end RequestLogger

end HttpLayers
