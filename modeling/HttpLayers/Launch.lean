import HttpLayers.Settings

-- Every fault of the configuration is found before a socket is touched.

namespace HttpLayers

open Net

-- Ending exactly with the period of grace counts. Without a list the work never ends.
def drain (waits : Option (List Nat)) (grace : Duration) : Option Nat :=
  (waits.map (·.foldl (· + ·) 0)).filter fun total => total ≤ grace.millisCeil

namespace Launch

inductive Refusal where
  | unreadable (error : SettingsError)
  | badServer (error : SettingsError)
  | badPolicies (error : SettingsError)
  -- host and port together are no address
  | badAddress (written : String)
  | unavailable (endpoint : Endpoint)
  deriving DecidableEq, Repr

namespace Refusal

def exitCode : Refusal → UInt8
  | unavailable _ => 69
  | _ => 78

def message : Refusal → String
  | unreadable error => "Configuration error: " ++ error.message
  | badServer error => "Server configuration error: " ++ error.message
  | badPolicies error => "Middleware configuration error: " ++ error.message
  | badAddress written => "Invalid server address: " ++ written
  | unavailable endpoint => "Failed to bind to " ++ String.ofList endpoint.text

end Refusal

structure Ready where
  settings : Settings
  policies : Policies
  endpoint : Endpoint

def prepare (entropy : Nat → Bytes) (env : Environment) : Except Refusal Ready := do
  let settings ← (Settings.ofEnvironment env).mapError .unreadable
  settings.server.check.mapError .badServer
  let policies := settings.resolve entropy
  policies.check.mapError .badPolicies
  match settings.server.endpoint? with
  | none => .error (.badAddress settings.server.address)
  | some endpoint => .ok { settings,policies,endpoint }

def bind (canBind : Endpoint → Bool) (ready : Ready) : Except Refusal Ready :=
  if canBind ready.endpoint then .ok ready else .error (.unavailable ready.endpoint)

-- How the task of a server came to its end.
inductive Ending where
  | served
  | failed
  | crashed
  deriving DecidableEq, Repr

def Ending.exitCode : Ending → UInt8
  | served => 0
  | failed => 70
  | crashed => 70

-- What becomes of a server that listens. When a signal comes, the requests in flight have their waits
-- before them, in milliseconds; without a list they never end.
inductive Fate where
  | runs
  | ends (ending : Ending)
  | signalled (waits : Option (List Nat)) (ending : Ending)
  deriving DecidableEq, Repr

inductive Outcome where
  | exits (code : UInt8)
  | keepsRunning
  deriving DecidableEq, Repr

-- A server that is cut off is not asked how it ended.
def close (grace : Duration) : Fate → Outcome
  | .runs => .keepsRunning
  | .ends ending => .exits ending.exitCode
  | .signalled waits ending =>
    match drain waits grace with
    | some _ => .exits ending.exitCode
    | none => .exits 0

def run (entropy : Nat → Bytes) (env : Environment) (canBind : Endpoint → Bool) (fate : Fate) :
    Outcome :=
  match (prepare entropy env).bind (bind canBind) with
  | .error refusal => .exits refusal.exitCode
  | .ok ready => close ready.settings.server.shutdownTimeout fate

end Launch

end HttpLayers
