import HttpLayers.Adjustable
import HttpLayers.Keying

-- The breaker that counts and waits is elsewhere; this is what it is told, and which answers count
-- as failures.

namespace HttpLayers

open Http

abbrev FailureTest := Request → UInt16 → Bool

namespace FailureTest

def serverError : FailureTest := fun _ status =>
  500 ≤ status

def statuses (listed : List UInt16) : FailureTest := fun _ status =>
  listed.contains status

def path (expected : String) : FailureTest := fun request _ =>
  request.path == expected

end FailureTest

namespace CircuitBreaker

inductive State where
  | closed
  | opened
  | halfOpen
  deriving DecidableEq, Repr

instance : Choice State where
  all := [.closed,.opened,.halfOpen]
  name
    | .closed => "closed"
    | .opened => "open"
    | .halfOpen => "half-open"
  title
    | .closed => "Closed"
    | .opened => "Open"
    | .halfOpen => "HalfOpen"

def defaultFailureThreshold : Int := 5
def defaultSuccessThreshold : Int := 3
def defaultRecoveryTimeout : Duration := .seconds 30
def defaultOpenStatusCode : UInt16 := 503
def defaultOpenMessage : String := "Service temporarily unavailable"

end CircuitBreaker

structure CircuitBreaker where
  -- failures in a row that open the circuit
  failureThreshold : Int := CircuitBreaker.defaultFailureThreshold
  -- successful trials in a row that close it again
  successThreshold : Int := CircuitBreaker.defaultSuccessThreshold
  recoveryTimeout : Duration := CircuitBreaker.defaultRecoveryTimeout
  failureTest : Option FailureTest := some .serverError
  keying : Option Keying := some .path
  openStatusCode : UInt16 := CircuitBreaker.defaultOpenStatusCode
  openMessage : Option String := some CircuitBreaker.defaultOpenMessage

namespace CircuitBreaker

inductive Setting where
  | failureThreshold (value : Int)
  | successThreshold (value : Int)
  | recoveryTimeout (value : Duration)
  | failureTest (value : Option FailureTest)
  | keying (value : Option Keying)
  | openStatusCode (value : UInt16)
  | openMessage (value : Option String)

def set (policy : CircuitBreaker) : Setting → CircuitBreaker
  | .failureThreshold value => { policy with failureThreshold := value }
  | .successThreshold value => { policy with successThreshold := value }
  | .recoveryTimeout value => { policy with recoveryTimeout := value }
  | .failureTest value => { policy with failureTest := value }
  | .keying value => { policy with keying := value }
  | .openStatusCode value => { policy with openStatusCode := value }
  | .openMessage value => { policy with openMessage := value }

def snapshot (policy : CircuitBreaker) : Snapshot where
  name := "CircuitBreakerConfig"
  fields :=
    [("failure_threshold",.integer policy.failureThreshold),
     ("success_threshold",.integer policy.successThreshold),
     ("recovery_timeout",.duration policy.recoveryTimeout),
     ("failure_classifier",.strategy policy.failureTest.isSome),
     ("key_extractor",.strategy policy.keying.isSome),
     ("open_status_code",.ofCode policy.openStatusCode),
     ("open_message",.optionalText policy.openMessage)]

instance : Adjustable CircuitBreaker Setting where
  initial := {}
  set := set
  snapshot := snapshot

def countsAsFailure (policy : CircuitBreaker) (request : Request) (status : UInt16) : Bool :=
  policy.failureTest.any fun classify => classify request status

def key? (policy : CircuitBreaker) (request : Request) : Option String :=
  policy.keying.map fun keying => keying request

end CircuitBreaker

end HttpLayers
