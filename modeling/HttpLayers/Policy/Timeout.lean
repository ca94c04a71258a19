import HttpLayers.Adjustable
import HttpLayers.Http.Message

namespace HttpLayers

open Http

namespace Timeout

def defaultTimeout : Duration := .seconds 30

end Timeout

structure Timeout where
  timeout : Duration := Timeout.defaultTimeout
  statusCode : UInt16 := 504
  message : String := "Request timed out"

namespace Timeout

inductive Setting where
  | timeout (value : Duration)
  | statusCode (value : UInt16)
  | message (value : String)

def set (policy : Timeout) : Setting → Timeout
  | .timeout value => { policy with timeout := value }
  | .statusCode value => { policy with statusCode := value }
  | .message value => { policy with message := value }

def snapshot (policy : Timeout) : Snapshot where
  name := "TimeoutConfig"
  fields :=
    [("timeout",.duration policy.timeout),
     ("status_code",.ofCode policy.statusCode),
     ("message",.text policy.message)]

instance : Adjustable Timeout Setting where
  initial := {}
  set := set
  snapshot := snapshot

def effective (policy : Timeout) (request : Request) : Duration :=
  request.timeLimit.getD policy.timeout

end Timeout

end HttpLayers
