import HttpLayers.Adjustable
import HttpLayers.SettingsError
import HttpLayers.Keying
import HttpLayers.Text.Split

-- The limiter itself is elsewhere; any value can be configured here, zero and negative rates
-- included.

namespace HttpLayers

open Http Text

namespace RateLimit

inductive Algorithm where
  | tokenBucket
  | slidingWindow
  | fixedWindow
  deriving DecidableEq, Repr

namespace Algorithm

instance : Choice Algorithm where
  all := [tokenBucket,slidingWindow,fixedWindow]
  name
    | tokenBucket => "token_bucket"
    | slidingWindow => "sliding_window"
    | fixedWindow => "fixed_window"
  title
    | tokenBucket => "TokenBucket"
    | slidingWindow => "SlidingWindow"
    | fixedWindow => "FixedWindow"

def ofText (s : List Char) : Except SettingsError Algorithm :=
  let name := String.ofList ((lower (trim s)).map fun c => if c = '-' then '_' else c)
  match Choice.ofName? name with
  | some algorithm => .ok algorithm
  | none => .error (.unreadable "rate limit algorithm"
      ("unknown algorithm '" ++ name ++ "', expected token_bucket, sliding_window or fixed_window"))

end Algorithm

def defaultRate : Int := 100
def defaultWindow : Duration := .seconds 60
def defaultStatusCode : UInt16 := 429
def defaultMessage : String := "Rate limit exceeded"

end RateLimit

structure RateLimit where
  rate : Int := RateLimit.defaultRate
  window : Duration := RateLimit.defaultWindow
  algorithm : RateLimit.Algorithm := .tokenBucket
  -- absent, it is left to the limiter
  keying : Option Keying := some .forwardedFor
  statusCode : UInt16 := RateLimit.defaultStatusCode
  message : Option String := some RateLimit.defaultMessage
  includeHeaders : Bool := true
  exemptPaths : Option (List String) := none

namespace RateLimit

inductive Setting where
  | rate (value : Int)
  | window (value : Duration)
  | algorithm (value : Algorithm)
  | keying (value : Option Keying)
  | statusCode (value : UInt16)
  | message (value : Option String)
  | includeHeaders (value : Bool)
  | exemptPaths (value : Option (List String))

def set (policy : RateLimit) : Setting → RateLimit
  | .rate value => { policy with rate := value }
  | .window value => { policy with window := value }
  | .algorithm value => { policy with algorithm := value }
  | .keying value => { policy with keying := value }
  | .statusCode value => { policy with statusCode := value }
  | .message value => { policy with message := value }
  | .includeHeaders value => { policy with includeHeaders := value }
  | .exemptPaths value => { policy with exemptPaths := value }

def snapshot (policy : RateLimit) : Snapshot where
  name := "RateLimitConfig"
  fields :=
    [("rate",.integer policy.rate),
     ("window",.duration policy.window),
     ("algorithm",.ofChoice policy.algorithm),
     ("key_extractor",.strategy policy.keying.isSome),
     ("status_code",.ofCode policy.statusCode),
     ("message",.optionalText policy.message),
     ("include_headers",.flag policy.includeHeaders),
     ("exempt_paths",.optionalTexts policy.exemptPaths)]

instance : Adjustable RateLimit Setting where
  initial := {}
  set := set
  snapshot := snapshot

def exempts (policy : RateLimit) (path : String) : Bool :=
  isListed policy.exemptPaths path

def key? (policy : RateLimit) (request : Request) : Option String :=
  policy.keying.map fun keying => keying request

end RateLimit

end HttpLayers
