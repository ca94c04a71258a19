import HttpLayers.Net.Cidr
import HttpLayers.Policy.BasicAuth
import HttpLayers.Policy.BodyLimit
import HttpLayers.Policy.CircuitBreaker
import HttpLayers.Policy.Compression
import HttpLayers.Policy.ContentCharset
import HttpLayers.Policy.ContentEncoding
import HttpLayers.Policy.ContentType
import HttpLayers.Policy.Cors
import HttpLayers.Policy.NoCache
import HttpLayers.Policy.RateLimit
import HttpLayers.Policy.RealIp
import HttpLayers.Policy.Recover
import HttpLayers.Policy.RequestId
import HttpLayers.Policy.RequestLogger
import HttpLayers.Policy.SecurityHeaders
import HttpLayers.Policy.SetHeader
import HttpLayers.Policy.Timeout
import HttpLayers.Policy.TrailingSlash

-- No value is refused when settings are applied; the checks are for a server that is about to use
-- the values.

namespace HttpLayers

open Net

structure Policies where
  rateLimit : RateLimit
  circuitBreaker : CircuitBreaker
  basicAuth : BasicAuth
  bodyLimit : BodyLimit
  contentCharset : ContentCharset
  contentEncoding : ContentEncoding
  contentType : ContentType
  realIp : RealIp
  timeout : Timeout
  trailingSlash : TrailingSlash
  compression : Compression
  cors : Cors
  noCache : NoCache
  securityHeaders : SecurityHeaders
  setHeader : SetHeader
  recover : Recover
  requestId : RequestId
  requestLogger : RequestLogger

namespace Policies

def snapshots (policies : Policies) : List (String × Snapshot) :=
  [("rate_limit",policies.rateLimit.snapshot),
   ("circuit_breaker",policies.circuitBreaker.snapshot),
   ("basic_auth",policies.basicAuth.snapshot),
   ("body_limit",policies.bodyLimit.snapshot),
   ("content_charset",policies.contentCharset.snapshot),
   ("content_encoding",policies.contentEncoding.snapshot),
   ("content_type",policies.contentType.snapshot),
   ("real_ip",policies.realIp.snapshot),
   ("timeout",policies.timeout.snapshot),
   ("trailing_slash",policies.trailingSlash.snapshot),
   ("compression",policies.compression.snapshot),
   ("cors",policies.cors.snapshot),
   ("no_cache",policies.noCache.snapshot),
   ("security_headers",policies.securityHeaders.snapshot),
   ("set_header",policies.setHeader.snapshot),
   ("recover",policies.recover.snapshot),
   ("request_id",policies.requestId.snapshot),
   ("request_logger",policies.requestLogger.snapshot)]

inductive Fault where
  | notPositive (quantity : String)
  | badStatus (purpose : String) (code : UInt16)
  | badRange (entry : String)
  deriving DecidableEq, Repr

namespace Fault

def problem : Fault → String
  | notPositive quantity => quantity ++ " must be greater than 0"
  | badStatus purpose code =>
    purpose ++ " " ++ toString code.toNat ++ " is not a valid HTTP status"
  | badRange entry => "invalid trusted proxy CIDR '" ++ entry ++ "'"

def toError (fault : Fault) : SettingsError :=
  .unfit fault.problem

end Fault

def quantities (policies : Policies) : List (String × Bool) :=
  [("rate limit rate",0 < policies.rateLimit.rate),
   ("rate limit window",!policies.rateLimit.window.isZero),
   ("circuit breaker failure threshold",0 < policies.circuitBreaker.failureThreshold),
   ("circuit breaker success threshold",0 < policies.circuitBreaker.successThreshold)]

def statusCodes (policies : Policies) : List (String × UInt16) :=
  [("rate limit status code",policies.rateLimit.statusCode),
   ("circuit breaker open status code",policies.circuitBreaker.openStatusCode),
   ("body limit status code",policies.bodyLimit.statusCode),
   ("content charset status code",policies.contentCharset.statusCode),
   ("content encoding status code",policies.contentEncoding.statusCode),
   ("content type status code",policies.contentType.statusCode),
   ("recover status code",policies.recover.statusCode),
   ("timeout status code",policies.timeout.statusCode),
   ("trailing slash redirect code",policies.trailingSlash.redirectCode)]

def isStatus (code : UInt16) : Bool :=
  100 ≤ code && code ≤ 599

-- In the order in which faults are looked for.
def faults (policies : Policies) : List Fault :=
  (policies.quantities.filter fun quantity => !quantity.2).map
      (fun quantity => .notPositive quantity.1) ++
    (policies.statusCodes.filter fun status => !isStatus status.2).map
      (fun status => .badStatus status.1 status.2) ++
    ((policies.realIp.trustedProxies.getD []).filter fun entry =>
      (Cidr.ofText? entry.toList).isNone).map .badRange

def check (policies : Policies) : Except SettingsError Unit :=
  match policies.faults.head? with
  | none => .ok ()
  | some fault => .error fault.toError

end Policies

end HttpLayers
