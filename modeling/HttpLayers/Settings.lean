import HttpLayers.Policies
import HttpLayers.Server

-- Settings read from the environment stand at the front of their lists, so any that are added later
-- win.

namespace HttpLayers

structure Settings where
  server : ServerSettings := {}
  rateLimit : List RateLimit.Setting := []
  circuitBreaker : List CircuitBreaker.Setting := []
  basicAuth : List BasicAuth.Setting := []
  bodyLimit : List BodyLimit.Setting := []
  contentCharset : List ContentCharset.Setting := []
  contentEncoding : List ContentEncoding.Setting := []
  contentType : List ContentType.Setting := []
  realIp : List RealIp.Setting := []
  timeout : List Timeout.Setting := []
  trailingSlash : List TrailingSlash.Setting := []
  compression : List Compression.Setting := []
  cors : List Cors.Setting := []
  noCache : List NoCache.Setting := []
  securityHeaders : List SecurityHeaders.Setting := []
  setHeader : List SetHeader.Setting := []
  recover : List Recover.Setting := []
  requestId : List RequestId.Setting := []
  requestLogger : List RequestLogger.Setting := []

namespace Settings

open Text Adjustable

def resolve (entropy : Nat → Bytes) (settings : Settings) : Policies :=
  letI := RequestId.adjustable entropy
  { rateLimit := ofSettings settings.rateLimit
    circuitBreaker := ofSettings settings.circuitBreaker
    basicAuth := ofSettings settings.basicAuth
    bodyLimit := ofSettings settings.bodyLimit
    contentCharset := ofSettings settings.contentCharset
    contentEncoding := ofSettings settings.contentEncoding
    contentType := ofSettings settings.contentType
    realIp := ofSettings settings.realIp
    timeout := ofSettings settings.timeout
    trailingSlash := ofSettings settings.trailingSlash
    compression := ofSettings settings.compression
    cors := ofSettings settings.cors
    noCache := ofSettings settings.noCache
    securityHeaders := ofSettings settings.securityHeaders
    setHeader := ofSettings settings.setHeader
    recover := ofSettings settings.recover
    requestId := ofSettings settings.requestId
    requestLogger := ofSettings settings.requestLogger }

-- The error is reported in full behind the name of the variable.
def readAlgorithm (env : Environment) (name : String) :
    Except SettingsError (Option RateLimit.Algorithm) :=
  env.read? name fun value => (RateLimit.Algorithm.ofText value).mapError SettingsError.message

def ofEnvironment (env : Environment) : Except SettingsError Settings := do
  let server ← ServerSettings.ofEnvironment env
  let rate ← env.integer? "RATE_LIMIT_RATE"
  let window ← env.seconds? "RATE_LIMIT_WINDOW_SECS"
  let algorithm ← readAlgorithm env "RATE_LIMIT_ALGORITHM"
  let failures ← env.integer? "CIRCUIT_BREAKER_FAILURE_THRESHOLD"
  let successes ← env.integer? "CIRCUIT_BREAKER_SUCCESS_THRESHOLD"
  let recovery ← env.seconds? "CIRCUIT_BREAKER_RECOVERY_TIMEOUT_SECS"
  let origins := env.list? "CORS_ALLOWED_ORIGINS"
  let limit ← env.integer? "REQUEST_BODY_LIMIT"
  let timeout ← env.seconds? "REQUEST_TIMEOUT_SECS"
  let proxies := env.list? "TRUSTED_PROXIES"
  return {
    server
    rateLimit := (rate.map .rate).toList ++ (window.map .window).toList ++
      (algorithm.map .algorithm).toList
    circuitBreaker := (failures.map .failureThreshold).toList ++
      (successes.map .successThreshold).toList ++ (recovery.map .recoveryTimeout).toList
    cors := (origins.map fun listed => .allowedOrigins (some listed)).toList
    bodyLimit := (limit.map .limit).toList
    timeout := (timeout.map .timeout).toList
    realIp := (proxies.map fun listed => .trustedProxies (some listed)).toList }

def counts (settings : Settings) : List (String × Nat) :=
  [("rate_limit",settings.rateLimit.length),
   ("circuit_breaker",settings.circuitBreaker.length),
   ("basic_auth",settings.basicAuth.length),
   ("body_limit",settings.bodyLimit.length),
   ("content_charset",settings.contentCharset.length),
   ("content_encoding",settings.contentEncoding.length),
   ("content_type",settings.contentType.length),
   ("real_ip",settings.realIp.length),
   ("timeout",settings.timeout.length),
   ("trailing_slash",settings.trailingSlash.length),
   ("compression",settings.compression.length),
   ("cors",settings.cors.length),
   ("no_cache",settings.noCache.length),
   ("security_headers",settings.securityHeaders.length),
   ("set_header",settings.setHeader.length),
   ("recover",settings.recover.length),
   ("request_id",settings.requestId.length),
   ("request_logger",settings.requestLogger.length)]

-- Only how many there are, and nothing of what they do.
def shownCount (row : String × Nat) : String × Shown :=
  (row.1 ++ "_options",.list (List.replicate row.2 (.word "ConfigOption(..)")))

def shown (settings : Settings) : Shown :=
  .record "Config" (("server",settings.server.shown) :: settings.counts.map shownCount)

end Settings

end HttpLayers
