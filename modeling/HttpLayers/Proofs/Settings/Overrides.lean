import HttpLayers.Proofs.Settings.Forms
import HttpLayers.Proofs.Settings.Kinds

-- What an environment comes to: a reading of each variable, put where it belongs, with all else as it
-- is where nothing was set. Settings that are added afterwards win over it.

namespace HttpLayers

open Adjustable Outcome

structure Overrides where
  host : Option String
  port : Option UInt16
  certificate : Option String
  key : Option String
  domains : Option (List String)
  cacheDir : Option String
  shutdownTimeout : Option Duration
  rate : Option Int
  window : Option Duration
  algorithm : Option RateLimit.Algorithm
  failureThreshold : Option Int
  successThreshold : Option Int
  recoveryTimeout : Option Duration
  allowedOrigins : Option (List String)
  limit : Option Int
  timeout : Option Duration
  trustedProxies : Option (List String)

namespace Overrides

structure Read (env : Environment) (overrides : Overrides) : Prop where
  host : env.Gives "HOST" .text overrides.host
  port : env.Gives "PORT" .port overrides.port
  certificate : env.Gives "TLS_CERT_FILE" .text overrides.certificate
  key : env.Gives "TLS_KEY_FILE" .text overrides.key
  domains : env.Gives "AUTO_TLS_DOMAINS" .list overrides.domains
  cacheDir : env.Gives "AUTO_TLS_CACHE_DIR" .text overrides.cacheDir
  shutdownTimeout : env.Gives "SHUTDOWN_TIMEOUT_SECS" .seconds overrides.shutdownTimeout
  rate : env.Gives "RATE_LIMIT_RATE" .integer overrides.rate
  window : env.Gives "RATE_LIMIT_WINDOW_SECS" .seconds overrides.window
  algorithm : env.Gives "RATE_LIMIT_ALGORITHM" .algorithm overrides.algorithm
  failureThreshold :
    env.Gives "CIRCUIT_BREAKER_FAILURE_THRESHOLD" .integer overrides.failureThreshold
  successThreshold :
    env.Gives "CIRCUIT_BREAKER_SUCCESS_THRESHOLD" .integer overrides.successThreshold
  recoveryTimeout :
    env.Gives "CIRCUIT_BREAKER_RECOVERY_TIMEOUT_SECS" .seconds overrides.recoveryTimeout
  allowedOrigins : env.Gives "CORS_ALLOWED_ORIGINS" .list overrides.allowedOrigins
  limit : env.Gives "REQUEST_BODY_LIMIT" .integer overrides.limit
  timeout : env.Gives "REQUEST_TIMEOUT_SECS" .seconds overrides.timeout
  trustedProxies : env.Gives "TRUSTED_PROXIES" .list overrides.trustedProxies

theorem Read.unique {env : Environment} {one other : Overrides} (read : one.Read env)
    (also : other.Read env) : one = other := by
  cases one
  cases other
  rw [mk.injEq]
  exact ⟨read.host.unique also.host,read.port.unique also.port,
    read.certificate.unique also.certificate,read.key.unique also.key,
    read.domains.unique also.domains,read.cacheDir.unique also.cacheDir,
    read.shutdownTimeout.unique also.shutdownTimeout,read.rate.unique also.rate,
    read.window.unique also.window,read.algorithm.unique also.algorithm,
    read.failureThreshold.unique also.failureThreshold,
    read.successThreshold.unique also.successThreshold,
    read.recoveryTimeout.unique also.recoveryTimeout,
    read.allowedOrigins.unique also.allowedOrigins,read.limit.unique also.limit,
    read.timeout.unique also.timeout,read.trustedProxies.unique also.trustedProxies⟩

-- Certificates come as two files or from domains, and a list without a domain is as good as none.
structure Whole (overrides : Overrides) : Prop where
  paired : overrides.certificate.isSome = overrides.key.isSome
  housed : overrides.cacheDir.isSome = true → overrides.domains.getD [] ≠ []

def files (certificate key : Option String) : Option CertificateFiles :=
  certificate.bind fun certificate => key.map fun key => { certificate,key }

def automatic (domains : Option (List String)) (cacheDir : Option String) :
    Option AutomaticCertificates :=
  (domains.filter fun domains => !domains.isEmpty).map fun domains => { domains,cacheDir }

def server (overrides : Overrides) : ServerSettings where
  host := overrides.host.getD ServerSettings.defaultHost
  port := overrides.port.getD ServerSettings.defaultPort
  files := files overrides.certificate overrides.key
  automatic := automatic overrides.domains overrides.cacheDir
  shutdownTimeout := overrides.shutdownTimeout.getD ServerSettings.defaultShutdownTimeout

end Overrides

def Policies.standard (entropy : Nat → Bytes) : Policies :=
  letI := RequestId.adjustable entropy
  { rateLimit := initial
    circuitBreaker := initial
    basicAuth := initial
    bodyLimit := initial
    contentCharset := initial
    contentEncoding := initial
    contentType := initial
    realIp := initial
    timeout := initial
    trailingSlash := initial
    compression := initial
    cors := initial
    noCache := initial
    securityHeaders := initial
    setHeader := initial
    recover := initial
    requestId := initial
    requestLogger := initial }

namespace Overrides

def policies (overrides : Overrides) (standard : Policies) : Policies :=
  { standard with
    rateLimit := { standard.rateLimit with
      rate := overrides.rate.getD standard.rateLimit.rate
      window := overrides.window.getD standard.rateLimit.window
      algorithm := overrides.algorithm.getD standard.rateLimit.algorithm }
    circuitBreaker := { standard.circuitBreaker with
      failureThreshold := overrides.failureThreshold.getD standard.circuitBreaker.failureThreshold
      successThreshold := overrides.successThreshold.getD standard.circuitBreaker.successThreshold
      recoveryTimeout := overrides.recoveryTimeout.getD standard.circuitBreaker.recoveryTimeout }
    bodyLimit := { standard.bodyLimit with
      limit := overrides.limit.getD standard.bodyLimit.limit }
    realIp := { standard.realIp with
      trustedProxies := overrides.trustedProxies.or standard.realIp.trustedProxies }
    timeout := { standard.timeout with
      timeout := overrides.timeout.getD standard.timeout.timeout }
    cors := { standard.cors with
      allowedOrigins := overrides.allowedOrigins.or standard.cors.allowedOrigins } }

def settings (overrides : Overrides) : Settings where
  server := overrides.server
  rateLimit := (overrides.rate.map .rate).toList ++ (overrides.window.map .window).toList ++
    (overrides.algorithm.map .algorithm).toList
  circuitBreaker := (overrides.failureThreshold.map .failureThreshold).toList ++
    (overrides.successThreshold.map .successThreshold).toList ++
    (overrides.recoveryTimeout.map .recoveryTimeout).toList
  cors := (overrides.allowedOrigins.map fun listed => .allowedOrigins (some listed)).toList
  bodyLimit := (overrides.limit.map .limit).toList
  timeout := (overrides.timeout.map .timeout).toList
  realIp := (overrides.trustedProxies.map fun listed => .trustedProxies (some listed)).toList

theorem resolve_settings (overrides : Overrides) (entropy : Nat → Bytes) :
    overrides.settings.resolve entropy = overrides.policies (.standard entropy) := by
  obtain ⟨_,_,_,_,_,_,_,rate,window,algorithm,failures,successes,recovery,origins,limit,timeout,
    proxies⟩ := overrides
  refine (Policies.mk.injEq ..).mpr ⟨?rateLimit,?circuitBreaker,rfl,?bodyLimit,rfl,rfl,rfl,?realIp,
    ?timeout,rfl,rfl,?cors,rfl,rfl,rfl,rfl,rfl,rfl⟩
  case rateLimit => cases rate <;> cases window <;> cases algorithm <;> rfl
  case circuitBreaker => cases failures <;> cases successes <;> cases recovery <;> rfl
  case bodyLimit => cases limit <;> rfl
  case realIp => cases proxies <;> rfl
  case timeout => cases timeout <;> rfl
  case cors => cases origins <;> rfl

variable {env : Environment}

theorem readFiles_eq_ok {found : Option CertificateFiles}
    (accepted : ServerSettings.readFiles env = .ok found) :
    (env.text? "TLS_CERT_FILE").isSome = (env.text? "TLS_KEY_FILE").isSome ∧
      found = files (env.text? "TLS_CERT_FILE") (env.text? "TLS_KEY_FILE") := by
  unfold ServerSettings.readFiles at accepted
  generalize env.text? "TLS_CERT_FILE" = certificate at accepted ⊢
  generalize env.text? "TLS_KEY_FILE" = key at accepted ⊢
  cases certificate <;> cases key <;> cases accepted <;> exact ⟨rfl,rfl⟩

theorem readAutomatic_eq_ok {found : Option AutomaticCertificates}
    (accepted : ServerSettings.readAutomatic env = .ok found) :
    ((env.text? "AUTO_TLS_CACHE_DIR").isSome = true →
      (env.list? "AUTO_TLS_DOMAINS").getD [] ≠ []) ∧
    found = automatic (env.list? "AUTO_TLS_DOMAINS") (env.text? "AUTO_TLS_CACHE_DIR") := by
  unfold ServerSettings.readAutomatic at accepted
  generalize env.text? "AUTO_TLS_CACHE_DIR" = cacheDir at accepted ⊢
  generalize env.list? "AUTO_TLS_DOMAINS" = domains at accepted ⊢
  obtain _ | _ | ⟨first,others⟩ := domains
  · cases cacheDir <;> cases accepted
    exact ⟨nofun,rfl⟩
  · cases cacheDir <;> cases accepted
    exact ⟨nofun,rfl⟩
  · cases accepted
    exact ⟨fun _ => List.cons_ne_nil _ _,rfl⟩

theorem server_of_accepted {server : ServerSettings}
    (accepted : ServerSettings.ofEnvironment env = .ok server) :
    ∃ port shutdownTimeout, env.Gives "PORT" .port port ∧
      env.Gives "SHUTDOWN_TIMEOUT_SECS" .seconds shutdownTimeout ∧
      (env.text? "TLS_CERT_FILE").isSome = (env.text? "TLS_KEY_FILE").isSome ∧
      ((env.text? "AUTO_TLS_CACHE_DIR").isSome = true →
        (env.list? "AUTO_TLS_DOMAINS").getD [] ≠ []) ∧
      server =
        { host := (env.text? "HOST").getD ServerSettings.defaultHost
          port := port.getD ServerSettings.defaultPort
          files := files (env.text? "TLS_CERT_FILE") (env.text? "TLS_KEY_FILE")
          automatic := automatic (env.list? "AUTO_TLS_DOMAINS") (env.text? "AUTO_TLS_CACHE_DIR")
          shutdownTimeout := shutdownTimeout.getD ServerSettings.defaultShutdownTimeout } := by
  obtain ⟨port,readPort,later⟩ := bind_eq_ok_iff.mp accepted
  obtain ⟨_,readFiles,later⟩ := bind_eq_ok_iff.mp later
  obtain ⟨_,readAutomatic,later⟩ := bind_eq_ok_iff.mp later
  obtain ⟨shutdownTimeout,readShutdown,made⟩ := bind_eq_ok_iff.mp later
  obtain ⟨paired,rfl⟩ := readFiles_eq_ok (mapError_eq_ok_iff.mp readFiles)
  obtain ⟨housed,rfl⟩ := readAutomatic_eq_ok (mapError_eq_ok_iff.mp readAutomatic)
  have word : env.read? "PORT" Form.port.read = .ok (port.map Nat.toUInt16) := by
    rw [Environment.read?_port,readPort]
    rfl
  exact ⟨port.map Nat.toUInt16,shutdownTimeout,Environment.read?_eq_ok_iff.mp word,
    Environment.read?_eq_ok_iff.mp readShutdown,paired,housed,(Except.ok.inj made).symm⟩

theorem of_accepted {settings : Settings} (accepted : Settings.ofEnvironment env = .ok settings) :
    ∃ overrides : Overrides, overrides.Read env ∧ overrides.Whole ∧
      settings = overrides.settings := by
  obtain ⟨_,readServer,later⟩ := bind_eq_ok_iff.mp accepted
  obtain ⟨port,shutdownTimeout,portGiven,shutdownGiven,paired,housed,rfl⟩ :=
    server_of_accepted readServer
  obtain ⟨rate,readRate,later⟩ := bind_eq_ok_iff.mp later
  obtain ⟨window,readWindow,later⟩ := bind_eq_ok_iff.mp later
  obtain ⟨algorithm,readAlgorithm,later⟩ := bind_eq_ok_iff.mp later
  obtain ⟨failures,readFailures,later⟩ := bind_eq_ok_iff.mp later
  obtain ⟨successes,readSuccesses,later⟩ := bind_eq_ok_iff.mp later
  obtain ⟨recovery,readRecovery,later⟩ := bind_eq_ok_iff.mp later
  obtain ⟨limit,readLimit,later⟩ := bind_eq_ok_iff.mp later
  obtain ⟨timeout,readTimeout,later⟩ := bind_eq_ok_iff.mp later
  refine ⟨⟨env.text? "HOST",port,env.text? "TLS_CERT_FILE",env.text? "TLS_KEY_FILE",
    env.list? "AUTO_TLS_DOMAINS",env.text? "AUTO_TLS_CACHE_DIR",shutdownTimeout,rate,window,
    algorithm,failures,successes,recovery,env.list? "CORS_ALLOWED_ORIGINS",limit,timeout,
    env.list? "TRUSTED_PROXIES"⟩,?read,⟨paired,housed⟩,(Except.ok.inj later).symm⟩
  exact ⟨Environment.gives_text,portGiven,Environment.gives_text,Environment.gives_text,
    Environment.gives_list,Environment.gives_text,shutdownGiven,
    Environment.read?_eq_ok_iff.mp readRate,Environment.read?_eq_ok_iff.mp readWindow,
    Environment.read?_eq_ok_iff.mp readAlgorithm,Environment.read?_eq_ok_iff.mp readFailures,
    Environment.read?_eq_ok_iff.mp readSuccesses,Environment.read?_eq_ok_iff.mp readRecovery,
    Environment.gives_list,Environment.read?_eq_ok_iff.mp readLimit,
    Environment.read?_eq_ok_iff.mp readTimeout,Environment.gives_list⟩

end Overrides

namespace Settings

theorem environment_exact {env : Environment} {settings : Settings}
    (accepted : ofEnvironment env = .ok settings) (entropy : Nat → Bytes) :
    (∃ overrides : Overrides,
      (∀ other : Overrides, other.Read env ↔ other = overrides) ∧ overrides.Whole ∧
      settings.server = overrides.server ∧
      settings.resolve entropy = overrides.policies (.standard entropy)) ∧
    ∀ (later : Settings) (kind : Kind),
      let area := kind.area entropy
      let before := area.resolved (settings.resolve entropy)
      let after := area.resolved ((settings.append later).resolve entropy)
      after = applyAll before (area.listed later) ∧
      ∀ slot ∈ area.layout.slots,
        slot.read after = (slot.latest (area.listed later)).getD (slot.read before) := by
  constructor
  · obtain ⟨overrides,read,whole,rfl⟩ := Overrides.of_accepted accepted
    refine ⟨overrides,fun other => ⟨fun also => also.unique read,?_⟩,whole,rfl,
      overrides.resolve_settings entropy⟩
    rintro rfl
    exact read
  · intro later kind
    refine ⟨resolved_append kind,fun slot _ => ?_⟩
    rw [resolved_append,slot.read_applyAll]

def crowded : Environment :=
  .ofTable [("PORT"," +08080 "),("HOST","  "),("RATE_LIMIT_RATE","-250"),
    ("RATE_LIMIT_ALGORITHM","Sliding-Window"),("TRUSTED_PROXIES"," , ")]

def crowdedSettings : Settings where
  server := { port := 8080 }
  rateLimit := [.rate (-250),.algorithm .slidingWindow]
  realIp := [.trustedProxies (some [])]

theorem later_rate_wins :
    ofEnvironment crowded = .ok crowdedSettings ∧
    (∃ overrides : Overrides,
      overrides.Read crowded ∧ crowdedSettings.server = overrides.server) ∧
    ((crowdedSettings.append { rateLimit := [.rate 7] }).resolve fun _ => []).rateLimit =
      { rate := 7,algorithm := .slidingWindow } := by
  have accepted : ofEnvironment crowded = .ok crowdedSettings := rfl
  obtain ⟨⟨overrides,determined,_,server,_⟩,overruled⟩ := environment_exact accepted fun _ => []
  refine ⟨accepted,⟨overrides,(determined overrides).mpr rfl,server⟩,?_⟩
  exact (overruled { rateLimit := [.rate 7] } .rateLimit).1.trans rfl

end Settings

end HttpLayers
