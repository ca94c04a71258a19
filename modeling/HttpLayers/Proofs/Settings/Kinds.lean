import HttpLayers.Proofs.Settings.Layouts

-- The eighteen kinds of policy, and what lists of settings come to for each of them.

namespace HttpLayers

open Adjustable

inductive Kind where
  | rateLimit
  | circuitBreaker
  | basicAuth
  | bodyLimit
  | contentCharset
  | contentEncoding
  | contentType
  | realIp
  | timeout
  | trailingSlash
  | compression
  | cors
  | noCache
  | securityHeaders
  | setHeader
  | recover
  | requestId
  | requestLogger
  deriving DecidableEq

-- What is configured of one kind, and where it stands among the settings and the policies.
structure Area where
  Policy : Type
  Setting : Type
  [adjustable : Adjustable Policy Setting]
  layout : Layout Policy Setting
  listed : Settings → List Setting
  resolved : Policies → Policy

attribute [instance] Area.adjustable

def Kind.area (entropy : Nat → Bytes) : Kind → Area
  | rateLimit => ⟨_,_,RateLimit.layout,Settings.rateLimit,Policies.rateLimit⟩
  | circuitBreaker => ⟨_,_,CircuitBreaker.layout,Settings.circuitBreaker,Policies.circuitBreaker⟩
  | basicAuth => ⟨_,_,BasicAuth.layout,Settings.basicAuth,Policies.basicAuth⟩
  | bodyLimit => ⟨_,_,BodyLimit.layout,Settings.bodyLimit,Policies.bodyLimit⟩
  | contentCharset => ⟨_,_,ContentCharset.layout,Settings.contentCharset,Policies.contentCharset⟩
  | contentEncoding =>
    ⟨_,_,ContentEncoding.layout,Settings.contentEncoding,Policies.contentEncoding⟩
  | contentType => ⟨_,_,ContentType.layout,Settings.contentType,Policies.contentType⟩
  | realIp => ⟨_,_,RealIp.layout,Settings.realIp,Policies.realIp⟩
  | timeout => ⟨_,_,Timeout.layout,Settings.timeout,Policies.timeout⟩
  | trailingSlash => ⟨_,_,TrailingSlash.layout,Settings.trailingSlash,Policies.trailingSlash⟩
  | compression => ⟨_,_,Compression.layout,Settings.compression,Policies.compression⟩
  | cors => ⟨_,_,Cors.layout,Settings.cors,Policies.cors⟩
  | noCache => ⟨_,_,NoCache.layout,Settings.noCache,Policies.noCache⟩
  | securityHeaders =>
    ⟨_,_,SecurityHeaders.layout,Settings.securityHeaders,Policies.securityHeaders⟩
  | setHeader => ⟨_,_,SetHeader.layout,Settings.setHeader,Policies.setHeader⟩
  | recover => ⟨_,_,Recover.layout,Settings.recover,Policies.recover⟩
  | requestId =>
    letI := RequestId.adjustable entropy
    ⟨_,_,RequestId.layout entropy,Settings.requestId,Policies.requestId⟩
  | requestLogger => ⟨_,_,RequestLogger.layout,Settings.requestLogger,Policies.requestLogger⟩

theorem last_setting_decides (entropy : Nat → Bytes) (kind : Kind) :
    let area := kind.area entropy
    (∀ (policy result : area.Policy) settings, result = applyAll policy settings ↔
      ∀ slot ∈ area.layout.slots,
        slot.read result = (slot.latest settings).getD (slot.read policy)) ∧
    (∀ (result : area.Policy) settings, result = ofSettings settings ↔
      ∀ slot ∈ area.layout.slots,
        slot.read result = (slot.latest settings).getD (slot.read initial)) ∧
    (∀ setting, (area.layout.slots.filter fun slot => (slot.given setting).isSome).length = 1) ∧
    (∀ (policy : area.Policy) first second,
      applyAll policy (first ++ second) = applyAll (applyAll policy first) second) ∧
    (∀ (policy : area.Policy) before setting after,
      applyAll policy (before ++ setting :: setting :: after) =
        applyAll policy (before ++ setting :: after)) ∧
    (∀ (policy : area.Policy) settings,
      applyAll policy (settings ++ settings) = applyAll policy settings) ∧
    ∀ (policy : area.Policy) before one other after, area.layout.Apart one other →
      applyAll policy (before ++ one :: other :: after) =
        applyAll policy (before ++ other :: one :: after) := by
  intro area
  refine ⟨?_,?_,area.layout.single,applyAll_append,area.layout.applyAll_repeat,
    area.layout.applyAll_twice,?_⟩
  · intro policy result settings
    exact area.layout.applyAll_exact
  · intro result settings
    exact area.layout.applyAll_exact
  · intro policy before one other after apart
    exact area.layout.applyAll_swap apart policy before after

example : (ofSettings [.allowedOrigins (some ["a"]),.allowedOrigins (some [])] : Cors) =
    { allowedOrigins := some [] } := rfl

namespace Settings

-- The settings that are added afterwards; the server is the one of the first.
def append (settings later : Settings) : Settings where
  server := settings.server
  rateLimit := settings.rateLimit ++ later.rateLimit
  circuitBreaker := settings.circuitBreaker ++ later.circuitBreaker
  basicAuth := settings.basicAuth ++ later.basicAuth
  bodyLimit := settings.bodyLimit ++ later.bodyLimit
  contentCharset := settings.contentCharset ++ later.contentCharset
  contentEncoding := settings.contentEncoding ++ later.contentEncoding
  contentType := settings.contentType ++ later.contentType
  realIp := settings.realIp ++ later.realIp
  timeout := settings.timeout ++ later.timeout
  trailingSlash := settings.trailingSlash ++ later.trailingSlash
  compression := settings.compression ++ later.compression
  cors := settings.cors ++ later.cors
  noCache := settings.noCache ++ later.noCache
  securityHeaders := settings.securityHeaders ++ later.securityHeaders
  setHeader := settings.setHeader ++ later.setHeader
  recover := settings.recover ++ later.recover
  requestId := settings.requestId ++ later.requestId
  requestLogger := settings.requestLogger ++ later.requestLogger

variable {entropy : Nat → Bytes} {settings later : Settings}

theorem resolved_resolve (kind : Kind) : (kind.area entropy).resolved (settings.resolve entropy) =
    ofSettings ((kind.area entropy).listed settings) := by
  cases kind <;> rfl

theorem listed_append (kind : Kind) : (kind.area entropy).listed (settings.append later) =
    (kind.area entropy).listed settings ++ (kind.area entropy).listed later := by
  cases kind <;> rfl

-- Each kind is resolved from its own list alone.
theorem resolved_append (kind : Kind) :
    (kind.area entropy).resolved ((settings.append later).resolve entropy) =
      applyAll ((kind.area entropy).resolved (settings.resolve entropy))
        ((kind.area entropy).listed later) := by
  rw [resolved_resolve,resolved_resolve,listed_append]
  exact applyAll_append ..

end Settings

end HttpLayers
