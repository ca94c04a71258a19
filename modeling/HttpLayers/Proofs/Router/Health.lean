import HttpLayers.Proofs.BodyLimit
import HttpLayers.Proofs.Cors.Answer
import HttpLayers.Proofs.Gate
import HttpLayers.Proofs.Router.Stack
import HttpLayers.Proofs.SecurityPairs
import HttpLayers.Settings

-- From the handler outwards each stage adds itself to one end of the row of givers.

namespace HttpLayers.Router

open Http BasicAuth

-- The other names are those that the layer for other origins and the measuring of the body write.
structure Free (name : FieldName) : Prop where
  vary : name ≠ .of "vary"
  length : name ≠ .of "content-length"
  origins : ¬"access-control-".toList <+: name.text.toList

section

variable {policies : Policies} {request : Request} {response : Response} {name : FieldName}

theorem Free.field (free : Free name) {other : FieldName}
    (shared : "access-control-".toList <+: other.text.toList) (value : Option FieldValue) :
    (Headers.mk (Cors.field other value)).values name = [] := by
  rw [Cors.values_field,if_neg]
  rintro rfl
  exact free.origins shared

theorem decorate_values (free : Free name) (policy : Cors) :
    (policy.decorate request response).headers.values name = response.headers.values name := by
  have none : (Headers.mk (policy.commonFields request ++ policy.actualFields)).values name = [] := by
    rw [Headers.values_concat,Cors.commonFields,Headers.values_concat,Cors.actualFields,
      free.field (by decide),free.field (by decide),free.field (by decide)]
    rfl
  rw [Cors.decorate,Headers.values_insertAll,none]
  change (response.headers.append _ _).values name = _
  rw [Headers.values_append,if_neg fun same => free.vary same.symm,List.append_nil]

theorem complete_health (method : request.method = "GET") (path : request.path = healthPath) :
    complete request response = measure request response := by
  have tunnel : opensTunnel request response = false := by simp [opensTunnel,method]
  have read : isRead request.method = true := by simp [isRead,method]
  rw [complete,tunnel,if_neg Bool.false_ne_true,if_pos path,nameMethods,if_pos read]

theorem measure_values (free : Free name) :
    (measure request response).headers.values name = response.headers.values name := by
  rw [measure,Headers.values_insertIfAbsent,if_neg fun both => free.length both.1.symm]

theorem route_health (method : request.method = "GET") (path : request.path = healthPath) :
    (route policies request : Id Response) =
      { health with headers := policies.noCache.patch.apply health.headers } := by
  have read : isRead request.method = true := by simp [isRead,method]
  have told : (report { request with headers := policies.noCache.patch.strip request.headers } :
      Id Response) = health := if_pos read
  rw [route,if_pos path]
  unfold HeaderPatch.layer
  rw [told]
  rfl

theorem limited_health (method : request.method = "GET") (path : request.path = healthPath)
    (declared : ¬policies.bodyLimit.DeclaresTooMuch request) :
    (limited policies request : Id Response) =
      { health with headers := policies.noCache.patch.apply health.headers } := by
  have routed : (route policies { request with readCap := policies.bodyLimit.readCap } :
      Id Response) = _ := route_health method path
  rw [limited,BodyLimit.layer_passed declared,routed]
  rfl

theorem answered_health (method : request.method = "GET") (path : request.path = healthPath)
    (admitted : policies.basicAuth.validator.isSome = true → Admitted policies.basicAuth request)
    (declared : ¬policies.bodyLimit.DeclaresTooMuch request) :
    answered policies request = policies.cors.decorate request
      { health with headers := policies.noCache.patch.apply health.headers } := by
  have passed : (gate policies.basicAuth (limited policies) request : Id Response) =
      limited policies request := by
    unfold gate
    split
    · rename_i configured
      exact layer_admitted (admitted configured) _
    · rfl
  have actual : ¬Cors.isPreflight request = true := by simp [Cors.isPreflight,method]
  rw [answered,guarded,Cors.layer,if_neg actual]
  change policies.cors.decorate request
    (gate policies.basicAuth (limited policies) request : Id Response) = _
  rw [passed,limited_health method path declared]

theorem answered_handOn (method : request.method = "GET") (path : request.path = healthPath)
    (admitted : policies.basicAuth.validator.isSome = true →
      Admitted policies.basicAuth (policies.requestId.handOn request))
    (declared : ¬policies.bodyLimit.DeclaresTooMuch (policies.requestId.handOn request)) :
    answered policies (policies.requestId.handOn request) =
      policies.cors.decorate (policies.requestId.handOn request)
        { health with headers := policies.noCache.patch.apply health.headers } :=
  answered_health ((policies.requestId.handOn_method request).trans method)
    ((policies.requestId.handOn_path request).trans path) admitted declared

end

def chosen (policy : SetHeader) (overwrite : Bool) : Giver := fun name value =>
  policy.overwrite = overwrite ∧ Listed (policy.headers.getD []) name value

-- The one header of the handler itself.
def typed : Giver := fun name value =>
  name = .of "content-type" ∧ value = .of "application/json"

-- Who has a value for a header of the answer, the one that counts first in front.
def givers (policies : Policies) (request : Request) : List Giver :=
  [marked policies.requestId request,
   chosen policies.setHeader true,
   Listed (policies.noCache.headers.getD []),
   typed,
   chosen policies.setHeader false,
   Listed policies.securityHeaders.pairs]

theorem typed_health (name : FieldName) : Decided name [typed] (health.headers.values name) := by
  by_cases same : name = .of "content-type"
  · subst same
    exact .given ⟨rfl,rfl⟩
  · have none : health.headers.values name = [] := by
      rw [health,Headers.values_cons,if_neg (Ne.symm same)]
      rfl
    rw [none]
    exact .passed (fun _ own => same own.1) .absent

theorem chosen_decides {policy : SetHeader} {name : FieldName} {own : List Giver} {given : Headers}
    (decided : Decided name own (given.values name)) :
    Decided name (chosen policy true :: own ++ [chosen policy false])
      ((policy.patch.apply given).values name) := by
  have gives : ∀ mode, policy.overwrite = mode →
      ∀ value, chosen policy mode name value ↔ (name,value) ∈ policy.patch.set := by
    intro mode set value
    rw [chosen,and_iff_right set]
    exact listed_iff_sorted
  cases mode : policy.overwrite with
  | true =>
      refine (decided.overwritten mode (gives true mode)).silent_behind ?_
      intro value other
      rw [other.1] at mode
      cases mode
  | false =>
      refine .passed ?_ (decided.yielded mode (gives false mode))
      intro value other
      rw [other.1] at mode
      cases mode

theorem givers_one {policies : Policies} {request : Request} {name : FieldName}
    (uncached : Apart (policies.noCache.headers.getD []))
    (set : Apart (policies.setHeader.headers.getD [])) :
    ∀ giver ∈ givers policies request, ∀ first second, giver name first → giver name second →
      first = second := by
  intro giver listed first second one other
  simp only [givers,List.mem_cons,List.not_mem_nil,or_false] at listed
  rcases listed with rfl | rfl | rfl | rfl | rfl | rfl
  · exact Option.some.inj
      ((RequestId.stamp?_exact.mpr one.2).symm.trans (RequestId.stamp?_exact.mpr other.2))
  · exact set.one one.2 other.2
  · exact uncached.one one other
  · exact one.2.trans other.2.symm
  · exact set.one one.2 other.2
  · exact policies.securityHeaders.pairs_apart.one one other

section

variable {policies : Policies} {request : Request} {name : FieldName}

theorem exchange_decided (free : Free name) (method : request.method = "GET")
    (path : request.path = healthPath)
    (admitted : policies.basicAuth.validator.isSome = true →
      Admitted policies.basicAuth (policies.requestId.handOn request))
    (declared : ¬policies.bodyLimit.DeclaresTooMuch (policies.requestId.handOn request))
    (latency : Duration) :
    Decided name (givers policies request)
      ((exchange policies request latency).response.headers.values name) := by
  have uncached : Decided name [Listed (policies.noCache.headers.getD []),typed]
      ((policies.noCache.patch.apply health.headers).values name) :=
    (typed_health name).overwritten rfl fun _ => listed_iff_sorted
  have shared : Decided name [Listed (policies.noCache.headers.getD []),typed]
      ((answered policies (policies.requestId.handOn request)).headers.values name) := by
    rw [answered_handOn method path admitted declared,decorate_values free]
    exact uncached
  have secured : Decided name (_ ++ [Listed policies.securityHeaders.pairs])
      ((patched policies (answered policies (policies.requestId.handOn request))).headers.values
        name) :=
    (chosen_decides shared).yielded rfl fun _ => listed_iff
  rw [exchange_response,complete_health method path,measure_values free]
  exact secured.stamped

theorem declaresTooMuch_congr {policy : BodyLimit} {one other : Request}
    (same : one.headers.get? (.of "content-length") = other.headers.get? (.of "content-length")) :
    policy.DeclaresTooMuch one ↔ policy.DeclaresTooMuch other := by
  rw [← BodyLimit.refuses_exact,← BodyLimit.refuses_exact,BodyLimit.refuses,BodyLimit.refuses,
    BodyLimit.declaredLength?,BodyLimit.declaredLength?,Headers.text?,Headers.text?,same]

end

-- The length that counts is the one that the id layer hands on, as with the credentials.
theorem health_decided (policies : Policies) (request : Request) (latency : Duration)
    (uncached : Apart (policies.noCache.headers.getD []))
    (set : Apart (policies.setHeader.headers.getD []))
    (method : request.method = "GET") (path : request.path = healthPath)
    (admitted : policies.basicAuth.validator.isSome = true →
      Admitted policies.basicAuth (policies.requestId.handOn request))
    (declared : ¬policies.bodyLimit.DeclaresTooMuch (policies.requestId.handOn request)) :
    (exchange policies request latency).response.status = 200 ∧
    (∀ name, Free name → ∀ values,
      (exchange policies request latency).response.headers.values name = values ↔
        Decided name (givers policies request) values) ∧
    (∀ name, Free name →
      ((exchange policies request latency).response.headers.values name).length ≤ 1) ∧
    ((policies.requestId.field = .of "content-length" → ∀ value,
        policies.requestId.Stamped request value → policies.requestId.Usable request value) →
      (policies.bodyLimit.DeclaresTooMuch (policies.requestId.handOn request) ↔
        policies.bodyLimit.DeclaresTooMuch request)) := by
  have decided : ∀ name, Free name → Decided name (givers policies request)
      ((exchange policies request latency).response.headers.values name) :=
    fun _ free => exchange_decided free method path admitted declared latency
  refine ⟨?status,?values,fun name free => (decided name free).single,
    fun own => declaresTooMuch_congr (RequestId.handOn_get? own)⟩
  case status =>
    rw [exchange_status,answered_handOn method path admitted declared]
    rfl
  case values =>
    intro name free values
    constructor
    · intro carried
      rw [← carried]
      exact decided name free
    · exact fun other => (decided name free).unique (givers_one uncached set) other

-- Each header of these tables is wanted by somebody else as well.
def contested : Policies :=
  Settings.resolve (fun _ => [])
    { basicAuth := [.validator (some (.single "a" "b"))]
      bodyLimit := [.limit 10]
      noCache := [.headers (some [("Pragma","no-cache"),("Content-Type","text/plain")])]
      setHeader := [.overwrite false,
        .headers (some [("X-Frame-Options","DENY"),("pragma","public")])]
      requestId := [.source (some (.constant "made"))] }

def probe : Request where
  target := .origin "/health" none
  headers := ⟨[(.of "authorization",.of "Basic YTpi"),
    (.of "content-length",.of "10")]⟩

theorem frame_options_chosen :
    Apart (contested.noCache.headers.getD []) ∧ Apart (contested.setHeader.headers.getD []) ∧
    Admitted contested.basicAuth (contested.requestId.handOn probe) ∧
    ¬contested.bodyLimit.DeclaresTooMuch (contested.requestId.handOn probe) ∧
    (exchange contested probe (.seconds 0)).response.status = 200 ∧
    (exchange contested probe (.seconds 0)).response.headers.values (.of "x-frame-options") =
      [.of "DENY"] := by
  have uncached : Apart (contested.noCache.headers.getD []) := by decide
  have set : Apart (contested.setHeader.headers.getD []) := by decide
  have admitted : Admitted contested.basicAuth (contested.requestId.handOn probe) := by decide
  have declared : ¬contested.bodyLimit.DeclaresTooMuch (contested.requestId.handOn probe) := by
    rw [← BodyLimit.refuses_exact]
    decide
  obtain ⟨status,values,_⟩ := health_decided contested probe (.seconds 0) uncached set rfl rfl
    (fun _ => admitted) declared
  have free : Free (.of "x-frame-options") := ⟨by decide,by decide,by decide⟩
  refine ⟨uncached,set,admitted,declared,status,(values _ free _).mpr ?_⟩
  refine .passed ?_ (.passed ?_ (.passed ?_ (.passed ?_ (.given ⟨rfl,?_⟩))))
  · exact fun _ id => absurd id.1 (by decide)
  · exact fun _ mode => absurd mode.1 (by decide)
  · exact listed_nowhere (by decide)
  · exact fun _ own => absurd own.1 (by decide)
  · exact listed_iff.mpr (by decide)

-- A made id is written where the length of the body is looked for.
def countingIds : Policies :=
  Settings.resolve (fun _ => [])
    { requestId := [.header "Content-Length",.source (some (.constant "2000000"))] }

def plainProbe : Request where
  target := .origin "/health" none

theorem made_length_refused : ¬∀ (policies : Policies) (request : Request) (latency : Duration),
    Apart (policies.noCache.headers.getD []) → Apart (policies.setHeader.headers.getD []) →
    request.method = "GET" → request.path = healthPath →
    (policies.basicAuth.validator.isSome = true →
      Admitted policies.basicAuth (policies.requestId.handOn request)) →
    ¬policies.bodyLimit.DeclaresTooMuch request →
    (exchange policies request latency).response.status = 200 := by
  intro claim
  have declared : ¬countingIds.bodyLimit.DeclaresTooMuch plainProbe := by
    rw [← BodyLimit.refuses_exact]
    decide
  have answered := claim countingIds plainProbe (.seconds 0) (by decide) (by decide) rfl rfl
    (fun validated => absurd validated (by decide)) declared
  have refused : (exchange countingIds plainProbe (.seconds 0)).response.status = 413 := by decide
  rw [refused] at answered
  cases answered

end HttpLayers.Router
