import HttpLayers.Proofs.Gate
import HttpLayers.Proofs.Router.Stack
import HttpLayers.Settings

-- Status 401 comes from the gate alone and nothing on the way out changes it, so it tells exactly
-- who was refused.

namespace HttpLayers.Router

open Http BasicAuth

theorem rejectionStatus_ne {policy : BodyLimit} (free : policy.statusCode ≠ 401) :
    policy.rejectionStatus ≠ 401 := by
  unfold BodyLimit.rejectionStatus
  split
  · exact free
  · decide

theorem status_route (policies : Policies) (request : Request) :
    Response.status (route policies request : Id Response) ≠ 401 := by
  unfold route
  split
  · change Response.status (if isRead _ then health else methodNotAllowed) ≠ 401
    split <;> decide
  · decide

theorem status_limited {policies : Policies} (free : policies.bodyLimit.statusCode ≠ 401)
    (request : Request) : Response.status (limited policies request : Id Response) ≠ 401 := by
  unfold limited BodyLimit.layer
  split
  · exact rejectionStatus_ne free
  · have routed := status_route policies { request with readCap := policies.bodyLimit.readCap }
    change Response.status (if Response.status (route policies _ : Id Response) = 413
      then policies.bodyLimit.rejection else (route policies _ : Id Response)) ≠ 401
    split
    · exact rejectionStatus_ne free
    · exact routed

theorem status_gate {policy : BasicAuth} {inner : Service Id} {request : Request}
    (free : Response.status (inner request) ≠ 401) :
    Response.status (gate policy inner request) = 401 ↔
      policy.validator.isSome = true ∧ ¬Admitted policy request := by
  unfold gate
  split
  · rename_i configured
    rw [and_iff_right configured]
    by_cases admitted : Admitted policy request
    · rw [layer_admitted admitted]
      exact ⟨fun refused => absurd refused free,fun refused => absurd admitted refused⟩
    · rw [layer_refused admitted]
      exact ⟨fun _ => admitted,fun _ => (unauthorized_exact policy.realm).1⟩
  · rename_i absent
    exact ⟨fun refused => absurd refused free,fun both => absurd both.1 absent⟩

theorem answered_preflight {policies : Policies} {request : Request}
    (preflight : request.method = "OPTIONS") :
    (answered policies request).status = 200 := by
  unfold answered guarded Cors.layer
  rw [if_pos (by simpa [Cors.isPreflight] using preflight)]
  rfl

theorem answered_actual {policies : Policies} {request : Request}
    (actual : request.method ≠ "OPTIONS") :
    (answered policies request).status =
      Response.status (gate policies.basicAuth (limited policies) request : Id Response) := by
  unfold answered guarded Cors.layer
  rw [if_neg (by simpa [Cors.isPreflight] using actual)]
  rfl

-- Refused: there is a validator, the path is not listed, and whatever credentials are read the
-- validator does not accept.
theorem refused_iff {policy : BasicAuth} {request : Request} :
    (policy.validator.isSome = true ∧ ¬Admitted policy request) ↔
      ∃ validate, policy.validator = some validate ∧
        (∀ paths, policy.exemptPaths = some paths → request.path ∉ paths) ∧
        ∀ user password, credentials? request = some (user,password) →
          validate user password = false := by
  constructor
  · intro gated
    obtain ⟨present,refused⟩ := gated
    obtain ⟨validate,configured⟩ := Option.isSome_iff_exists.mp present
    refine ⟨validate,configured,?_,?_⟩
    · intro paths listing listed
      exact refused (.exempt listing listed)
    · intro user password read
      cases accepted : validate user password with
      | false => rfl
      | true => exact absurd (.credentials read configured accepted) refused
  · intro stopped
    obtain ⟨validate,configured,unlisted,rejected⟩ := stopped
    refine ⟨Option.isSome_iff_exists.mpr ⟨validate,configured⟩,?_⟩
    intro admitted
    cases admitted with
    | exempt listing listed => exact unlisted _ listing listed
    | credentials read also accepted =>
        cases Option.some.inj (configured.symm.trans also)
        rw [rejected _ _ read] at accepted
        cases accepted

theorem credentials?_congr {one other : Request}
    (same : one.headers.get? (.of "authorization") = other.headers.get? (.of "authorization")) :
    credentials? one = credentials? other := by
  unfold credentials? Headers.text?
  rw [same]

-- The credentials that count are those of the request as the id layer hands it on. They are the
-- caller's own unless a made id is written over the header that carries them.
theorem refused_exactly (policies : Policies) (request : Request) (latency : Duration)
    (free : policies.bodyLimit.statusCode ≠ 401) :
    ((exchange policies request latency).response.status = 401 ↔
      request.method ≠ "OPTIONS" ∧ ∃ validate, policies.basicAuth.validator = some validate ∧
        (∀ paths, policies.basicAuth.exemptPaths = some paths → request.path ∉ paths) ∧
        ∀ user password, credentials? (policies.requestId.handOn request) = some (user,password) →
          validate user password = false) ∧
    (request.method = "OPTIONS" → (exchange policies request latency).response.status = 200) ∧
    ((policies.requestId.field = .of "authorization" → ∀ value,
        policies.requestId.Stamped request value → policies.requestId.Usable request value) →
      credentials? (policies.requestId.handOn request) = credentials? request) := by
  have method := policies.requestId.handOn_method request
  have path := policies.requestId.handOn_path request
  refine ⟨?_,?_,fun own => credentials?_congr (RequestId.handOn_get? own)⟩
  · rw [exchange_status]
    by_cases preflight : request.method = "OPTIONS"
    · rw [answered_preflight (method.trans preflight)]
      exact ⟨fun status => absurd status (by decide),fun refused => absurd preflight refused.1⟩
    · have actual : (policies.requestId.handOn request).method ≠ "OPTIONS" := by rwa [method]
      rw [answered_actual actual,status_gate (status_limited free _),refused_iff,path,
        and_iff_right preflight]
  · intro preflight
    rw [exchange_status,answered_preflight (method.trans preflight)]

-- Ids travel under the header of the credentials here, and every new id is the given one.
def sharedHeader (id : String) : Policies :=
  Settings.resolve (fun _ => [])
    { basicAuth := [.validator (some (.single "a" "b"))]
      requestId := [.header "Authorization",.source (some (.constant id))] }

def anonymous : Request where
  target := .origin "/missing" none

theorem anonymous_refused :
    (sharedHeader "Basic YTpj").bodyLimit.statusCode ≠ 401 ∧
      (exchange (sharedHeader "Basic YTpj") anonymous (.seconds 0)).response.status = 401 := by
  have free : (sharedHeader "Basic YTpj").bodyLimit.statusCode ≠ 401 := by decide
  refine ⟨free,(refused_exactly _ anonymous _ free).1.mpr ⟨by decide,_,rfl,?_,?_⟩⟩
  · intro paths listing
    cases listing
  · intro user password read
    have wrong : credentials? ((sharedHeader "Basic YTpj").requestId.handOn anonymous) =
        some ("a","c") := by decide
    cases Option.some.inj (wrong.symm.trans read)
    decide

-- A made id that spells good credentials opens the gate to a request that has none.
theorem made_id_admits : ¬∀ (policies : Policies) (request : Request) (latency : Duration),
    policies.bodyLimit.statusCode ≠ 401 →
    ((exchange policies request latency).response.status = 401 ↔
      request.method ≠ "OPTIONS" ∧ ∃ validate, policies.basicAuth.validator = some validate ∧
        (∀ paths, policies.basicAuth.exemptPaths = some paths → request.path ∉ paths) ∧
        ∀ user password, credentials? request = some (user,password) →
          validate user password = false) := by
  intro claim
  have refused := (claim (sharedHeader "Basic YTpi") anonymous (.seconds 0) (by decide)).mpr
    ⟨by decide,_,rfl,?_,?_⟩
  · have answered : (exchange (sharedHeader "Basic YTpi") anonymous
        (.seconds 0)).response.status = 404 := by decide
    rw [answered] at refused
    cases refused
  · intro paths listing
    cases listing
  · intro user password read
    have none : credentials? anonymous = none := by decide
    rw [none] at read
    cases read

end HttpLayers.Router
