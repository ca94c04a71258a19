import HttpLayers.Proofs.Stamp
import HttpLayers.Router

-- The patches give a response headers on its way out, then the id, then what routing adds. The
-- layers further in decide its status.

namespace HttpLayers.Router

open Http

section

variable {m : Type → Type} [Monad m]

def limited (policies : Policies) : Service m :=
  policies.bodyLimit.layer (route policies)

-- The layers that may answer on their own, around the route.
def guarded (policies : Policies) : Service m :=
  policies.cors.layer (gate policies.basicAuth (limited policies))

end

def answered (policies : Policies) (request : Request) : Response :=
  (guarded policies : Service Id) request

-- Both patches on a response; neither takes a header from a request.
def patched (policies : Policies) (response : Response) : Response :=
  { response with headers :=
      policies.securityHeaders.patch.apply (policies.setHeader.patch.apply response.headers) }

theorem exchange_eq (policies : Policies) (request : Request) (latency : Duration) :
    exchange policies request latency =
      let inside := policies.requestId.handOn request
      let response := complete request
        (policies.requestId.answer request ((stack policies (route policies) : Service Id) inside))
      { response
        log := policies.requestLogger.log request (policies.requestId.idFor request) response.status
          latency
        next := { policies with requestId := policies.requestId.after request } } := by
  unfold exchange serve
  rw [RequestId.serve_exact]
  rfl

theorem exchange_response (policies : Policies) (request : Request) (latency : Duration) :
    (exchange policies request latency).response =
      complete request (policies.requestId.answer request
        (patched policies (answered policies (policies.requestId.handOn request)))) := by
  rw [exchange_eq]
  rfl

theorem complete_status (request : Request) (response : Response) :
    (complete request response).status = response.status := by
  unfold complete measure nameMethods
  split
  · rfl
  · split
    · split <;> rfl
    · split <;> rfl

theorem exchange_status (policies : Policies) (request : Request) (latency : Duration) :
    (exchange policies request latency).response.status =
      (answered policies (policies.requestId.handOn request)).status := by
  rw [exchange_response,complete_status,RequestId.answer_status]
  rfl

end HttpLayers.Router
