import HttpLayers.Policy.RateLimit
import HttpLayers.Proofs.Address.Endpoint
import HttpLayers.Proofs.FieldValue

-- Where no forwarding header stands in its place, the key is the text of the connection's address. It
-- reads back as that address, so two connections have one key only if they are the same in all that is
-- written.

namespace HttpLayers.Keying

open Http Net

def Unforwarded (request : Request) : Prop :=
  ∀ value, ¬request.headers.Legible (.of "x-forwarded-for") value

inductive Keys (request : Request) : String → Prop where
  | forwarded {value : FieldValue} {key : String}
      (legible : request.headers.Legible (.of "x-forwarded-for") value)
      (verbatim : Bytes.ofString key = value.bytes) : Keys request key
  | connected {peer : Endpoint} (unforwarded : Unforwarded request)
      (connected : request.peer = some peer) : Keys request (String.ofList peer.text)
  | nameless (unforwarded : Unforwarded request) (unconnected : request.peer = none) :
      Keys request ""

variable {request : Request} {key other : String} {peer : Endpoint}

theorem Keys.unique (keys : Keys request key) (also : Keys request other) : key = other := by
  cases keys with
  | forwarded legible verbatim =>
      cases also with
      | forwarded again same =>
          exact Bytes.ofString_inj.mp (by rw [verbatim,same,legible.unique again])
      | connected unforwarded => exact absurd legible (unforwarded _)
      | nameless unforwarded => exact absurd legible (unforwarded _)
  | connected unforwarded connected =>
      cases also with
      | forwarded legible => exact absurd legible (unforwarded _)
      | connected _ again => cases connected.symm.trans again; rfl
      | nameless _ unconnected => cases connected.symm.trans unconnected
  | nameless unforwarded unconnected =>
      cases also with
      | forwarded legible => exact absurd legible (unforwarded _)
      | connected _ connected => cases unconnected.symm.trans connected
      | nameless => rfl

theorem keys_forwardedFor (request : Request) : Keys request (forwardedFor request) := by
  unfold forwardedFor
  dsimp only
  cases named : (request.headers.text? (.of "x-forwarded-for")).filter
      fun value => !value.isEmpty with
  | some text =>
      obtain ⟨value,legible,rfl⟩ := Headers.legible_iff.mp named
      refine .forwarded legible (Bytes.ofString_toChars fun b member => ?_)
      exact (legible.printable b member).ascii
  | none =>
      have unforwarded := Headers.illegible_iff.mp named
      cases connected : request.peer with
      | some peer => exact .connected unforwarded connected
      | none => exact .nameless unforwarded connected

theorem forwardedFor_exact : forwardedFor request = key ↔ Keys request key := by
  constructor
  · rintro rfl
    exact keys_forwardedFor request
  · intro keys
    exact (keys_forwardedFor request).unique keys

theorem forwardedFor_connected (unforwarded : Unforwarded request)
    (connected : request.peer = some peer) : forwardedFor request = String.ofList peer.text :=
  forwardedFor_exact.mpr (.connected unforwarded connected)

-- A header without a text and a connection's address are never written as the empty key.
theorem forwardedFor_empty :
    forwardedFor request = "" ↔ Unforwarded request ∧ request.peer = none := by
  rw [forwardedFor_exact]
  constructor
  · intro keys
    generalize empty : "" = key at keys
    cases keys with
    | forwarded legible verbatim =>
        rw [← empty] at verbatim
        exact absurd verbatim.symm legible.present
    | connected =>
        have nothing := congrArg String.toList empty.symm
        exact absurd (String.toList_ofList.symm.trans nothing) Endpoint.text_ne_nil
    | nameless unforwarded unconnected => exact ⟨unforwarded,unconnected⟩
  · intro silent
    exact .nameless silent.1 silent.2

theorem connections_kept_apart (request other : Request) :
    (∀ key, forwardedFor request = key ↔ Keys request key) ∧
    (∀ policy : RateLimit, policy.keying = ({} : RateLimit).keying →
      policy.key? request = some (forwardedFor request)) ∧
    (forwardedFor request = "" ↔ Unforwarded request ∧ request.peer = none) ∧
    (Unforwarded request → Unforwarded other →
      ∀ peer another, request.peer = some peer → other.peer = some another →
        Endpoint.ofText? (forwardedFor request).toList = some peer ∧
        (forwardedFor request = forwardedFor other ↔ peer.address = another.address ∧
          peer.port = another.port ∧ peer.scope? = another.scope?)) := by
  refine ⟨fun _ => forwardedFor_exact,?standard,forwardedFor_empty,?apart⟩
  case standard =>
    intro policy standard
    rw [RateLimit.key?,standard]
    rfl
  case apart =>
    intro unforwarded also peer another connected alike
    rw [forwardedFor_connected unforwarded connected,forwardedFor_connected also alike]
    constructor
    · rw [String.toList_ofList]
      exact Endpoint.ofText?_text peer
    · rw [String.ofList_inj,Endpoint.text_inj]
      exact Endpoint.eq_iff

-- An empty value hides the one behind it, and the address of the newer family that stands for an older
-- one is not that one.
def mappedPeer : Request where
  headers := ⟨[(.of "x-forwarded-for",.of ""),(.of "x-forwarded-for",.of "203.0.113.9")]⟩
  peer := some (.v6 0xffffc0000207 0 80)

def plainPeer : Request where
  headers := ⟨[(.of "x-forwarded-for",⟨[0xe9],Eq.refl true⟩)]⟩
  peer := some (.v4 0xc0000207 80)

theorem mapped_peer_apart :
    Unforwarded mappedPeer ∧ Unforwarded plainPeer ∧
      forwardedFor mappedPeer ≠ forwardedFor plainPeer := by
  have mapped : Unforwarded mappedPeer := by
    rintro value ⟨first,present,_⟩
    cases first
    exact present rfl
  have plain : Unforwarded plainPeer := by
    rintro value ⟨first,_,printable⟩
    cases first
    rcases printable 0xe9 List.mem_cons_self with tab | ⟨_,upper⟩
    · exact absurd tab (by decide)
    · exact absurd upper (by decide)
  obtain ⟨_,_,_,apart⟩ := connections_kept_apart mappedPeer plainPeer
  refine ⟨mapped,plain,fun same => ?_⟩
  obtain ⟨address,_⟩ := (apart mapped plain _ _ rfl rfl).2.mp same
  cases address

end HttpLayers.Keying
