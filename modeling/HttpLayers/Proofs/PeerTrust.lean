import HttpLayers.Proofs.Address.RoundTrip
import HttpLayers.Proofs.FieldValue
import HttpLayers.Proofs.TrustedProxies

-- Where no header names a client, trust is decided on the text of the connection's address. The text
-- reads back as the address, so the decision is the one for the address itself.

namespace HttpLayers.ClientLocator

open Http FieldValue Text

-- The first value under the name decides, without the white space at its ends; one that is blank or
-- unprintable says nothing, and neither do the values after it.
inductive Tells (request : Request) (name : FieldName) : List Char → Prop where
  | text {value : FieldValue} (first : request.headers.get? name = some value)
      (printable : ∀ b ∈ value.bytes, IsPrintable b) (present : trim value.bytes.toChars ≠ []) :
      Tells request name (trim value.bytes.toChars)

theorem nonempty_eq_some_iff {s t : List Char} : nonempty s = some t ↔ s = t ∧ t ≠ [] := by
  cases s <;> simp [nonempty]
  rintro rfl
  exact List.cons_ne_nil _ _

theorem header?_exact {request : Request} {name : FieldName} {text : List Char} :
    header? request name = some text ↔ Tells request name text := by
  rw [header?,Option.bind_eq_some_iff]
  constructor
  · intro found
    obtain ⟨_,read,trimmed⟩ := found
    obtain ⟨value,first,printable,rfl⟩ := Headers.text?_exact.mp read
    obtain ⟨rfl,present⟩ := nonempty_eq_some_iff.mp trimmed
    exact .text first printable present
  · intro told
    cases told with
    | text first printable present =>
        have read := Headers.text?_exact.mpr ⟨_,first,printable,rfl⟩
        exact ⟨_,read,nonempty_eq_some_iff.mpr ⟨rfl,present⟩⟩

-- A client named by one of the four headers, in whatever order they count.
inductive Forwards (request : Request) : List Char → Prop where
  | listed {name : FieldName} {text : List Char}
      (isList : name = .of "x-forwarded-for" ∨ name = .of "x-forwarded")
      (told : Tells request name text) (present : trim (before ',' text) ≠ []) :
      Forwards request (trim (before ',' text))
  | whole {text : List Char} (told : Tells request (.of "x-real-ip") text) : Forwards request text
  | node {text node : List Char} (told : Tells request (.of "forwarded") text)
      (read : forwardedNode? text = some node) : Forwards request node

theorem firstEntry?_forwards {request : Request} {name : FieldName} {client : List Char}
    (isList : name = .of "x-forwarded-for" ∨ name = .of "x-forwarded")
    (named : (header? request name).bind firstEntry? = some client) : Forwards request client := by
  obtain ⟨text,found,entry⟩ := Option.bind_eq_some_iff.mp named
  obtain ⟨rfl,present⟩ := nonempty_eq_some_iff.mp entry
  exact .listed isList (header?_exact.mp found) present

theorem forwards_iff {request : Request} {client : List Char} :
    Forwards request client ↔ some client ∈ (sources request).take 4 := by
  simp only [sources,List.take_succ_cons,List.take_zero,List.mem_cons,List.not_mem_nil,or_false]
  constructor
  · intro forwards
    cases forwards with
    | listed isList told present =>
        have entry := nonempty_eq_some_iff.mpr ⟨rfl,present⟩
        rcases isList with rfl | rfl
        · exact .inl (by rw [header?_exact.mpr told]; exact entry.symm)
        · exact .inr (.inr (.inl (by rw [header?_exact.mpr told]; exact entry.symm)))
    | whole told => exact .inr (.inl (header?_exact.mpr told).symm)
    | node told read =>
        exact .inr (.inr (.inr (by rw [header?_exact.mpr told]; exact read.symm)))
  · rintro (first | whole | second | node)
    · exact firstEntry?_forwards (.inl rfl) first.symm
    · exact .whole (header?_exact.mp whole.symm)
    · exact firstEntry?_forwards (.inr rfl) second.symm
    · obtain ⟨text,found,read⟩ := Option.bind_eq_some_iff.mp node.symm
      exact .node (header?_exact.mp found) read

theorem standard_peer {request : Request} {endpoint : Net.Endpoint}
    (unforwarded : ∀ client, ¬Forwards request client) (connected : request.peer = some endpoint) :
    standard request = String.ofList endpoint.address.text := by
  have silent : ∀ source ∈ (sources request).take 4, source = none := by
    intro source member
    cases source with
    | none => rfl
    | some client => exact absurd (forwards_iff.mpr member) (unforwarded client)
  simp only [sources,List.take_succ_cons,List.take_zero,List.forall_mem_cons] at silent
  obtain ⟨first,whole,second,node,_⟩ := silent
  simp [standard,sources,first,whole,second,node,connected]

instance (request : Request) : Decidable (∀ client, ¬Forwards request client) :=
  decidable_of_iff (((sources request).take 4).all Option.isNone = true) (by
    simp only [forwards_iff,List.all_eq_true]
    constructor
    · intro silent client member
      cases silent _ member
    · intro silent source member
      cases source with
      | none => rfl
      | some client => exact absurd member (silent client))

end HttpLayers.ClientLocator

namespace HttpLayers.RealIp

open Http Net Text

theorem peer_trusted_exactly {policy : RealIp} {request : Request} {endpoint : Endpoint}
    {entries : List String} (located : policy.locator = some .standard)
    (configured : policy.trustedProxies = some entries)
    (unforwarded : ∀ client, ¬ClientLocator.Forwards request client)
    (connected : request.peer = some endpoint) :
    ∃ ip, policy.client? request = some ip ∧
      IpAddress.ofText? (trim ip.toList) = some endpoint.address ∧
      (policy.trusts ip = true ↔ ∃ entry ∈ entries, Covers entry endpoint.address) := by
  have read : IpAddress.ofText? (trim (String.ofList endpoint.address.text).toList) =
      some endpoint.address := by
    rw [String.toList_ofList,IpAddress.trim_text,IpAddress.ofText?_text]
  have same : policy.listing entries = policy := by rw [listing,← configured]
  refine ⟨String.ofList endpoint.address.text,?_,read,?_⟩
  · rw [client?,located,Option.map_some,ClientLocator.standard_peer unforwarded connected]
  · rw [← same,listing_trusts,read]
    constructor
    · rintro ⟨_,⟨⟩,covered⟩
      exact covered
    · intro covered
      exact ⟨_,rfl,covered⟩

-- A blank header and one without the parameter name nobody, and the scope is no part of the address.
def scopedRequest : Request where
  headers := ⟨[(.of "x-forwarded-for",.of " \t"),(.of "forwarded",.of "proto=https")]⟩
  peer := some (.v6 0x20010db8000000000001000000000001 5 443)

def documentation : RealIp where
  trustedProxies := some ["garbage","2001:db8::/32"]

theorem scoped_peer_trusted :
    (∀ client, ¬ClientLocator.Forwards scopedRequest client) ∧
      ∃ ip, documentation.client? scopedRequest = some ip ∧
        IpAddress.ofText? (trim ip.toList) = some (.v6 0x20010db8000000000001000000000001) ∧
        documentation.trusts ip = true := by
  have unforwarded : ∀ client, ¬ClientLocator.Forwards scopedRequest client := by decide
  have listed : ∃ entry ∈ ["garbage","2001:db8::/32"],
      Covers entry (.v6 0x20010db8000000000001000000000001) :=
    ⟨"2001:db8::/32",by simp,_,rfl,by decide⟩
  obtain ⟨ip,located,read,decided⟩ :=
    @peer_trusted_exactly documentation scopedRequest _ _ rfl rfl unforwarded rfl
  exact ⟨unforwarded,ip,located,read,decided.mpr listed⟩

end HttpLayers.RealIp
