import HttpLayers.Proofs.Recorded
import HttpLayers.Proofs.Stamp

-- An id is the same for the service inside and for the caller, because both sides get it from the one
-- stamp that was settled before the service was called.

namespace HttpLayers.RequestId

open Http FieldValue

inductive Names (header : String) : FieldName → Prop where
  | given {name : FieldName} (token : isToken header.toList = true)
      (short : header.toList.length ≤ 65535)
      (lowered : name.text = String.ofList (Text.lower header.toList)) : Names header name
  | default (illegal : isToken header.toList = true → 65535 < header.toList.length) :
      Names header (.of "x-request-id")

theorem field_named (policy : RequestId) : Names policy.header policy.field := by
  unfold field FieldName.ofString?
  cases read : FieldName.ofText? policy.header.toList with
  | some name =>
      obtain ⟨token,short,lowered⟩ := FieldName.ofText?_eq_some_iff.mp read
      exact .given token short lowered
  | none => exact .default fun token => Nat.lt_of_not_le fun short =>
      FieldName.ofText?_eq_none_iff.mp read ⟨token,short⟩

-- The headers afterwards: one value under the name, and all other names as they were.
structure Marked (name : FieldName) (id : FieldValue) (before after : Headers) : Prop where
  single : after.values name = [id]
  others : ∀ other, other ≠ name → after.values other = before.values other

theorem marked_insert (name : FieldName) (id : FieldValue) (headers : Headers) :
    Marked name id headers (headers.insert name id) where
  single := by rw [Headers.values_insert,if_pos rfl]
  others other differs := by rw [Headers.values_insert,if_neg differs.symm]

theorem insert_insert (headers : Headers) (name : FieldName) (first second : FieldValue) :
    (headers.insert name first).insert name second = headers.insert name second := by
  simp [Headers.insert,Headers.append,Headers.erase,List.filter_filter]

variable {policy : RequestId} {request : Request} {id : FieldValue}

theorem handOn_stamped (stamped : Stamped policy request id) :
    policy.handOn request =
      { request with headers := request.headers.insert policy.field id } := by
  rw [handOn,stamp?_exact.mpr stamped]

theorem answer_stamped (stamped : Stamped policy request id) (response : Response) :
    policy.answer request response =
      { response with headers := response.headers.insert policy.field id } := by
  rw [answer,stamp?_exact.mpr stamped]

theorem stamp?_eq_none (unstamped : ∀ id, ¬Stamped policy request id) :
    policy.stamp? request = none :=
  Option.eq_none_iff_forall_ne_some.mpr fun id drawn => unstamped id (stamp?_exact.mp drawn)

theorem handOn_get?_field (stamped : Stamped policy request id) :
    (policy.handOn request).headers.get? policy.field = some id := by
  rw [handOn_stamped stamped,Headers.get?_insert,if_pos rfl]

theorem after_usable (usable : Usable policy request id) : policy.after request = policy := by
  rw [after,settle_incoming (incoming?_exact.mpr ⟨id,usable,rfl⟩)]

theorem after_unusable (unusable : ∀ id, ¬Usable policy request id) :
    policy.after request = { policy with source := policy.source.map fun source =>
      { source with drawn := source.drawn + 1 } } := by
  rw [after,settle_made (incoming?_eq_none.mpr unusable)]

-- What a layer has put there, a second one for the same name finds to be usable.
theorem usable_inside (stamped : Stamped policy request id) (present : id.bytes ≠ [])
    (printable : ∀ b ∈ id.bytes, IsPrintable b) {other : RequestId} (same : other.field = policy.field) :
    Usable other (policy.handOn request) id where
  first := by rw [same,handOn_get?_field stamped]
  present := present
  printable := printable

theorem layer_inside {m : Type → Type} [Functor m] [LawfulFunctor m]
    (stamped : Stamped policy request id) (present : id.bytes ≠ [])
    (printable : ∀ b ∈ id.bytes, IsPrintable b) {other : RequestId} (same : other.field = policy.field)
    (inner : Service m) :
    policy.layer (other.layer inner) request = policy.layer inner request := by
  have again : Stamped other (policy.handOn request) id :=
    .incoming (usable_inside stamped present printable same)
  have handed : other.handOn (policy.handOn request) = policy.handOn request := by
    rw [handOn_stamped again,handOn_stamped stamped,same,insert_insert]
  have answered : ∀ response, policy.answer request (other.answer (policy.handOn request) response) =
      policy.answer request response := by
    intro response
    rw [answer_stamped again,answer_stamped stamped,answer_stamped stamped,same,insert_insert]
  rw [layer_exact,layer_exact,layer_exact,handed,← comp_map]
  exact congrArg (· <$> _) (funext answered)

theorem read?_handOn (stamped : Stamped policy request id) (default : policy.field = defaultField)
    {text : String} : read? (policy.handOn request) = some text ↔
      (∀ b ∈ id.bytes, IsPrintable b) ∧ Bytes.ofString text = id.bytes := by
  rw [read?,Headers.text?,← default,handOn_get?_field stamped,Option.bind_some,
    Option.map_eq_some_iff]
  simp only [text?_eq_some_iff]
  constructor
  · intro read
    obtain ⟨_,⟨printable,rfl⟩,rfl⟩ := read
    exact ⟨printable,Bytes.ofString_toChars fun b member => (printable b member).ascii⟩
  · intro read
    obtain ⟨printable,told⟩ := read
    refine ⟨_,⟨printable,rfl⟩,Bytes.ofString_inj.mp ?_⟩
    rw [told]
    exact Bytes.ofString_toChars fun b member => (printable b member).ascii

variable {m : Type → Type} [Monad m] [LawfulMonad m]

theorem propagates_exactly (policy : RequestId) (inner : Service m) (request : Request)
    (seen : List Request) :
    Names policy.header policy.field ∧
    (policy.serve (recorded inner) request).run seen =
      (fun response =>
          ((policy.answer request response,policy.after request),seen ++ [policy.handOn request])) <$>
        inner (policy.handOn request) ∧
    (policy.layer (recorded inner) request).run seen =
      (fun response => (policy.answer request response,seen ++ [policy.handOn request])) <$>
        inner (policy.handOn request) ∧
    (∀ id, Stamped policy request id →
      (∃ headers, policy.handOn request = { request with headers } ∧
        Marked policy.field id request.headers headers) ∧
      ∀ response, ∃ headers, policy.answer request response = { response with headers } ∧
        Marked policy.field id response.headers headers) ∧
    ((∀ id, ¬Stamped policy request id) →
      policy.handOn request = request ∧ ∀ response, policy.answer request response = response) ∧
    (∀ id, Usable policy request id → policy.after request = policy) ∧
    ((∀ id, ¬Usable policy request id) → policy.after request =
      { policy with source := policy.source.map fun source =>
        { source with drawn := source.drawn + 1 } }) ∧
    (∀ id, Stamped policy request id → id.bytes ≠ [] → (∀ b ∈ id.bytes, IsPrintable b) →
      ∀ other : RequestId, other.field = policy.field →
        policy.layer (other.layer inner) request = policy.layer inner request ∧
        other.after (policy.handOn request) = other) ∧
    (policy.field = defaultField → ∀ id, Stamped policy request id → ∀ text,
      read? (policy.handOn request) = some text ↔
        (∀ b ∈ id.bytes, IsPrintable b) ∧ Bytes.ofString text = id.bytes) := by
  refine ⟨field_named policy,?served,?calls,?stamped,?unstamped,fun _ usable => after_usable usable,
    after_unusable,?inside,fun default _ stamped _ => read?_handOn stamped default⟩
  case served =>
    rw [serve_exact,StateT.run_map,run_recorded,Functor.map_map]
  case calls =>
    rw [layer_exact,StateT.run_map,run_recorded,Functor.map_map]
  case stamped =>
    intro id stamped
    refine ⟨⟨_,handOn_stamped stamped,marked_insert ..⟩,fun response => ?_⟩
    exact ⟨_,answer_stamped stamped response,marked_insert ..⟩
  case unstamped =>
    intro unstamped
    have none := stamp?_eq_none unstamped
    exact ⟨by rw [handOn,none],fun response => by rw [answer,none]⟩
  case inside =>
    intro id stamped present printable other same
    exact ⟨layer_inside stamped present printable same inner,
      after_usable (usable_inside stamped present printable same)⟩

def constant : RequestId where
  source := some (.constant "made")

def twiceTold : Request where
  headers := ⟨[(.of "x-request-id",.of "one"),(.of "x-request-id",.of "two")]⟩

def ownId : Response where
  status := 200
  headers := ⟨[(.of "x-request-id",.of "own")]⟩

theorem first_id_travels :
    read? (constant.handOn twiceTold) = some "one" ∧
    (constant.answer twiceTold ownId).headers.values (.of "x-request-id") = [.of "one"] ∧
    read? (constant.handOn {}) = some "made" ∧
    (constant.answer {} ownId).headers.values (.of "x-request-id") = [.of "made"] ∧
    (constant.after {}).source.map IdSource.drawn = some 1 := by
  have usable : Usable constant twiceTold (.of "one") :=
    ⟨rfl,by decide,(text?_eq_some_iff.mp rfl).1⟩
  have unusable : ∀ id, ¬Usable constant {} id := by
    intro id usable
    cases usable.first
  have made : Stamped constant {} (.of "made") := .made unusable rfl (by decide)
  have told := propagates_exactly constant (fun _ => (pure ownId : Id _)) twiceTold []
  have untold := propagates_exactly constant (fun _ => (pure ownId : Id _)) {} []
  obtain ⟨_,_,_,marked,_,_,_,_,read⟩ := told
  obtain ⟨_,_,_,markedToo,_,_,drawn,_,readToo⟩ := untold
  refine ⟨(read rfl _ (.incoming usable) "one").mpr ⟨usable.printable,rfl⟩,?_,
    (readToo rfl _ made "made").mpr ⟨(text?_eq_some_iff.mp rfl).1,rfl⟩,?_,?_⟩
  · obtain ⟨_,answered,seen⟩ := (marked _ (.incoming usable)).2 ownId
    rw [answered]
    exact seen.single
  · obtain ⟨_,answered,seen⟩ := (markedToo _ made).2 ownId
    rw [answered]
    exact seen.single
  · rw [drawn unusable]
    rfl

end HttpLayers.RequestId
