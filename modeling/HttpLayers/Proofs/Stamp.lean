import HttpLayers.Policy.RequestId
import HttpLayers.Proofs.FieldValue

namespace HttpLayers.RequestId

open Http FieldValue

-- The request came with this id. An empty or unprintable first value hides all others.
structure Usable (policy : RequestId) (request : Request) (value : FieldValue) : Prop where
  first : request.headers.get? policy.field = some value
  present : value.bytes ≠ []
  printable : ∀ b ∈ value.bytes, IsPrintable b

theorem usable_iff {policy : RequestId} {request : Request} {value : FieldValue} :
    Usable policy request value ↔ request.headers.Legible policy.field value :=
  ⟨fun usable => ⟨usable.first,usable.present,usable.printable⟩,
    fun legible => ⟨legible.first,legible.present,legible.printable⟩⟩

theorem Usable.unique {policy : RequestId} {request : Request} {one other : FieldValue}
    (usable : Usable policy request one) (also : Usable policy request other) : one = other :=
  (usable_iff.mp usable).unique (usable_iff.mp also)

theorem incoming?_exact {policy : RequestId} {request : Request} {id : String} :
    policy.incoming? request = some id ↔
      ∃ value, Usable policy request value ∧ id = String.ofList value.bytes.toChars := by
  rw [incoming?,Option.map_eq_some_iff]
  constructor
  · intro read
    obtain ⟨text,kept,rfl⟩ := read
    obtain ⟨value,legible,rfl⟩ := Headers.legible_iff.mp kept
    exact ⟨value,usable_iff.mpr legible,rfl⟩
  · intro came
    obtain ⟨value,usable,rfl⟩ := came
    exact ⟨_,Headers.legible_iff.mpr ⟨value,usable_iff.mp usable,rfl⟩,rfl⟩

theorem incoming?_eq_none {policy : RequestId} {request : Request} :
    policy.incoming? request = none ↔ ∀ value, ¬Usable policy request value := by
  rw [incoming?,Option.map_eq_none_iff,Headers.illegible_iff]
  exact forall_congr' fun _ => not_congr usable_iff.symm

-- What header and caller get to see: the id that came, else a made one that a header can carry.
inductive Stamped (policy : RequestId) (request : Request) : FieldValue → Prop where
  | incoming {value : FieldValue} (usable : Usable policy request value) :
      Stamped policy request value
  | made {source : IdSource} (unusable : ∀ value, ¬Usable policy request value)
      (given : policy.source = some source)
      (legal : isLegal (Bytes.ofString (source.ids source.drawn)) = true) :
      Stamped policy request ⟨Bytes.ofString (source.ids source.drawn),legal⟩

theorem settle_incoming {policy : RequestId} {request : Request} {id : String}
    (came : policy.incoming? request = some id) : policy.settle request = (some id,policy) := by
  rw [settle,came]

theorem settle_made {policy : RequestId} {request : Request}
    (nothing : policy.incoming? request = none) : policy.settle request =
      (policy.source.map fun source => source.ids source.drawn,
        { policy with source := policy.source.map fun source =>
          { source with drawn := source.drawn + 1 } }) := by
  obtain ⟨header,source⟩ := policy
  cases source <;> simp [settle,nothing,IdSource.next]

theorem stamp?_exact {policy : RequestId} {request : Request} {value : FieldValue} :
    policy.stamp? request = some value ↔ Stamped policy request value := by
  unfold stamp? idFor
  cases found : policy.incoming? request with
  | some id =>
      rw [settle_incoming found]
      obtain ⟨came,usable,rfl⟩ := incoming?_exact.mp found
      rw [Option.bind_some,ofString?_toChars usable.printable,Option.some.injEq]
      constructor
      · rintro rfl
        exact .incoming usable
      · intro stamped
        cases stamped with
        | incoming also => exact usable.unique also
        | made unusable => exact absurd usable (unusable came)
  | none =>
      have unusable := incoming?_eq_none.mp found
      rw [settle_made found,Option.bind_eq_some_iff]
      constructor
      · intro made
        obtain ⟨id,drawn,carried⟩ := made
        obtain ⟨source,given,rfl⟩ := Option.map_eq_some_iff.mp drawn
        have same := ofString?_eq_some_iff.mp carried
        obtain ⟨_,legal⟩ := value
        subst same
        exact .made unusable given legal
      · intro stamped
        cases stamped with
        | incoming usable => exact absurd usable (unusable value)
        | made _ given legal =>
            exact ⟨_,by rw [given]; rfl,ofString?_eq_some_iff.mpr rfl⟩

-- The request as the service inside gets it.
def handOn (policy : RequestId) (request : Request) : Request :=
  match policy.stamp? request with
  | none => request
  | some value => { request with headers := request.headers.insert policy.field value }

-- The response as the caller gets it.
def answer (policy : RequestId) (request : Request) (response : Response) : Response :=
  match policy.stamp? request with
  | none => response
  | some value => { response with headers := response.headers.insert policy.field value }

theorem serve_exact {m : Type → Type} [Functor m] (policy : RequestId) (inner : Service m)
    (request : Request) : policy.serve inner request =
      (fun response => (policy.answer request response,policy.after request)) <$>
        inner (policy.handOn request) := by
  unfold serve handOn answer stamp? idFor after
  dsimp only
  cases (policy.settle request).1.bind FieldValue.ofString? with
  | none => rfl
  | some value => rfl

theorem layer_exact {m : Type → Type} [Functor m] [LawfulFunctor m] (policy : RequestId)
    (inner : Service m) (request : Request) :
    policy.layer inner request = policy.answer request <$> inner (policy.handOn request) := by
  rw [layer,serve_exact,← comp_map]
  rfl

theorem handOn_method (policy : RequestId) (request : Request) :
    (policy.handOn request).method = request.method := by
  unfold handOn; split <;> rfl

theorem handOn_path (policy : RequestId) (request : Request) :
    (policy.handOn request).path = request.path := by
  unfold handOn; split <;> rfl

theorem answer_status (policy : RequestId) (request : Request) (response : Response) :
    (policy.answer request response).status = response.status := by
  unfold answer; split <;> rfl

theorem answer_values {policy : RequestId} {request : Request} {value : FieldValue}
    (stamped : Stamped policy request value) (response : Response) :
    (policy.answer request response).headers.values policy.field = [value] := by
  rw [answer,stamp?_exact.mpr stamped]
  simp [Headers.values_insert]

-- Headers are handed on with the first value they came with. The one exception is the id's own
-- header where a made id takes its place.
theorem handOn_get? {policy : RequestId} {request : Request} {name : FieldName}
    (own : policy.field = name →
      ∀ value, Stamped policy request value → Usable policy request value) :
    (policy.handOn request).headers.get? name = request.headers.get? name := by
  unfold handOn
  split
  · rfl
  · rename_i value drawn
    rw [Headers.get?_insert]
    split
    · rename_i same
      rw [← same]
      exact (own same value (stamp?_exact.mp drawn)).first.symm
    · rfl

end HttpLayers.RequestId
