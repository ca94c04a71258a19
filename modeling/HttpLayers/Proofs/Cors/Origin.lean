import HttpLayers.Proofs.Cors.Answer
import HttpLayers.Proofs.FieldValue

namespace HttpLayers.Cors

open Http FieldValue Text

-- Entries are compared as they are written, white space included.
def Lists (policy : Cors) (origin : FieldValue) : Prop :=
  ∃ entry ∈ policy.allowedOrigins.getD [], origin.bytes = Bytes.ofString entry

-- The one value that an answer grants; none is granted where no rule applies.
inductive Grants (policy : Cors) (request : Request) : FieldValue → Prop where
  | anyone (starred : Starred policy.allowedOrigins) (plain : policy.allowCredentials = false) :
      Grants policy request star
  | repeated {origin : FieldValue} (starred : Starred policy.allowedOrigins)
      (credentials : policy.allowCredentials = true)
      (sent : request.headers.get? (.of "origin") = some origin) : Grants policy request origin
  | listed {origin : FieldValue} (starless : ¬Starred policy.allowedOrigins)
      (sent : request.headers.get? (.of "origin") = some origin) (lists : policy.Lists origin) :
      Grants policy request origin

theorem mem_readAll {policy : Cors} {origin : FieldValue} :
    origin ∈ readAll FieldValue.ofString? policy.allowedOrigins ↔ policy.Lists origin := by
  simp only [readAll,List.mem_filterMap,ofString?_eq_some_iff,Lists]

theorem granted?_exact {policy : Cors} {request : Request} {value : FieldValue} :
    policy.granted? request = some value ↔ Grants policy request value := by
  unfold granted? originRule ruleOf
  by_cases starred : Starred policy.allowedOrigins
  · rw [if_pos (hasStar_iff.mpr starred)]
    cases credentials : policy.allowCredentials with
    | true =>
        simp only [if_true,Rule.originValue]
        constructor
        · intro sent
          exact .repeated starred credentials sent
        · intro grants
          cases grants with
          | anyone _ plain => rw [credentials] at plain; cases plain
          | repeated _ _ sent => exact sent
          | listed starless => exact absurd starred starless
    | false =>
        simp only [Bool.false_eq_true,if_false,Rule.originValue,Option.some.injEq]
        constructor
        · rintro rfl
          exact .anyone starred credentials
        · intro grants
          cases grants with
          | anyone => rfl
          | repeated _ also => rw [credentials] at also; cases also
          | listed starless => exact absurd starred starless
  · rw [if_neg (mt hasStar_iff.mp starred)]
    simp only [Rule.originValue,Option.filter_eq_some_iff,List.contains_iff_mem,mem_readAll]
    constructor
    · intro found
      exact .listed starred found.1 found.2
    · intro grants
      cases grants with
      | anyone also => exact absurd also starred
      | repeated also => exact absurd also starred
      | listed _ sent lists => exact ⟨sent,lists⟩

theorem Grants.entries_ne_nil {policy : Cors} {request : Request} {value : FieldValue}
    (grants : Grants policy request value) : policy.allowedOrigins.getD [] ≠ [] := by
  cases grants with
  | anyone starred => exact List.ne_nil_of_mem starred.choose_spec.1
  | repeated starred => exact List.ne_nil_of_mem starred.choose_spec.1
  | listed _ _ lists => exact List.ne_nil_of_mem lists.choose_spec.1

theorem answer_allowOrigin {policy : Cors} {request : Request} {response : Response}
    (silent : response.headers.values allowOrigin = []) :
    (policy.answer request response).headers.values allowOrigin =
      (policy.granted? request).toList :=
  answer_values (by decide) (fields_shown policy request (allowOrigin,policy.granted? request)
    (by simp [shown])) silent

theorem nobody_granted {policy : Cors} (unlisted : policy.allowedOrigins = some [])
    (request : Request) : policy.granted? request = none := by
  rw [Option.eq_none_iff_forall_ne_some]
  intro value granted
  have present := (granted?_exact.mp granted).entries_ne_nil
  rw [unlisted] at present
  exact present rfl

theorem answer_unlisted {policy : Cors} {request : Request} {response : Response}
    (unlisted : policy.allowedOrigins = some [])
    (silent : response.headers.values allowOrigin = []) :
    (policy.answer request response).headers.values allowOrigin = [] := by
  rw [answer_allowOrigin silent,nobody_granted unlisted]
  rfl

-- The entries that decide anything. All others are read as nothing.
def Counts (entry : String) : Prop :=
  trim entry.toList = ['*'] ∨ isLegal (Bytes.ofString entry) = true

section

variable {one other : Cors}
  (same : ∀ entry, Counts entry →
    (entry ∈ one.allowedOrigins.getD [] ↔ entry ∈ other.allowedOrigins.getD []))

include same

theorem starred_congr : Starred one.allowedOrigins ↔ Starred other.allowedOrigins :=
  exists_congr fun entry => and_congr_left fun starred => same entry (.inl starred)

theorem lists_congr {origin : FieldValue} : one.Lists origin ↔ other.Lists origin :=
  exists_congr fun entry => and_congr_left fun written =>
    same entry (.inr (written ▸ origin.legal))

theorem Grants.congr (credentials : one.allowCredentials = other.allowCredentials)
    {request : Request} {value : FieldValue} (grants : Grants one request value) :
    Grants other request value := by
  cases grants with
  | anyone starred plain =>
      exact .anyone ((starred_congr same).mp starred) (credentials ▸ plain)
  | repeated starred allowed sent =>
      exact .repeated ((starred_congr same).mp starred) (credentials ▸ allowed) sent
  | listed starless sent lists =>
      exact .listed (mt (starred_congr same).mpr starless) sent ((lists_congr same).mp lists)

theorem granted?_congr (credentials : one.allowCredentials = other.allowCredentials)
    (request : Request) : one.granted? request = other.granted? request := by
  refine Option.ext fun value => granted?_exact.trans (Iff.trans ⟨?_,?_⟩ granted?_exact.symm)
  · exact Grants.congr same credentials
  · exact Grants.congr (fun entry counts => (same entry counts).symm) credentials.symm

end

theorem allow_origin_exact {m : Type → Type} [Monad m] (policy : Cors) (inner : Service m)
    (request : Request) (response : Response)
    (silent : response.headers.values allowOrigin = []) :
    policy.layer inner request =
      (if request.method = "OPTIONS" then pure (policy.answer request response)
      else policy.answer request <$> inner request) ∧
    (∀ value, Grants policy request value →
      (policy.answer request response).headers.values allowOrigin = [value]) ∧
    ((∀ value, ¬Grants policy request value) →
      (policy.answer request response).headers.values allowOrigin = []) ∧
    (¬Starred policy.allowedOrigins →
      ∀ value ∈ (policy.answer request response).headers.values allowOrigin,
        request.headers.get? (.of "origin") = some value ∧ policy.Lists value) ∧
    (policy.allowedOrigins.getD [] = [] →
      (policy.answer request response).headers.values allowOrigin = []) ∧
    ∀ other : Cors, other.allowCredentials = policy.allowCredentials →
      (∀ entry, Counts entry →
        (entry ∈ other.allowedOrigins.getD [] ↔ entry ∈ policy.allowedOrigins.getD [])) →
      (other.answer request response).headers.values allowOrigin =
        (policy.answer request response).headers.values allowOrigin := by
  rw [answer_allowOrigin silent]
  have absent : (∀ value, ¬Grants policy request value) → (policy.granted? request).toList = [] := by
    intro ungranted
    cases found : policy.granted? request with
    | none => rfl
    | some value => exact absurd (granted?_exact.mp found) (ungranted value)
  refine ⟨layer_exact policy inner request response,?_,absent,?_,?_,?_⟩
  · intro value grants
    rw [granted?_exact.mpr grants]
    rfl
  · intro starless value carried
    cases granted?_exact.mp (Option.mem_toList.mp carried) with
    | anyone starred => exact absurd starred starless
    | repeated starred => exact absurd starred starless
    | listed _ sent lists => exact ⟨sent,lists⟩
  · intro empty
    exact absent fun value grants => grants.entries_ne_nil empty
  · intro other credentials same
    rw [answer_allowOrigin silent,granted?_congr same credentials]

def fromOrigin (origin : FieldValue) : Request where
  headers := ⟨[(.of "origin",origin)]⟩

theorem listed_origin_granted :
    ({ status := 200 } : Response).headers.values allowOrigin = [] ∧
    (({ allowedOrigins := some ["https://a.example"," https://b.example"] } : Cors).answer
      (fromOrigin (.of "https://a.example")) { status := 200 }).headers.values allowOrigin =
        [.of "https://a.example"] := by
  refine ⟨rfl,(allow_origin_exact _ (fun _ => (pure { status := 200 } : Id Response)) _ _ rfl).2.1 _
    (.listed ?_ rfl ⟨"https://a.example",by decide,rfl⟩)⟩
  exact mt hasStar_iff.mpr (by decide)

end HttpLayers.Cors
