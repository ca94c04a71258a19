import HttpLayers.Policy.Cors

-- Both kinds of answer carry the same fields; a decorated one carries them in place of what the
-- handler gave under those names.

namespace HttpLayers.Cors

open Http Text

-- What the caller gets where the handler gives `response`. A preflight does not ask the handler.
def answer (policy : Cors) (request : Request) (response : Response) : Response :=
  if isPreflight request then policy.preflight request else policy.decorate request response

theorem isPreflight_iff {request : Request} :
    isPreflight request = true ↔ request.method = "OPTIONS" := by
  simp [isPreflight]

theorem layer_exact {m : Type → Type} [Monad m] (policy : Cors) (inner : Service m)
    (request : Request) (response : Response) :
    policy.layer inner request =
      if request.method = "OPTIONS" then pure (policy.answer request response)
      else policy.answer request <$> inner request := by
  unfold layer answer
  by_cases asked : isPreflight request = true
  · simp only [if_pos asked,if_pos (isPreflight_iff.mp asked)]
  · simp only [if_neg asked,if_neg (mt isPreflight_iff.mpr asked)]

def fields (policy : Cors) (request : Request) : List (FieldName × FieldValue) :=
  policy.commonFields request ++
    if isPreflight request then policy.preflightFields request else policy.actualFields

-- The handler's own values show only where the layer has none of its own.
theorem answer_values {policy : Cors} {request : Request} {response : Response} {name : FieldName}
    {value : Option FieldValue} (other : name ≠ .of "vary")
    (carried : (Headers.mk (policy.fields request)).values name = value.toList)
    (silent : response.headers.values name = []) :
    (policy.answer request response).headers.values name = value.toList := by
  have apart : varyField.1 ≠ name := fun same => other same.symm
  unfold answer
  by_cases asked : isPreflight request = true
  · rw [fields,if_pos asked] at carried
    rw [if_pos asked,preflight,List.cons_append,Headers.values_cons,if_neg apart,carried]
  · rw [fields,if_neg asked] at carried
    rw [if_neg asked,decorate,Headers.values_insertAll,carried]
    cases value with
    | none => rw [Headers.values_append,if_neg apart,silent]; rfl
    | some value => rfl

theorem values_field (own name : FieldName) (value : Option FieldValue) :
    (Headers.mk (field own value)).values name = if own = name then value.toList else [] := by
  cases value with
  | none => simp [field,Headers.values]
  | some value => rw [field,Option.toList_some,List.map_singleton,Headers.values_cons]; rfl

def granted? (policy : Cors) (request : Request) : Option FieldValue :=
  policy.originRule.originValue (request.headers.get? (.of "origin"))

def askedMethod (request : Request) : Option FieldValue :=
  request.headers.get? (.of "access-control-request-method")

def askedHeaders (request : Request) : Option FieldValue :=
  request.headers.get? (.of "access-control-request-headers")

def shown (policy : Cors) (request : Request) : List (FieldName × Option FieldValue) :=
  let preflight := isPreflight request
  [(allowCredentialsField,if policy.allowCredentials then some (.of "true") else none),
    (allowOrigin,policy.granted? request),
    (allowMethods,if preflight then policy.methodRule.listValue (askedMethod request) else none),
    (allowHeaders,if preflight then policy.headerRule.listValue (askedHeaders request) else none),
    (exposeHeaders,if !preflight then policy.exposedRule.listValue none else none)]

theorem values_rows_absent {rows : List (FieldName × Option FieldValue)} {name : FieldName}
    (absent : name ∉ rows.map (·.1)) :
    (Headers.mk (rows.flatMap fun row => field row.1 row.2)).values name = [] := by
  induction rows with
  | nil => rfl
  | cons first rest ih =>
      rw [List.map_cons,List.mem_cons,not_or] at absent
      rw [List.flatMap_cons,Headers.values_concat,values_field,if_neg (Ne.symm absent.1),
        List.nil_append]
      exact ih absent.2

-- Under names that differ each row shows its own value and no other.
theorem values_rows {rows : List (FieldName × Option FieldValue)}
    {row : FieldName × Option FieldValue} (apart : (rows.map (·.1)).Nodup) (listed : row ∈ rows) :
    (Headers.mk (rows.flatMap fun row => field row.1 row.2)).values row.1 = row.2.toList := by
  induction rows with
  | nil => cases listed
  | cons first rest ih =>
      rw [List.map_cons,List.nodup_cons] at apart
      rw [List.flatMap_cons,Headers.values_concat,values_field]
      rcases List.mem_cons.mp listed with here | later
      · rw [here,if_pos rfl,values_rows_absent apart.1,List.append_nil]
      · have differs : first.1 ≠ row.1 := fun same => apart.1 (same ▸ List.mem_map_of_mem later)
        rw [if_neg differs,List.nil_append]
        exact ih apart.2 later

def ageRow (policy : Cors) (request : Request) : FieldName × Option FieldValue :=
  (maxAgeField,if isPreflight request then some (.ofNat policy.maxAge.secs.toNat) else none)

theorem fields_rows (policy : Cors) (request : Request) : policy.fields request =
    (policy.shown request ++ [policy.ageRow request]).flatMap fun row => field row.1 row.2 := by
  have unsent : ∀ name, field name none = [] := fun _ => rfl
  unfold fields shown ageRow commonFields preflightFields actualFields
  cases isPreflight request <;> simp [unsent,granted?,askedMethod,askedHeaders]

theorem fields_shown (policy : Cors) (request : Request) :
    ∀ row ∈ policy.shown request,
      (Headers.mk (policy.fields request)).values row.1 = row.2.toList := by
  intro row listed
  have apart : ((policy.shown request ++ [policy.ageRow request]).map (·.1)).Nodup := by
    change [allowCredentialsField,allowOrigin,allowMethods,allowHeaders,exposeHeaders,
      maxAgeField].Nodup
    decide
  rw [fields_rows]
  exact values_rows apart (List.mem_append_left _ listed)

-- An entry counts as a star once white space is taken off it.
def Starred (entries : Option (List String)) : Prop :=
  ∃ entry ∈ entries.getD [], trim entry.toList = ['*']

theorem isStar_iff {entry : String} : isStar entry = true ↔ trim entry.toList = ['*'] := by
  simp [isStar]

theorem hasStar_iff {entries : Option (List String)} :
    hasStar entries = true ↔ Starred entries := by
  simp [hasStar,isStar_iff,Starred]

end HttpLayers.Cors
