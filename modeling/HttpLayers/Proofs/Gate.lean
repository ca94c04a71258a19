import HttpLayers.Policy.BasicAuth
import HttpLayers.Proofs.FieldValue
import HttpLayers.Proofs.Recorded

-- The refusal is made of a text that the operator chooses, so it has to be shown that no such text
-- spoils it.

namespace HttpLayers.BasicAuth

open Http FieldValue

-- Two ways past the gate and no third. Credentials count only where a validator accepts them.
inductive Admitted (policy : BasicAuth) (request : Request) : Prop where
  | exempt {paths : List String} (configured : policy.exemptPaths = some paths)
      (listed : request.path ∈ paths) : Admitted policy request
  | credentials {user password : String} {validate : CredentialCheck}
      (read : credentials? request = some (user,password))
      (configured : policy.validator = some validate)
      (accepted : validate user password = true) : Admitted policy request

theorem exempts_exact {policy : BasicAuth} {path : String} :
    policy.exempts path = true ↔ ∃ paths, policy.exemptPaths = some paths ∧ path ∈ paths :=
  isListed_iff

theorem accepts_exact {policy : BasicAuth} {user password : String} :
    policy.accepts user password = true ↔
      ∃ validate, policy.validator = some validate ∧ validate user password = true := by
  unfold accepts
  cases policy.validator with
  | none => simp
  | some validate => simp

theorem admits_exact {policy : BasicAuth} {request : Request} :
    policy.admits request = true ↔ Admitted policy request := by
  rw [admits,Bool.or_eq_true,exempts_exact,Option.any_eq_true]
  constructor
  · intro passed
    rcases passed with ⟨paths,configured,listed⟩ | ⟨⟨user,password⟩,read,accepted⟩
    · exact .exempt configured listed
    · obtain ⟨validate,configured,accepted⟩ := accepts_exact.mp accepted
      exact .credentials read configured accepted
  · intro admitted
    cases admitted with
    | exempt configured listed => exact .inl ⟨_,configured,listed⟩
    | credentials read configured accepted =>
        exact .inr ⟨_,read,accepts_exact.mpr ⟨_,configured,accepted⟩⟩

instance (policy : BasicAuth) (request : Request) : Decidable (Admitted policy request) :=
  decidable_of_iff _ admits_exact

example : Admitted { exemptPaths := some ["/health"] } { target := .origin "/health" none } := by
  decide

theorem realmText_clear (realm : String) :
    ∀ c ∈ (realmText realm).toList, 32 ≤ c.toNat ∧ c.toNat ≠ 127 := by
  intro c member
  rw [realmText,String.toList_ofList] at member
  obtain ⟨d,_,written⟩ := List.mem_map.mp member
  split at written
  · subst written; decide
  · split at written
    · subst written; decide
    · rename_i shown
      subst written
      simp only [isControl,Bool.or_eq_true,Bool.and_eq_true,decide_eq_true_eq] at shown
      omega

theorem challenge_clear (realm : String) :
    ∀ b ∈ Bytes.ofString (challenge realm), Bytes.IsClear b := by
  refine Bytes.ofString_clear ?_
  intro c member
  simp only [challenge,String.toList_append,List.mem_append] at member
  rcases member with (opening | inside) | closing
  · have clear : "Basic realm=\"".toList.all (fun c => 32 ≤ c.toNat && c.toNat != 127) = true := by
      decide
    simpa using List.all_eq_true.mp clear c opening
  · exact realmText_clear realm c inside
  · have clear : "\"".toList.all (fun c => 32 ≤ c.toNat && c.toNat != 127) = true := by decide
    simpa using List.all_eq_true.mp clear c closing

-- A challenge that no header could carry would have made the refusal an error of the server.
theorem unauthorized_exact (realm : String) :
    (unauthorized realm).status = 401 ∧ (unauthorized realm).headers.written =
      [("www-authenticate",Bytes.ofString (challenge realm)),
       ("content-type",Bytes.ofString "application/json")] := by
  have name : FieldName.ofString? "www-authenticate" = some (.of "www-authenticate") := by decide
  have typeName : FieldName.ofString? "Content-Type" = some (.of "content-type") := by decide
  have typeValue : FieldValue.ofString? "application/json" = some (.of "application/json") := by
    decide
  have legal : FieldValue.isLegal (Bytes.ofString (challenge realm)) = true :=
    List.all_eq_true.mpr fun b member => isLegalByte_of_clear (challenge_clear realm b member)
  have value : FieldValue.ofString? (challenge realm) = some (.of (challenge realm) legal) :=
    ofString?_eq_some_iff.mpr rfl
  simp only [unauthorized,Response.withFields,name,value,typeName,typeValue]
  exact ⟨rfl,rfl⟩

variable {m : Type → Type} [Monad m]

theorem layer_admitted {policy : BasicAuth} {request : Request}
    (admitted : Admitted policy request) (inner : Service m) :
    policy.layer inner request = inner request := by
  rw [layer,if_pos (admits_exact.mpr admitted)]

theorem layer_refused {policy : BasicAuth} {request : Request}
    (refused : ¬Admitted policy request) (inner : Service m) :
    policy.layer inner request = pure (unauthorized policy.realm) := by
  rw [layer,if_neg (mt admits_exact.mp refused)]

-- One call with the request as it came, or none and the one refusal; the bytes of the challenge are
-- clear of controls for every realm.
theorem gate_exact (policy : BasicAuth) (inner : Service m) (request : Request)
    (seen : List Request) :
    (Admitted policy request → (policy.layer (recorded inner) request).run seen =
      (fun response => (response,seen ++ [request])) <$> inner request) ∧
    (¬Admitted policy request → (policy.layer (recorded inner) request).run seen =
      pure (unauthorized policy.realm,seen)) ∧
    (unauthorized policy.realm).status = 401 ∧
    (unauthorized policy.realm).headers.written =
      [("www-authenticate",Bytes.ofString ("Basic realm=\"" ++ realmText policy.realm ++ "\"")),
       ("content-type",Bytes.ofString "application/json")] ∧
    ∀ b ∈ Bytes.ofString ("Basic realm=\"" ++ realmText policy.realm ++ "\""),
      32 ≤ b.toNat ∧ b.toNat ≠ 127 := by
  obtain ⟨status,fields⟩ := unauthorized_exact policy.realm
  refine ⟨?_,?_,status,fields,challenge_clear policy.realm⟩
  · intro admitted
    rw [layer_admitted admitted]
    exact run_recorded inner request seen
  · intro refused
    rw [layer_refused refused]
    exact run_pure _ seen

end HttpLayers.BasicAuth
