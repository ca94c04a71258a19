import HttpLayers.Proofs.Cors.Origin
import HttpLayers.Proofs.Entries
import HttpLayers.Proofs.Settings.Overrides
import HttpLayers.Proofs.TrustedProxies

-- A variable that holds a list says which entries there are, and commas alone say that there are none.
-- To say that there are none is not to say nothing: the defaults that let everybody in hold only where
-- nothing is said.

namespace HttpLayers

open Http Text

namespace Environment

variable {env : Environment} {name value : String} {listed : List String}

theorem list?_eq_some_iff : env.list? name = some listed ↔ ∃ value, env name = some value ∧
    ¬Blank value.toList ∧ Itemizes value.toList (listed.map String.toList) := by
  rw [list?,Option.map_eq_some_iff]
  constructor
  · intro found
    obtain ⟨text,held,rfl⟩ := found
    cases get?_exact.mp held with
    | @text value isSet present =>
        refine ⟨value,isSet,mt trim_eq_nil_iff.mpr present,entries_eq_iff.mp ?_⟩
        rw [entries_trim,List.map_map]
        simp
  · intro written
    obtain ⟨value,isSet,visible,itemizes⟩ := written
    have holds : env.Holds name (trim value.toList) := .text isSet (mt trim_eq_nil_iff.mp visible)
    refine ⟨trim value.toList,get?_exact.mpr holds,?_⟩
    rw [entries_trim,entries_eq_iff.mpr itemizes,List.map_map]
    simp

theorem list?_eq_none_iff :
    env.list? name = none ↔ ∀ value, env name = some value → Blank value.toList := by
  rw [list?,Option.map_eq_none_iff,get?_eq_none_iff]
  constructor
  · intro nothing value isSet
    by_contra visible
    exact nothing _ (.text isSet (mt trim_eq_nil_iff.mp visible))
  · intro blank text holds
    cases holds with
    | text isSet present => exact present (trim_eq_nil_iff.mpr (blank _ isSet))

theorem isEntry_of_list? (read : env.list? name = some listed) :
    ∀ entry ∈ listed, IsEntry entry.toList := by
  obtain ⟨_,_,_,itemizes⟩ := list?_eq_some_iff.mp read
  intro entry member
  exact itemizes.isEntry _ (List.mem_map_of_mem member)

-- Nothing but commas and white space, and at least one comma.
structure Unlisting (s : List Char) : Prop where
  comma : ',' ∈ s
  others : ∀ c ∈ s, c = ',' ∨ isBlank c = true

theorem list?_unlisting (isSet : env name = some value) (unlisting : Unlisting value.toList) :
    env.list? name = some [] := by
  refine list?_eq_some_iff.mpr ⟨value,isSet,?_,?_⟩
  · intro blank
    exact blank.not_mem (by decide) unlisting.comma
  · exact entries_eq_iff.mp (entries_eq_nil_iff.mpr unlisting.others)

end Environment

namespace Settings

variable {env : Environment} {settings : Settings}

theorem resolved_lists (accepted : ofEnvironment env = .ok settings) (entropy : Nat → Bytes) :
    (settings.resolve entropy).cors.allowedOrigins =
      (env.list? "CORS_ALLOWED_ORIGINS").or (Policies.standard entropy).cors.allowedOrigins ∧
    (settings.resolve entropy).realIp.trustedProxies =
      (env.list? "TRUSTED_PROXIES").or (Policies.standard entropy).realIp.trustedProxies := by
  obtain ⟨overrides,read,_,rfl⟩ := Overrides.of_accepted accepted
  rw [overrides.resolve_settings,Environment.gives_list.unique read.allowedOrigins,
    Environment.gives_list.unique read.trustedProxies]
  exact ⟨rfl,rfl⟩

end Settings

theorem Settings.lists_read_exactly (env : Environment) :
    (∀ name listed, env.list? name = some listed ↔ ∃ value, env name = some value ∧
      ¬Blank value.toList ∧ Itemizes value.toList (listed.map String.toList)) ∧
    (∀ name listed, env.list? name = some listed → ∀ entry ∈ listed, IsEntry entry.toList) ∧
    (∀ name, env.list? name = none ↔ ∀ value, env name = some value → Blank value.toList) ∧
    ∀ settings, ofEnvironment env = .ok settings → ∀ entropy,
      let policies := settings.resolve entropy
      (∀ value, env "CORS_ALLOWED_ORIGINS" = some value → Environment.Unlisting value.toList →
        policies.cors.allowedOrigins = some [] ∧
        ∀ {m : Type → Type} [Monad m] (inner : Service m) (request : Request)
          (response : Response), response.headers.values Cors.allowOrigin = [] →
          policies.cors.layer inner request =
            (if request.method = "OPTIONS" then pure (policies.cors.answer request response)
            else policies.cors.answer request <$> inner request) ∧
          (policies.cors.answer request response).headers.values Cors.allowOrigin = []) ∧
      ∀ value, env "TRUSTED_PROXIES" = some value → Environment.Unlisting value.toList →
        policies.realIp.trustedProxies = some [] ∧ ∀ ip, policies.realIp.trusts ip = false := by
  refine ⟨fun _ _ => Environment.list?_eq_some_iff,fun _ _ => Environment.isEntry_of_list?,
    fun _ => Environment.list?_eq_none_iff,?_⟩
  intro settings accepted entropy
  obtain ⟨origins,proxies⟩ := resolved_lists accepted entropy
  constructor
  · intro value isSet unlisting
    rw [Environment.list?_unlisting isSet unlisting] at origins
    exact ⟨origins,fun inner request response silent =>
      ⟨Cors.layer_exact _ inner request response,Cors.answer_unlisted origins silent⟩⟩
  · intro value isSet unlisting
    rw [Environment.list?_unlisting isSet unlisting] at proxies
    exact ⟨proxies,RealIp.nobody_trusted proxies⟩

end HttpLayers
