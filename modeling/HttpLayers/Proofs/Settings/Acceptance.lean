import HttpLayers.Proofs.Settings.Forms

-- Which environments are accepted, and what is said of one that is not.

namespace HttpLayers

open Outcome

-- One thing that is asked of an environment: the check that is run, when it is met, and what the check
-- has to say otherwise.
structure Demand where
  check : Environment → Except SettingsError Unit
  Met : Environment → Prop
  Blames : Environment → SettingsError → Prop
  met_iff : ∀ {env}, check env = .ok () ↔ Met env
  blames_iff : ∀ {env error}, check env = .error error ↔ Blames env error

namespace Demand

variable {α : Type} {env : Environment}

theorem unmet_of_blames (demand : Demand) {error : SettingsError}
    (blames : demand.Blames env error) : ¬demand.Met env := by
  intro met
  cases (demand.blames_iff.mpr blames).symm.trans (demand.met_iff.mpr met)

-- A variable that has something to say has to say it in the form.
def written (name : String) (form : Form α) : Demand where
  check env := verdict (env.read? name form.read)
  Met env := ∀ text, env.Holds name text → ∃ value, form.Denotes text value
  Blames env error := ∃ text problem, env.Holds name text ∧ form.Spoils text problem ∧
    error = .unreadable name problem
  met_iff := verdict_eq_ok_iff.trans Environment.read?_succeeds_iff
  blames_iff := verdict_eq_error_iff.trans Environment.read?_eq_error_iff

-- Where there is only one fault to find, and this is what is said of it.
def certificates (reader : Environment → Except CertificateFault α) (Met : Environment → Prop)
    (problem : String) (fault : CertificateFault) (worded : fault.problem = problem)
    (exact : ∀ {env found}, reader env = .error found ↔ ¬Met env ∧ found = fault) : Demand where
  check env := verdict ((reader env).mapError CertificateFault.toError)
  Met := Met
  Blames env error := ¬Met env ∧ error = .certificates problem
  met_iff := by
    intro env
    rw [verdict_eq_ok_iff]
    simp only [mapError_eq_ok_iff]
    cases read : reader env with
    | error found => exact ⟨nofun,fun met => absurd met (exact.mp read).1⟩
    | ok value =>
        refine ⟨fun _ => ?_,fun _ => ⟨value,rfl⟩⟩
        by_contra unmet
        cases read.symm.trans (exact.mpr ⟨unmet,rfl⟩)
  blames_iff := by
    intro env error
    rw [verdict_eq_error_iff,mapError_eq_error_iff]
    constructor
    · intro failed
      obtain ⟨found,read,rfl⟩ := failed
      obtain ⟨unmet,rfl⟩ := exact.mp read
      exact ⟨unmet,congrArg SettingsError.certificates worded⟩
    · intro blamed
      obtain ⟨unmet,rfl⟩ := blamed
      exact ⟨fault,exact.mpr ⟨unmet,rfl⟩,congrArg SettingsError.certificates worded⟩

def FilesPaired (env : Environment) : Prop :=
  (∃ text, env.Holds "TLS_CERT_FILE" text) ↔ ∃ text, env.Holds "TLS_KEY_FILE" text

theorem readFiles_eq_error_iff {found : CertificateFault} :
    ServerSettings.readFiles env = .error found ↔ ¬FilesPaired env ∧ found = .variableMissing := by
  rw [FilesPaired,← Environment.text?_isSome_iff,← Environment.text?_isSome_iff]
  unfold ServerSettings.readFiles
  generalize env.text? "TLS_CERT_FILE" = certificate
  generalize env.text? "TLS_KEY_FILE" = key
  cases certificate <;> cases key <;> simp [eq_comm]

def CacheHoused (env : Environment) : Prop :=
  (∃ text, env.Holds "AUTO_TLS_CACHE_DIR" text) →
    ∃ text domains, env.Holds "AUTO_TLS_DOMAINS" text ∧ Form.Listed text domains ∧ domains ≠ []

theorem cacheHoused_iff : CacheHoused env ↔
    ((env.text? "AUTO_TLS_CACHE_DIR").isSome = true →
      (env.list? "AUTO_TLS_DOMAINS").getD [] ≠ []) := by
  rw [CacheHoused,← Environment.text?_isSome_iff,← Environment.gives_list.present_iff]

theorem readAutomatic_eq_error_iff {found : CertificateFault} :
    ServerSettings.readAutomatic env = .error found ↔ ¬CacheHoused env ∧ found = .cacheAlone := by
  rw [cacheHoused_iff]
  unfold ServerSettings.readAutomatic
  generalize env.text? "AUTO_TLS_CACHE_DIR" = cacheDir
  generalize (env.list? "AUTO_TLS_DOMAINS").getD [] = domains
  cases domains <;> cases cacheDir <;> simp [eq_comm]

def server : List Demand :=
  [written "PORT" .port,
   certificates ServerSettings.readFiles FilesPaired
      "TLS_CERT_FILE and TLS_KEY_FILE must be set together" .variableMissing rfl
      readFiles_eq_error_iff,
   certificates ServerSettings.readAutomatic CacheHoused
      "AUTO_TLS_CACHE_DIR requires AUTO_TLS_DOMAINS" .cacheAlone rfl readAutomatic_eq_error_iff,
   written "SHUTDOWN_TIMEOUT_SECS" .seconds]

def policies : List Demand :=
  [written "RATE_LIMIT_RATE" .integer,
   written "RATE_LIMIT_WINDOW_SECS" .seconds,
   written "RATE_LIMIT_ALGORITHM" .algorithm,
   written "CIRCUIT_BREAKER_FAILURE_THRESHOLD" .integer,
   written "CIRCUIT_BREAKER_SUCCESS_THRESHOLD" .integer,
   written "CIRCUIT_BREAKER_RECOVERY_TIMEOUT_SECS" .seconds,
   written "REQUEST_BODY_LIMIT" .integer,
   written "REQUEST_TIMEOUT_SECS" .seconds]

-- In the order in which they are looked at.
def all : List Demand :=
  server ++ policies

theorem verdict_server : verdict (ServerSettings.ofEnvironment env) =
    inTurn (fun demand => demand.check env) server := by
  have port : (written "PORT" .port).check env = verdict (env.natural? 65535 "PORT") := by
    change verdict (env.read? "PORT" Form.port.read) = _
    rw [Environment.read?_port,verdict_map]
  rw [server,inTurn,port]
  exact verdict_bind fun _ => verdict_bind fun _ => verdict_bind fun _ => verdict_bind fun _ => rfl

theorem verdict_settings : verdict (Settings.ofEnvironment env) =
    inTurn (fun demand => demand.check env) all := by
  rw [all,inTurn_append,← verdict_server]
  exact verdict_bind fun _ => verdict_bind fun _ => verdict_bind fun _ => verdict_bind fun _ =>
    verdict_bind fun _ => verdict_bind fun _ => verdict_bind fun _ => verdict_bind fun _ =>
    verdict_bind fun _ => rfl

end Demand

-- The variables that hold lists are in no demand: any text is a list.
theorem Settings.accepts_exactly (env : Environment) :
    ((∃ settings, ofEnvironment env = .ok settings) ↔ ∀ demand ∈ Demand.all, demand.Met env) ∧
    ∀ error, ofEnvironment env = .error error ↔ ∃ earlier demand later,
      Demand.all = earlier ++ demand :: later ∧ (∀ passed ∈ earlier, passed.Met env) ∧
      ¬demand.Met env ∧ demand.Blames env error := by
  constructor
  · rw [← verdict_eq_ok_iff,Demand.verdict_settings,inTurn_eq_ok_iff]
    simp only [Demand.met_iff]
  · intro error
    rw [← verdict_eq_error_iff,Demand.verdict_settings,inTurn_eq_error_iff]
    simp only [Demand.met_iff,Demand.blames_iff]
    constructor
    · intro failed
      obtain ⟨earlier,demand,later,cut,passed,blames⟩ := failed
      exact ⟨earlier,demand,later,cut,passed,demand.unmet_of_blames blames,blames⟩
    · intro failed
      obtain ⟨earlier,demand,later,cut,passed,_,blames⟩ := failed
      exact ⟨earlier,demand,later,cut,passed,blames⟩

example : Settings.ofEnvironment (.ofTable [("PORT"," 65536 "),("TLS_KEY_FILE","k.pem")]) =
    .error (.unreadable "PORT" "number too large to fit in target type") := rfl

end HttpLayers
