import HttpLayers.Launch
import HttpLayers.Proofs.Checks

-- Which environments get a server as far as its socket, and how the process ends.

namespace HttpLayers

open Outcome Net Text

namespace Environment

variable {α : Type} {env : Environment} {name : String}

-- A number that is given has to be above zero.
def Positive (env : Environment) (name : String) : Prop :=
  ∀ text n, env.Holds name text → Integer.SignedNumeral text n → 0 < n

theorem Gives.positive_iff {form : Form α} {given : Option α} {standard : α} {good : α → Prop}
    (gives : env.Gives name form given) (usual : good standard)
    (written : ∀ {text value}, form.Denotes text value →
      ∃ n, Integer.SignedNumeral text n ∧ (good value ↔ 0 < n)) :
    good (given.getD standard) ↔ env.Positive name := by
  cases gives with
  | nothing blank => exact ⟨fun _ text _ holds => absurd holds (blank text),fun _ => usual⟩
  | value holds denoted =>
      obtain ⟨n,numeral,sign⟩ := written denoted
      refine sign.trans ⟨?_,fun positive => positive _ _ holds numeral⟩
      intro above text other also spelled
      cases holds.unique also
      rwa [spelled.unique numeral]

theorem Gives.text_ne_empty {value : String} (gives : env.Gives name .text (some value)) :
    value ≠ "" := by
  cases gives with
  | value holds denoted =>
      rintro rfl
      exact holds.ne_nil denoted.symm

def GivesFiles (env : Environment) : Prop :=
  (∃ text, env.Holds "TLS_CERT_FILE" text) ∧ ∃ text, env.Holds "TLS_KEY_FILE" text

def GivesDomains (env : Environment) : Prop :=
  ∃ text domains, env.Holds "AUTO_TLS_DOMAINS" text ∧ Form.Listed text domains ∧ domains ≠ []

def RangesReadable (env : Environment) : Prop :=
  ∀ text entries, env.Holds "TRUSTED_PROXIES" text → Form.Listed text entries →
    ∀ entry ∈ entries, ∃ range, Cidr.ofText? entry.toList = some range

def quantityNames : List String :=
  ["RATE_LIMIT_RATE","RATE_LIMIT_WINDOW_SECS","CIRCUIT_BREAKER_FAILURE_THRESHOLD",
   "CIRCUIT_BREAKER_SUCCESS_THRESHOLD"]

inductive Addresses (env : Environment) (endpoint : Endpoint) : Prop where
  | written {host : Option String} {port : Option UInt16} (hostGiven : env.Gives "HOST" .text host)
      (portGiven : env.Gives "PORT" .port port)
      (address : Endpoint.ofText? (host.getD "0.0.0.0" ++ ":" ++
        toString (port.getD 3000).toNat).toList = some endpoint) :
      Addresses env endpoint

theorem Addresses.unique {one other : Endpoint} (addresses : env.Addresses one)
    (also : env.Addresses other) : one = other := by
  cases addresses with
  | written host port found =>
      cases also with
      | written hostAlso portAlso again =>
          cases host.unique hostAlso
          cases port.unique portAlso
          exact Option.some.inj (found.symm.trans again)

end Environment

namespace Form

theorem integer_sign {text : List Char} {value : Int} (denoted : integer.Denotes text value) :
    ∃ n, Integer.SignedNumeral text n ∧ (0 < value ↔ 0 < n) :=
  ⟨value,denoted.1,Iff.rfl⟩

theorem seconds_sign {text : List Char} {duration : Duration}
    (denoted : seconds.Denotes text duration) :
    ∃ n, Integer.SignedNumeral text n ∧ (duration.isZero = false ↔ 0 < n) := by
  obtain ⟨n,numeral,rfl⟩ := denoted
  refine ⟨n.toNat,.unsigned numeral,?_⟩
  rw [Int.natCast_pos,Nat.pos_iff_ne_zero,Ne,← UInt64.toNat_zero,UInt64.toNat_inj]
  simp [Duration.isZero,Duration.seconds]

end Form

namespace Overrides

variable {env : Environment} {overrides : Overrides}

theorem files_isSome {certificate key : Option String} : (files certificate key).isSome = true ↔
    certificate.isSome = true ∧ key.isSome = true := by
  cases certificate <;> cases key <;> simp [files]

theorem files_eq_some_iff {certificate key : Option String} {given : CertificateFiles} :
    files certificate key = some given ↔
      certificate = some given.certificate ∧ key = some given.key := by
  cases given
  cases certificate <;> cases key <;> simp [files]

theorem automatic_isSome {domains : Option (List String)} {cacheDir : Option String} :
    (automatic domains cacheDir).isSome = true ↔ domains.getD [] ≠ [] := by
  cases domains <;> simp [automatic]

theorem automatic_listed {domains : Option (List String)} {cacheDir : Option String}
    {given : AutomaticCertificates} (made : automatic domains cacheDir = some given) :
    given.domains ≠ [] := by
  obtain ⟨listed,kept,rfl⟩ := Option.map_eq_some_iff.mp made
  simpa using (Option.filter_eq_some_iff.mp kept).2

theorem Read.files_given (read : overrides.Read env) :
    overrides.server.files.isSome = true ↔ env.GivesFiles :=
  files_isSome.trans (and_congr read.certificate.isSome_iff read.key.isSome_iff)

theorem Read.domains_given (read : overrides.Read env) :
    overrides.server.automatic.isSome = true ↔ env.GivesDomains :=
  automatic_isSome.trans read.domains.present_iff

-- No variable holds the empty text, and a list without a domain is none.
theorem Read.check_server (read : overrides.Read env) {error : SettingsError} :
    overrides.server.check = .error error ↔ (env.GivesFiles ∧ env.GivesDomains) ∧
      error = CertificateFault.filesAndDomains.toError := by
  have named : ∀ given, overrides.server.files = some given →
      given.certificate ≠ "" ∧ given.key ≠ "" := by
    intro given made
    obtain ⟨certificate,key⟩ := files_eq_some_iff.mp made
    exact ⟨(certificate ▸ read.certificate).text_ne_empty,(key ▸ read.key).text_ne_empty⟩
  have listed : ∀ given, overrides.server.automatic = some given → given.domains ≠ [] :=
    fun _ => automatic_listed
  rw [ServerSettings.check_eq_error_iff]
  simp only [ServerSettings.fault?_eq_some_iff named listed,read.files_given,read.domains_given]
  constructor
  · intro found
    obtain ⟨_,⟨both,rfl⟩,rfl⟩ := found
    exact ⟨both,rfl⟩
  · intro found
    exact ⟨_,⟨found.1,rfl⟩,found.2.symm⟩

theorem Read.server_passes_iff (read : overrides.Read env) :
    overrides.server.check = .ok () ↔ ¬(env.GivesFiles ∧ env.GivesDomains) := by
  constructor
  · intro passed both
    cases passed.symm.trans (read.check_server.mpr ⟨both,rfl⟩)
  · intro apart
    cases checked : overrides.server.check with
    | ok done => rfl
    | error error => exact absurd (read.check_server.mp checked).1 apart

theorem Read.ranges_readable (read : overrides.Read env) :
    (∀ entry ∈ overrides.trustedProxies.getD [], ∃ range, Cidr.ofText? entry.toList = some range) ↔
      env.RangesReadable := by
  constructor
  · intro readable text entries holds listed
    rwa [read.trustedProxies.eq_some_iff.mpr ⟨text,holds,listed⟩] at readable
  · intro readable
    cases given : overrides.trustedProxies with
    | none => exact List.forall_mem_nil _
    | some entries =>
        obtain ⟨text,holds,listed⟩ := read.trustedProxies.eq_some_iff.mp given
        exact readable text entries holds listed

theorem Read.usable_iff (read : overrides.Read env) (entropy : Nat → Bytes) :
    (overrides.policies (.standard entropy)).Usable ↔
      (∀ name ∈ Environment.quantityNames, env.Positive name) ∧ env.RangesReadable := by
  have standard := Policies.standard_usable entropy
  have rate := read.rate.positive_iff standard.rate Form.integer_sign
  have window := read.window.positive_iff standard.window Form.seconds_sign
  have failures := read.failureThreshold.positive_iff standard.failureThreshold Form.integer_sign
  have successes := read.successThreshold.positive_iff standard.successThreshold Form.integer_sign
  have proxies : (overrides.policies (.standard entropy)).realIp.trustedProxies =
      overrides.trustedProxies := Option.or_none
  simp only [Environment.quantityNames,List.forall_mem_cons,List.not_mem_nil,IsEmpty.forall_iff,
    implies_true,and_true,← rate,← window,← failures,← successes,← read.ranges_readable]
  constructor
  · intro usable
    have ranges := usable.ranges
    rw [proxies] at ranges
    exact ⟨⟨usable.rate,usable.window,usable.failureThreshold,usable.successThreshold⟩,ranges⟩
  · intro given
    obtain ⟨⟨rate,window,failures,successes⟩,ranges⟩ := given
    exact ⟨rate,window,failures,successes,standard.statusCodes,by rwa [proxies]⟩

theorem Read.endpoint (read : overrides.Read env) {endpoint : Endpoint} :
    overrides.server.endpoint? = some endpoint ↔ env.Addresses endpoint := by
  constructor
  · intro found
    exact .written read.host read.port found
  · intro addressed
    cases addressed with
    | written host port found =>
        cases host.unique read.host
        cases port.unique read.port
        exact found

end Overrides

namespace Launch

variable {env : Environment} {endpoint : Endpoint} {entropy : Nat → Bytes}

-- What an environment needs for its server to ask for a socket.
structure Fit (env : Environment) (endpoint : Endpoint) : Prop where
  accepted : ∃ settings, Settings.ofEnvironment env = .ok settings
  oneSource : ¬(env.GivesFiles ∧ env.GivesDomains)
  positive : ∀ name ∈ Environment.quantityNames, env.Positive name
  readable : env.RangesReadable
  addressed : env.Addresses endpoint

theorem prepare_eq_ok_iff {ready : Ready} : prepare entropy env = .ok ready ↔
    Settings.ofEnvironment env = .ok ready.settings ∧ ready.settings.server.check = .ok () ∧
    ready.settings.resolve entropy = ready.policies ∧ ready.policies.check = .ok () ∧
    ready.settings.server.endpoint? = some ready.endpoint := by
  constructor
  · intro prepared
    obtain ⟨settings,accepted,later⟩ := bind_eq_ok_iff.mp prepared
    obtain ⟨_,checked,later⟩ := bind_eq_ok_iff.mp later
    obtain ⟨_,usable,later⟩ := bind_eq_ok_iff.mp later
    cases found : settings.server.endpoint? with
    | none =>
        rw [found] at later
        cases later
    | some endpoint =>
        rw [found] at later
        cases later
        exact ⟨mapError_eq_ok_iff.mp accepted,mapError_eq_ok_iff.mp checked,rfl,
          mapError_eq_ok_iff.mp usable,found⟩
  · intro passed
    obtain ⟨accepted,checked,resolved,usable,found⟩ := passed
    refine bind_eq_ok_iff.mpr ⟨_,mapError_eq_ok_iff.mpr accepted,?_⟩
    refine bind_eq_ok_iff.mpr ⟨(),mapError_eq_ok_iff.mpr checked,?_⟩
    refine bind_eq_ok_iff.mpr ⟨(),mapError_eq_ok_iff.mpr (resolved ▸ usable),?_⟩
    rw [found,resolved]

theorem prepare_fit : (∃ ready, prepare entropy env = .ok ready ∧ ready.endpoint = endpoint) ↔
    Fit env endpoint := by
  constructor
  · intro prepared
    obtain ⟨ready,prepared,rfl⟩ := prepared
    obtain ⟨accepted,checked,resolved,usable,found⟩ := prepare_eq_ok_iff.mp prepared
    obtain ⟨overrides,read,_,same⟩ := Overrides.of_accepted accepted
    rw [← resolved,same,overrides.resolve_settings,Policies.check_eq_ok_iff,
      read.usable_iff] at usable
    rw [same] at checked found
    exact ⟨⟨_,accepted⟩,read.server_passes_iff.mp checked,usable.1,usable.2,
      read.endpoint.mp found⟩
  · intro fit
    obtain ⟨settings,accepted⟩ := fit.accepted
    obtain ⟨overrides,read,_,rfl⟩ := Overrides.of_accepted accepted
    have usable := (read.usable_iff entropy).mpr ⟨fit.positive,fit.readable⟩
    rw [← overrides.resolve_settings] at usable
    exact ⟨⟨_,_,endpoint⟩,prepare_eq_ok_iff.mpr ⟨accepted,
      read.server_passes_iff.mpr fit.oneSource,rfl,Policies.check_eq_ok_iff.mpr usable,
      read.endpoint.mpr fit.addressed⟩,rfl⟩

theorem exitCode_of_prepare {refusal : Refusal} (stopped : prepare entropy env = .error refusal) :
    refusal.exitCode = 78 := by
  rcases bind_eq_error_iff.mp stopped with unread | ⟨settings,_,later⟩
  · obtain ⟨_,_,rfl⟩ := mapError_eq_error_iff.mp unread
    rfl
  rcases bind_eq_error_iff.mp later with faulty | ⟨_,_,later⟩
  · obtain ⟨_,_,rfl⟩ := mapError_eq_error_iff.mp faulty
    rfl
  rcases bind_eq_error_iff.mp later with unusable | ⟨_,_,later⟩
  · obtain ⟨_,_,rfl⟩ := mapError_eq_error_iff.mp unusable
    rfl
  cases found : settings.server.endpoint? with
  | none =>
      rw [found] at later
      cases later
      rfl
  | some endpoint =>
      rw [found] at later
      cases later

-- The period of grace counts to the end of its last millisecond.
theorem drain_eq_some_iff {waits : Option (List Nat)} {grace : Duration} {total : Nat} :
    drain waits grace = some total ↔ ∃ listed, waits = some listed ∧
      total = listed.foldl (· + ·) 0 ∧ total * 1000000 < grace.toNanos + 1000000 := by
  have within : total ≤ grace.millisCeil ↔ total * 1000000 < grace.toNanos + 1000000 := by
    rw [Duration.millisCeil]
    omega
  rw [drain,Option.filter_eq_some_iff,decide_eq_true_eq,within]
  cases waits with
  | none => simp
  | some listed => simp [eq_comm]

variable {canBind : Endpoint → Bool} {fate : Fate} {grace : Duration}

inductive Reports : Ending → UInt8 → Prop where
  | served : Reports .served 0
  | failed : Reports .failed 70
  | crashed : Reports .crashed 70

theorem exitCode_eq_iff {ending : Ending} {code : UInt8} :
    ending.exitCode = code ↔ Reports ending code := by
  constructor
  · rintro rfl
    cases ending with
    | served => exact .served
    | failed => exact .failed
    | crashed => exact .crashed
  · intro reported
    cases reported <;> rfl

-- Being cut off is no error, whatever the server would have come to.
inductive Closes (grace : Duration) : Fate → Outcome → Prop where
  | runs : Closes grace .runs .keepsRunning
  | ends {ending : Ending} {code : UInt8} (reported : Reports ending code) :
      Closes grace (.ends ending) (.exits code)
  | drained {waits : List Nat} {ending : Ending} {code : UInt8}
      (inTime : waits.foldl (· + ·) 0 * 1000000 < grace.toNanos + 1000000)
      (reported : Reports ending code) : Closes grace (.signalled (some waits) ending) (.exits code)
  | cutOff {waits : Option (List Nat)} {ending : Ending}
      (late : ∀ listed, waits = some listed →
        grace.toNanos + 1000000 ≤ listed.foldl (· + ·) 0 * 1000000) :
      Closes grace (.signalled waits ending) (.exits 0)

theorem closes_close (grace : Duration) (fate : Fate) : Closes grace fate (close grace fate) := by
  cases fate with
  | runs => exact .runs
  | ends ending => exact .ends (exitCode_eq_iff.mp rfl)
  | signalled waits ending =>
      simp only [close]
      cases drained : drain waits grace with
      | some total =>
          obtain ⟨listed,rfl,rfl,inTime⟩ := drain_eq_some_iff.mp drained
          exact .drained inTime (exitCode_eq_iff.mp rfl)
      | none =>
          refine .cutOff fun listed given => Nat.not_lt.mp fun inTime => ?_
          cases drained.symm.trans (drain_eq_some_iff.mpr ⟨listed,given,rfl,inTime⟩)

theorem Closes.unique {one other : Outcome} (closes : Closes grace fate one)
    (also : Closes grace fate other) : one = other := by
  cases closes with
  | runs =>
      cases also
      rfl
  | ends reported =>
      cases also with
      | ends again => rw [← exitCode_eq_iff.mpr reported,exitCode_eq_iff.mpr again]
  | drained inTime reported =>
      cases also with
      | drained _ again => rw [← exitCode_eq_iff.mpr reported,exitCode_eq_iff.mpr again]
      | cutOff late => exact absurd inTime (Nat.not_lt.mpr (late _ rfl))
  | cutOff late =>
      cases also with
      | drained inTime => exact absurd inTime (Nat.not_lt.mpr (late _ rfl))
      | cutOff => rfl

-- An environment that is not fit is refused whatever could be bound.
inductive Ends (env : Environment) (canBind : Endpoint → Bool) (fate : Fate) : Outcome → Prop where
  | refused (unfit : ∀ endpoint, ¬Fit env endpoint) : Ends env canBind fate (.exits 78)
  | unavailable {endpoint : Endpoint} (fit : Fit env endpoint)
      (taken : canBind endpoint = false) : Ends env canBind fate (.exits 69)
  | served {endpoint : Endpoint} {given : Option Duration} {outcome : Outcome}
      (fit : Fit env endpoint) (free : canBind endpoint = true)
      (graced : env.Gives "SHUTDOWN_TIMEOUT_SECS" .seconds given)
      (closes : Closes (given.getD (.seconds 10)) fate outcome) : Ends env canBind fate outcome

theorem Ends.unique {one other : Outcome} (ends : Ends env canBind fate one)
    (also : Ends env canBind fate other) : one = other := by
  cases ends with
  | refused unfit =>
      cases also with
      | refused => rfl
      | unavailable fit => exact absurd fit (unfit _)
      | served fit => exact absurd fit (unfit _)
  | unavailable fit taken =>
      cases also with
      | refused unfit => exact absurd fit (unfit _)
      | unavailable => rfl
      | served again free =>
          cases fit.addressed.unique again.addressed
          cases taken.symm.trans free
  | served fit free graced closes =>
      cases also with
      | refused unfit => exact absurd fit (unfit _)
      | unavailable again taken =>
          cases fit.addressed.unique again.addressed
          cases taken.symm.trans free
      | served _ _ again closesToo =>
          cases graced.unique again
          exact closes.unique closesToo

theorem prepare_grace {ready : Ready} (prepared : prepare entropy env = .ok ready) :
    ∃ given, env.Gives "SHUTDOWN_TIMEOUT_SECS" .seconds given ∧
      ready.settings.server.shutdownTimeout = given.getD (.seconds 10) := by
  obtain ⟨overrides,read,_,same⟩ := Overrides.of_accepted (prepare_eq_ok_iff.mp prepared).1
  refine ⟨overrides.shutdownTimeout,read.shutdownTimeout,?_⟩
  rw [same]
  rfl

theorem run_ends : Ends env canBind fate (run entropy env canBind fate) := by
  cases prepared : prepare entropy env with
  | error refusal =>
      have stopped : run entropy env canBind fate = .exits refusal.exitCode := by
        rw [run,prepared]
        rfl
      rw [stopped,exitCode_of_prepare prepared]
      refine .refused fun endpoint fit => ?_
      obtain ⟨_,passed,_⟩ := prepare_fit.mpr fit
      cases prepared.symm.trans passed
  | ok ready =>
      have fit : Fit env ready.endpoint := prepare_fit.mp ⟨ready,prepared,rfl⟩
      have asks : (prepare entropy env).bind (bind canBind) = bind canBind ready := by
        rw [prepared]
        rfl
      cases asked : canBind ready.endpoint with
      | true =>
          have bound : bind canBind ready = .ok ready := by rw [bind,if_pos asked]
          obtain ⟨given,graced,same⟩ := prepare_grace prepared
          rw [run,asks,bound]
          exact .served fit asked graced (same ▸ closes_close _ fate)
      | false =>
          have taken : bind canBind ready = .error (.unavailable ready.endpoint) := by
            rw [bind,asked]
            rfl
          rw [run,asks,taken]
          exact .unavailable fit asked

theorem run_refused_iff : run entropy env canBind fate = .exits 78 ↔
    ∀ endpoint, ¬Fit env endpoint := by
  have ends : Ends env canBind fate (run entropy env canBind fate) := run_ends
  constructor
  · intro stopped endpoint fit
    rw [stopped] at ends
    generalize outcome : Outcome.exits 78 = refused at ends
    cases ends with
    | refused unfit => exact unfit endpoint fit
    | unavailable => cases outcome
    | served _ _ _ closes =>
        rw [← outcome] at closes
        cases closes with
        | ends reported => cases reported
        | drained _ reported => cases reported
  · intro unfit
    exact ends.unique (.refused unfit)

theorem starts_exactly (entropy : Nat → Bytes) (env : Environment) :
    (∀ endpoint, (∃ ready, prepare entropy env = .ok ready ∧ ready.endpoint = endpoint) ↔
      Fit env endpoint) ∧
    (∀ canBind fate outcome,
      run entropy env canBind fate = outcome ↔ Ends env canBind fate outcome) ∧
    ∀ settings, Settings.ofEnvironment env = .ok settings →
      ∀ error, settings.server.check = .error error ↔
        (env.GivesFiles ∧ env.GivesDomains) ∧
          error = .certificates "manual certificates and automatic TLS are mutually exclusive" := by
  refine ⟨fun endpoint => prepare_fit,?_,?_⟩
  · intro canBind fate outcome
    refine ⟨?_,fun ends => run_ends.unique ends⟩
    rintro rfl
    exact run_ends
  · intro settings accepted error
    obtain ⟨overrides,read,_,rfl⟩ := Overrides.of_accepted accepted
    exact read.check_server

-- The newer family needs brackets: with a port behind it a bare address is none.
example : run (fun _ => []) (.ofTable [("HOST","::1")]) (fun _ => true) .runs = .exits 78 := rfl

end Launch

end HttpLayers
