import HttpLayers.Policies
import HttpLayers.Proofs.BodyLimit

-- What is asked of the values, in the order in which it is looked at. Those who use the values pass over
-- a range that cannot be read and replace a status code that is none; where all requirements are met
-- they find neither.

namespace HttpLayers

open Http Net

theorem Duration.isZero_eq_false_iff {duration : Duration} :
    duration.isZero = false ↔ 0 < duration.toNanos := by
  have zero : duration.secs = 0 ↔ duration.secs.toNat = 0 := UInt64.toNat_inj.symm
  simp only [isZero,toNanos,Bool.and_eq_false_iff,beq_eq_false_iff_ne,ne_eq,zero]
  omega

namespace Policies

structure Requirement where
  Met : Prop
  -- what is said where it is not met
  problem : String

namespace Requirement

def quantity (name : String) (Met : Prop) : Requirement where
  Met := Met
  problem := name ++ " must be greater than 0"

def status (purpose : String) (code : UInt16) : Requirement where
  Met := 100 ≤ code.toNat ∧ code.toNat ≤ 599
  problem := purpose ++ " " ++ toString code.toNat ++ " is not a valid HTTP status"

def range (entry : String) : Requirement where
  Met := ∃ range, Cidr.ofText? entry.toList = some range
  problem := "invalid trusted proxy CIDR '" ++ entry ++ "'"

-- The faults found are those of the requirements that are not met, in their order, and each is reported
-- in the words of its requirement.
inductive Unmet : List Requirement → List Fault → Prop where
  | done : Unmet [] []
  | met {requirement : Requirement} {rest : List Requirement} {faults : List Fault}
      (holds : requirement.Met) (later : Unmet rest faults) : Unmet (requirement :: rest) faults
  | unmet {requirement : Requirement} {rest : List Requirement} {fault : Fault}
      {faults : List Fault} (fails : ¬requirement.Met) (worded : fault.problem = requirement.problem)
      (later : Unmet rest faults) : Unmet (requirement :: rest) (fault :: faults)

theorem Unmet.append {first second : List Requirement} {faults others : List Fault}
    (one : Unmet first faults) (other : Unmet second others) :
    Unmet (first ++ second) (faults ++ others) := by
  induction one with
  | done => exact other
  | met holds _ ih => exact .met holds ih
  | unmet fails worded _ ih => exact .unmet fails worded ih

theorem Unmet.of_filter {α : Type} (bad : α → Bool) (made : α → Requirement) (found : α → Fault)
    (exact : ∀ item, bad item = true ↔ ¬(made item).Met)
    (worded : ∀ item, (found item).problem = (made item).problem) (items : List α) :
    Unmet (items.map made) ((items.filter bad).map found) := by
  induction items with
  | nil => exact .done
  | cons item rest ih =>
      by_cases fails : bad item = true
      · rw [List.filter_cons_of_pos fails]
        exact .unmet ((exact item).mp fails) (worded item) ih
      · rw [List.filter_cons_of_neg fails]
        exact .met (Classical.not_not.mp (mt (exact item).mpr fails)) ih

theorem Unmet.eq_nil_iff {requirements : List Requirement} {faults : List Fault}
    (unmet : Unmet requirements faults) :
    faults = [] ↔ ∀ requirement ∈ requirements, requirement.Met := by
  induction unmet with
  | done => simp
  | met holds _ ih => simp [ih,holds]
  | unmet fails => simp [fails]

theorem Unmet.head?_iff {requirements : List Requirement} {faults : List Fault} {problem : String}
    (unmet : Unmet requirements faults) :
    faults.head?.map Fault.problem = some problem ↔ ∃ earlier requirement later,
      requirements = earlier ++ requirement :: later ∧ (∀ passed ∈ earlier, passed.Met) ∧
      ¬requirement.Met ∧ problem = requirement.problem := by
  induction unmet with
  | done => simp
  | @met first rest faults holds _ ih =>
      rw [ih]
      constructor
      · intro found
        obtain ⟨earlier,requirement,later,rfl,passed,fails,same⟩ := found
        exact ⟨first :: earlier,requirement,later,rfl,List.forall_mem_cons.mpr ⟨holds,passed⟩,
          fails,same⟩
      · intro found
        obtain ⟨earlier,requirement,later,cut,passed,fails,same⟩ := found
        cases earlier with
        | nil =>
            cases cut
            exact absurd holds fails
        | cons other earlier =>
            cases cut
            exact ⟨earlier,requirement,later,rfl,(List.forall_mem_cons.mp passed).2,fails,same⟩
  | @unmet first rest fault faults fails worded _ _ =>
      rw [List.head?_cons,Option.map_some,Option.some.injEq,worded]
      constructor
      · intro same
        exact ⟨[],first,rest,rfl,List.forall_mem_nil _,fails,same.symm⟩
      · intro found
        obtain ⟨earlier,requirement,later,cut,passed,_,rfl⟩ := found
        cases earlier with
        | nil =>
            cases cut
            rfl
        | cons other earlier =>
            cases cut
            exact absurd (passed first (List.mem_cons_self ..)) fails

end Requirement

open Requirement

def positive (policies : Policies) : List Requirement :=
  [quantity "rate limit rate" (0 < policies.rateLimit.rate),
   quantity "rate limit window" (0 < policies.rateLimit.window.toNanos),
   quantity "circuit breaker failure threshold" (0 < policies.circuitBreaker.failureThreshold),
   quantity "circuit breaker success threshold" (0 < policies.circuitBreaker.successThreshold)]

def statuses (policies : Policies) : List Requirement :=
  [status "rate limit status code" policies.rateLimit.statusCode,
   status "circuit breaker open status code" policies.circuitBreaker.openStatusCode,
   status "body limit status code" policies.bodyLimit.statusCode,
   status "content charset status code" policies.contentCharset.statusCode,
   status "content encoding status code" policies.contentEncoding.statusCode,
   status "content type status code" policies.contentType.statusCode,
   status "recover status code" policies.recover.statusCode,
   status "timeout status code" policies.timeout.statusCode,
   status "trailing slash redirect code" policies.trailingSlash.redirectCode]

def requirements (policies : Policies) : List Requirement :=
  policies.positive ++ policies.statuses ++ (policies.realIp.trustedProxies.getD []).map range

variable {policies : Policies}

theorem quantities_unmet (policies : Policies) :
    Unmet policies.positive ((policies.quantities.filter fun quantity => !quantity.2).map
      fun quantity => .notPositive quantity.1) := by
  have tested := Unmet.of_filter (fun tested : String × Bool => !tested.2)
    (fun tested => quantity tested.1 (tested.2 = true)) (fun tested => .notPositive tested.1)
    (by simp [quantity]) (fun _ => rfl) policies.quantities
  simpa [quantities,positive,quantity,Duration.isZero_eq_false_iff] using tested

theorem isStatus_iff {code : UInt16} :
    isStatus code = true ↔ 100 ≤ code.toNat ∧ code.toNat ≤ 599 := by
  simp [isStatus,UInt16.le_iff_toNat_le]

theorem statusCodes_unmet (policies : Policies) :
    Unmet policies.statuses ((policies.statusCodes.filter fun status => !isStatus status.2).map
      fun status => .badStatus status.1 status.2) := by
  refine Unmet.of_filter (fun given : String × UInt16 => !isStatus given.2)
    (fun given => status given.1 given.2) (fun given => .badStatus given.1 given.2) ?_
    (fun _ => rfl) policies.statusCodes
  intro given
  rw [Bool.not_eq_true',← Bool.not_eq_true,isStatus_iff]
  rfl

theorem ranges_unmet (entries : List String) :
    Unmet (entries.map range)
      ((entries.filter fun entry => (Cidr.ofText? entry.toList).isNone).map .badRange) :=
  Unmet.of_filter (fun entry : String => (Cidr.ofText? entry.toList).isNone) range .badRange
    (by simp [range,Option.eq_none_iff_forall_ne_some]) (fun _ => rfl) entries

theorem faults_unmet (policies : Policies) : Unmet policies.requirements policies.faults :=
  ((quantities_unmet policies).append (statusCodes_unmet policies)).append (ranges_unmet _)

theorem check_eq_error_iff {error : SettingsError} :
    policies.check = .error error ↔
      ∃ problem, policies.faults.head?.map Fault.problem = some problem ∧
        error = .unfit problem := by
  unfold check
  cases policies.faults.head? with
  | none => simp
  | some fault => simp [Fault.toError,eq_comm]

theorem check_passes_iff :
    policies.check = .ok () ↔ ∀ requirement ∈ policies.requirements, requirement.Met := by
  rw [← (faults_unmet policies).eq_nil_iff]
  unfold check
  cases policies.faults with
  | nil => simp
  | cons fault rest => simp

end Policies

namespace RealIp

theorem trusted_eq_everyone_iff {policy : RealIp} :
    policy.trusted = .everyone ↔ policy.trustedProxies = none := by
  unfold trusted
  cases policy.trustedProxies with
  | none => simp
  | some entries => simp

theorem filterMap_readable {α β : Type} {read : α → Option β} {entries : List α}
    (readable : ∀ entry ∈ entries, ∃ value, read entry = some value) :
    entries.map read = (entries.filterMap read).map some := by
  induction entries with
  | nil => rfl
  | cons entry rest ih =>
      obtain ⟨first,others⟩ := List.forall_mem_cons.mp readable
      obtain ⟨value,found⟩ := first
      rw [List.map_cons,List.filterMap_cons_some found,List.map_cons,found,ih others]

theorem trusted_readable {policy : RealIp} {entries : List String}
    (configured : policy.trustedProxies = some entries)
    (readable : ∀ entry ∈ entries, ∃ range, Cidr.ofText? entry.toList = some range) :
    ∃ ranges, policy.trusted = .ranges ranges ∧
      entries.map (fun entry => Cidr.ofText? entry.toList) = ranges.map some := by
  refine ⟨_,?_,filterMap_readable readable⟩
  rw [trusted,configured]

end RealIp

namespace BodyLimit

theorem rejection_configured {policy : BodyLimit}
    (code : 100 ≤ policy.statusCode.toNat ∧ policy.statusCode.toNat ≤ 599) :
    policy.rejection = .ofText policy.statusCode policy.message := by
  have most : policy.statusCode.toNat ≤ 999 := Nat.le_trans code.2 (by decide)
  rw [rejection,rejectionStatus,if_pos]
  simp [UInt16.le_iff_toNat_le,code.1,most]

end BodyLimit

namespace Policies

open Requirement

theorem check_exact {m : Type → Type} [Monad m] (policies : Policies) :
    (policies.check = .ok () ↔ ∀ requirement ∈ policies.requirements, requirement.Met) ∧
    (∀ error, policies.check = .error error ↔ ∃ earlier requirement later,
      policies.requirements = earlier ++ requirement :: later ∧
      (∀ passed ∈ earlier, passed.Met) ∧ ¬requirement.Met ∧
      error = .unfit requirement.problem) ∧
    (policies.check = .ok () →
      (policies.realIp.trusted = .everyone ↔ policies.realIp.trustedProxies = none) ∧
      (∀ entries, policies.realIp.trustedProxies = some entries → ∃ ranges,
        policies.realIp.trusted = .ranges ranges ∧
        entries.map (fun entry => Cidr.ofText? entry.toList) = ranges.map some) ∧
      ∀ (inner : Service m) (request : Request),
        (policies.bodyLimit.DeclaresTooMuch request → policies.bodyLimit.layer inner request =
          pure (.ofText policies.bodyLimit.statusCode policies.bodyLimit.message)) ∧
        (¬policies.bodyLimit.DeclaresTooMuch request → policies.bodyLimit.layer inner request =
          (fun response =>
              if response.status = 413 then
                .ofText policies.bodyLimit.statusCode policies.bodyLimit.message
              else response) <$>
            inner { request with readCap := policies.bodyLimit.readCap })) := by
  refine ⟨check_passes_iff,?errors,?passed⟩
  case errors =>
    intro error
    rw [check_eq_error_iff]
    simp only [(faults_unmet policies).head?_iff]
    constructor
    · intro found
      obtain ⟨_,⟨earlier,requirement,later,cut,passed,fails,rfl⟩,same⟩ := found
      exact ⟨earlier,requirement,later,cut,passed,fails,same⟩
    · intro found
      obtain ⟨earlier,requirement,later,cut,passed,fails,same⟩ := found
      exact ⟨_,⟨earlier,requirement,later,cut,passed,fails,rfl⟩,same⟩
  case passed =>
    intro checked
    have met := check_passes_iff.mp checked
    have code := met (status "body limit status code" policies.bodyLimit.statusCode)
      (by simp [requirements,statuses])
    have rejected := BodyLimit.rejection_configured code
    refine ⟨RealIp.trusted_eq_everyone_iff,?_,?_⟩
    · intro entries configured
      apply RealIp.trusted_readable configured
      intro entry listed
      refine met (range entry) (List.mem_append_right _ (List.mem_map_of_mem ?_))
      rw [configured]
      exact listed
    · intro inner request
      rw [← rejected]
      exact ⟨fun refused => BodyLimit.layer_refused refused inner,
        fun passed => BodyLimit.layer_passed passed inner⟩

end Policies

end HttpLayers
