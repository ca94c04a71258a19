import HttpLayers.Proofs.Requirements
import HttpLayers.Proofs.Settings.Overrides

-- What the checks let pass, said of the values that are checked. The standard values pass.

namespace HttpLayers

open Net

namespace ServerSettings

variable {server : ServerSettings}

theorem check_eq_error_iff {error : SettingsError} :
    server.check = .error error ↔ ∃ fault, server.fault? = some fault ∧ fault.toError = error := by
  unfold check
  cases server.fault? with
  | none =>
      refine ⟨nofun,?_⟩
      rintro ⟨_,found,_⟩
      cases found
  | some fault => simp

-- Once the files have names and the domains are there, only the two together are at fault.
theorem fault?_eq_some_iff {fault : CertificateFault}
    (named : ∀ files, server.files = some files → files.certificate ≠ "" ∧ files.key ≠ "")
    (listed : ∀ automatic, server.automatic = some automatic → automatic.domains ≠ []) :
    server.fault? = some fault ↔
      (server.files.isSome = true ∧ server.automatic.isSome = true) ∧
        fault = .filesAndDomains := by
  have allNamed : (server.files.any fun files =>
      files.certificate.isEmpty || files.key.isEmpty) = false := by
    cases given : server.files with
    | none => rfl
    | some files => simpa using named files given
  unfold fault?
  rw [if_neg (Bool.not_eq_true _ ▸ allNamed)]
  cases given : server.automatic with
  | none => simp
  | some automatic =>
      have present := listed automatic given
      by_cases files : server.files.isSome = true
      · simp [files,eq_comm]
      · simp [files,present]

end ServerSettings

namespace Policies

structure Usable (policies : Policies) : Prop where
  rate : 0 < policies.rateLimit.rate
  window : policies.rateLimit.window.isZero = false
  failureThreshold : 0 < policies.circuitBreaker.failureThreshold
  successThreshold : 0 < policies.circuitBreaker.successThreshold
  statusCodes : ∀ status ∈ policies.statusCodes, isStatus status.2 = true
  ranges : ∀ entry ∈ policies.realIp.trustedProxies.getD [],
    ∃ range, Cidr.ofText? entry.toList = some range

variable {policies : Policies}

theorem usable_iff :
    policies.Usable ↔ ∀ requirement ∈ policies.requirements, requirement.Met := by
  have codes : policies.statuses =
      policies.statusCodes.map fun given => Requirement.status given.1 given.2 := rfl
  simp only [requirements,codes,positive,Requirement.quantity,Requirement.status,Requirement.range,
    List.forall_mem_append,List.forall_mem_cons,List.forall_mem_map,← isStatus_iff,
    ← Duration.isZero_eq_false_iff]
  constructor
  · intro usable
    exact ⟨⟨⟨usable.rate,usable.window,usable.failureThreshold,usable.successThreshold,
      List.forall_mem_nil _⟩,usable.statusCodes⟩,usable.ranges⟩
  · intro met
    obtain ⟨⟨⟨rate,window,failures,successes,_⟩,statuses⟩,ranges⟩ := met
    exact ⟨rate,window,failures,successes,statuses,ranges⟩

theorem check_eq_ok_iff : policies.check = .ok () ↔ policies.Usable :=
  check_passes_iff.trans usable_iff.symm

-- What is drawn from has no part in what is checked.
theorem standard_usable (entropy : Nat → Bytes) : (standard entropy).Usable :=
  have statusCodes : ∀ status ∈ (standard fun _ => []).statusCodes, isStatus status.2 = true := by
    decide
  { rate := (by decide : 0 < RateLimit.defaultRate)
    window := rfl
    failureThreshold := (by decide : 0 < CircuitBreaker.defaultFailureThreshold)
    successThreshold := (by decide : 0 < CircuitBreaker.defaultSuccessThreshold)
    statusCodes
    ranges := List.forall_mem_nil _ }

end Policies

end HttpLayers
