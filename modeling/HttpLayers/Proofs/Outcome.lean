-- Steps that can fail, taken apart: where a step succeeds all before it has, and the first failure is
-- what is left of a run.

namespace HttpLayers.Outcome

variable {ε δ α β : Type}

theorem bind_eq_ok_iff {x : Except ε α} {f : α → Except ε β} {b : β} :
    (x >>= f) = .ok b ↔ ∃ a, x = .ok a ∧ f a = .ok b := by
  cases x with
  | error e => exact ⟨nofun,fun found => nomatch found.choose_spec.1⟩
  | ok a => exact ⟨fun after => ⟨a,rfl,after⟩,by rintro ⟨_,⟨⟩,after⟩; exact after⟩

theorem bind_eq_error_iff {x : Except ε α} {f : α → Except ε β} {e : ε} :
    (x >>= f) = .error e ↔ x = .error e ∨ ∃ a, x = .ok a ∧ f a = .error e := by
  cases x with
  | error stopped =>
      constructor
      · intro failed
        cases failed
        exact .inl rfl
      · intro failed
        rcases failed with same | ⟨_,passed,_⟩
        · cases same
          rfl
        · cases passed
  | ok a =>
      constructor
      · exact fun after => .inr ⟨a,rfl,after⟩
      · intro failed
        rcases failed with stopped | ⟨_,passed,after⟩
        · cases stopped
        · cases passed
          exact after

theorem map_eq_ok_iff {x : Except ε α} {f : α → β} {b : β} :
    x.map f = .ok b ↔ ∃ a, x = .ok a ∧ f a = b := by
  cases x <;> simp [Except.map]

theorem map_eq_error_iff {x : Except ε α} {f : α → β} {e : ε} :
    x.map f = .error e ↔ x = .error e := by
  cases x <;> simp [Except.map]

theorem mapError_eq_ok_iff {x : Except ε α} {f : ε → δ} {a : α} :
    x.mapError f = .ok a ↔ x = .ok a := by
  cases x with
  | error e => exact ⟨nofun,nofun⟩
  | ok b => exact ⟨fun same => by cases same; rfl,fun same => by cases same; rfl⟩

theorem mapError_eq_error_iff {x : Except ε α} {f : ε → δ} {d : δ} :
    x.mapError f = .error d ↔ ∃ e, x = .error e ∧ f e = d := by
  cases x with
  | error e =>
      constructor
      · intro failed
        cases failed
        exact ⟨e,rfl,rfl⟩
      · intro failed
        obtain ⟨_,same,rfl⟩ := failed
        cases same
        rfl
  | ok b => exact ⟨nofun,nofun⟩

-- Whether it succeeded, and the failure if not.
def verdict (x : Except ε α) : Except ε Unit :=
  x.map fun _ => ()

theorem verdict_eq_ok_iff {x : Except ε α} : verdict x = .ok () ↔ ∃ a, x = .ok a := by
  rw [verdict,map_eq_ok_iff]
  simp

theorem verdict_eq_error_iff {x : Except ε α} {e : ε} : verdict x = .error e ↔ x = .error e :=
  map_eq_error_iff

theorem verdict_map {x : Except ε α} {f : α → β} : verdict (x.map f) = verdict x := by
  cases x <;> rfl

-- Where the result of a step does not matter to whether the later ones succeed.
theorem verdict_bind {x : Except ε α} {f : α → Except ε β} {rest : Except ε Unit}
    (later : ∀ a, verdict (f a) = rest) : verdict (x >>= f) = verdict x >>= fun _ => rest := by
  cases x with
  | error e => rfl
  | ok a => exact later a

-- One step after the other, up to the first that fails.
def inTurn (run : α → Except ε Unit) : List α → Except ε Unit
  | [] => .ok ()
  | step :: rest => run step >>= fun _ => inTurn run rest

variable {run : α → Except ε Unit} {steps : List α}

theorem inTurn_append {first second : List α} :
    inTurn run (first ++ second) = inTurn run first >>= fun _ => inTurn run second := by
  induction first with
  | nil => rfl
  | cons step rest ih =>
      rw [List.cons_append,inTurn,inTurn,ih]
      cases run step <;> rfl

theorem inTurn_eq_ok_iff : inTurn run steps = .ok () ↔ ∀ step ∈ steps, run step = .ok () := by
  induction steps with
  | nil => exact ⟨fun _ => List.forall_mem_nil _,fun _ => rfl⟩
  | cons step rest ih =>
      rw [inTurn,bind_eq_ok_iff,List.forall_mem_cons,← ih]
      exact ⟨fun ⟨_,first,others⟩ => ⟨first,others⟩,fun ⟨first,others⟩ => ⟨(),first,others⟩⟩

theorem inTurn_eq_error_iff {e : ε} :
    inTurn run steps = .error e ↔ ∃ earlier step later, steps = earlier ++ step :: later ∧
      (∀ passed ∈ earlier, run passed = .ok ()) ∧ run step = .error e := by
  induction steps with
  | nil => exact ⟨nofun,fun ⟨_,_,_,cut,_⟩ => absurd cut (by simp)⟩
  | cons step rest ih =>
      rw [inTurn]
      cases first : run step with
      | error stopped =>
          constructor
          · rintro ⟨⟩
            exact ⟨[],step,rest,rfl,List.forall_mem_nil _,first⟩
          · rintro ⟨earlier,failing,later,cut,passed,failed⟩
            cases earlier with
            | nil =>
                cases cut
                exact first.symm.trans failed
            | cons other earlier =>
                cases cut
                cases first.symm.trans (passed step (List.mem_cons_self ..))
      | ok done =>
          change inTurn run rest = .error e ↔ _
          rw [ih]
          constructor
          · rintro ⟨earlier,failing,later,rfl,passed,failed⟩
            exact ⟨step :: earlier,failing,later,rfl,List.forall_mem_cons.mpr ⟨first,passed⟩,failed⟩
          · rintro ⟨earlier,failing,later,cut,passed,failed⟩
            cases earlier with
            | nil =>
                cases cut
                cases first.symm.trans failed
            | cons other earlier =>
                cases cut
                exact ⟨earlier,failing,later,rfl,(List.forall_mem_cons.mp passed).2,failed⟩

end HttpLayers.Outcome
