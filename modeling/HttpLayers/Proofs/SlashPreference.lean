import HttpLayers.Policy.TrailingSlash
import HttpLayers.Proofs.Trim

-- A path whose end is not as preferred is brought to one whose end is, so whoever follows the redirect
-- is not redirected again. The root is the exception: it has its slash under either preference.

namespace HttpLayers.TrailingSlash

open Text

variable {policy : TrailingSlash} {path preferred stem : List Char}

-- What stands before the slashes that a path ends with, however many they are.
inductive Stem (stem : List Char) : List Char → Prop where
  | slashes (bare : stem.getLast? ≠ some '/') (n : Nat) : Stem stem (stem ++ List.replicate n '/')

theorem Stem.dropped (isStem : Stem stem path) : dropEndWhile (· == '/') path = stem := by
  cases isStem with
  | slashes bare n =>
      have slashes : ∀ c ∈ List.replicate n '/', (c == '/') = true := by
        intro c member
        rw [List.eq_of_mem_replicate member]
        rfl
      have ends : ∀ c, stem.getLast? = some c → (c == '/') = false := by
        intro c last
        rw [beq_eq_false_iff_ne]
        rintro rfl
        exact bare last
      rw [dropEndWhile_append_of_all _ slashes,dropEndWhile_of_ends ends]

theorem exists_stem (path : List Char) : ∃ stem, Stem stem path := by
  obtain ⟨tail,whole,slashes⟩ := dropEndWhile_append_exists (· == '/') path
  have bare : (dropEndWhile (· == '/') path).getLast? ≠ some '/' := by
    intro last
    cases dropEndWhile_ends (p := (· == '/')) path '/' last
  have same : tail = List.replicate tail.length '/' :=
    List.eq_replicate_iff.mpr ⟨rfl,fun c member => beq_iff_eq.mp (slashes c member)⟩
  refine ⟨dropEndWhile (· == '/') path,?_⟩
  have isStem := Stem.slashes bare tail.length
  rwa [← same,← whole] at isStem

-- The ways to the preferred form; nothing but slashes comes down to a single one.
inductive Prefers (policy : TrailingSlash) : List Char → List Char → Prop where
  | added {path : List Char} (wanted : policy.preferTrailingSlash = true) (present : path ≠ [])
      (bare : path.getLast? ≠ some '/') : Prefers policy path (path ++ ['/'])
  | removed {stem : List Char} (unwanted : policy.preferTrailingSlash = false)
      (present : stem ≠ []) (bare : stem.getLast? ≠ some '/') (n : Nat) :
      Prefers policy (stem ++ List.replicate (n + 1) '/') stem
  | root (unwanted : policy.preferTrailingSlash = false) (n : Nat) :
      Prefers policy (List.replicate (n + 2) '/') ['/']

theorem withoutSlash_stem (isStem : Stem stem path) :
    withoutSlash path = if stem = [] then ['/'] else stem := by
  rw [withoutSlash,isStem.dropped]
  cases stem <;> rfl

theorem preferred?_eq_none_iff : policy.preferred? path = none ↔ path = [] ∨ path = ['/'] ∨
    (path.getLast? = some '/' ↔ policy.preferTrailingSlash = true) := by
  unfold preferred?
  split
  · rename_i kept
    rw [← or_assoc]
    exact ⟨fun _ => .inl kept,fun _ => rfl⟩
  · rename_i changeable
    have tested : path.getLast? = some '/' ↔ (path.getLast? == some '/') = true := beq_iff_eq.symm
    rw [← or_assoc,or_iff_right changeable,tested]
    generalize (path.getLast? == some '/') = slash
    cases policy.preferTrailingSlash <;> cases slash <;> simp

theorem preferred?_prefers (found : policy.preferred? path = some preferred) :
    Prefers policy path preferred := by
  unfold preferred? at found
  split at found
  · cases found
  · rename_i changeable
    rw [not_or] at changeable
    split at found
    · rename_i wanted bare
      cases found
      exact .added wanted changeable.1 (by simpa using bare)
    · rename_i unwanted slash
      obtain ⟨stem,isStem⟩ := exists_stem path
      rw [withoutSlash_stem isStem] at found
      cases found
      cases isStem with
      | slashes bare n =>
          split
          · rename_i nothing
            subst nothing
            obtain _ | _ | n := n
            · exact absurd rfl changeable.1
            · exact absurd rfl changeable.2
            · exact .root unwanted n
          · rename_i present
            cases n with
            | zero => exact absurd (by simpa using slash) bare
            | succ n => exact .removed unwanted present bare n
    · cases found

theorem Prefers.differs (prefers : Prefers policy path preferred) : preferred ≠ path := by
  intro same
  have length := congrArg List.length same
  cases prefers with
  | added => simp at length
  | removed => simp at length
  | root => simp at length

theorem Prefers.sameStem (prefers : Prefers policy path preferred) :
    ∃ stem, Stem stem preferred ∧ Stem stem path := by
  cases prefers with
  | added _ _ bare => exact ⟨path,.slashes bare 1,by simpa using Stem.slashes bare 0⟩
  | removed _ _ bare n => exact ⟨preferred,by simpa using Stem.slashes bare 0,.slashes bare (n + 1)⟩
  | root _ n =>
      have bare : ([] : List Char).getLast? ≠ some '/' := nofun
      exact ⟨[],.slashes bare 1,.slashes bare (n + 2)⟩

theorem Prefers.settled (prefers : Prefers policy path preferred) : preferred = ['/'] ∨
    (preferred.getLast? = some '/' ↔ policy.preferTrailingSlash = true) := by
  cases prefers with
  | added wanted => exact .inr (by simp [wanted])
  | removed unwanted _ bare => exact .inr (by simp [unwanted,bare])
  | root => exact .inl rfl

theorem redirected_once (policy : TrailingSlash) (path : List Char) :
    (policy.preferred? path = none ↔ path = [] ∨ path = ['/'] ∨
      (path.getLast? = some '/' ↔ policy.preferTrailingSlash = true)) ∧
    ∀ preferred, policy.preferred? path = some preferred →
      preferred ≠ path ∧ (∃ stem, Stem stem preferred ∧ Stem stem path) ∧
      (preferred = ['/'] ∨
        (preferred.getLast? = some '/' ↔ policy.preferTrailingSlash = true)) ∧
      policy.preferred? preferred = none := by
  refine ⟨preferred?_eq_none_iff,?_⟩
  intro preferred found
  have prefers := preferred?_prefers found
  exact ⟨prefers.differs,prefers.sameStem,prefers.settled,
    preferred?_eq_none_iff.mpr (.inr prefers.settled)⟩

end HttpLayers.TrailingSlash
