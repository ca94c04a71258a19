import HttpLayers.Environment
import HttpLayers.Proofs.Outcome

-- What a variable has to say: nothing where it is not set or blank, else its text without the blanks
-- around it. The text stands for a value of the form that is asked for, or is at fault.

namespace HttpLayers

open Outcome Text

-- A way to write values. The reader is exact on both sides, so two readings of one text agree.
structure Form (α : Type) where
  read : List Char → Except String α
  Denotes : List Char → α → Prop
  Spoils : List Char → String → Prop
  read_eq_ok_iff : ∀ {text value}, read text = .ok value ↔ Denotes text value
  read_eq_error_iff : ∀ {text problem}, read text = .error problem ↔ Spoils text problem

namespace Environment

variable {α β : Type} {env : Environment} {name : String}

inductive Holds (env : Environment) (name : String) : List Char → Prop where
  | text {value : String} (isSet : env name = some value) (present : trim value.toList ≠ []) :
      Holds env name (trim value.toList)

theorem get?_exact {text : List Char} : env.get? name = some text ↔ env.Holds name text := by
  rw [get?,Option.filter_eq_some_iff,Option.map_eq_some_iff]
  constructor
  · intro found
    obtain ⟨⟨value,isSet,rfl⟩,present⟩ := found
    exact .text isSet (by simpa using present)
  · intro holds
    cases holds with
    | text isSet present => exact ⟨⟨_,isSet,rfl⟩,by simpa using present⟩

theorem get?_eq_none_iff : env.get? name = none ↔ ∀ text, ¬env.Holds name text := by
  rw [Option.eq_none_iff_forall_ne_some]
  exact forall_congr' fun text => not_congr get?_exact

theorem Holds.unique {one other : List Char} (holds : env.Holds name one)
    (also : env.Holds name other) : one = other :=
  Option.some.inj ((get?_exact.mpr holds).symm.trans (get?_exact.mpr also))

-- What a variable gives for a form.
inductive Gives (env : Environment) (name : String) (form : Form α) : Option α → Prop where
  | nothing (blank : ∀ text, ¬env.Holds name text) : Gives env name form none
  | value {text : List Char} {value : α} (holds : env.Holds name text)
      (denoted : form.Denotes text value) : Gives env name form (some value)

theorem read?_eq_ok_iff {form : Form α} {given : Option α} :
    env.read? name form.read = .ok given ↔ env.Gives name form given := by
  unfold read?
  cases found : env.get? name with
  | none =>
      have blank := get?_eq_none_iff.mp found
      constructor
      · intro read
        cases read
        exact .nothing blank
      · intro gives
        cases gives with
        | nothing => rfl
        | value holds => exact absurd holds (blank _)
  | some text =>
      have holds := get?_exact.mp found
      constructor
      · intro read
        obtain ⟨value,accepted,rfl⟩ := map_eq_ok_iff.mp read
        exact .value holds (form.read_eq_ok_iff.mp (mapError_eq_ok_iff.mp accepted))
      · intro gives
        cases gives with
        | nothing blank => exact absurd holds (blank _)
        | value also denoted =>
            cases holds.unique also
            exact map_eq_ok_iff.mpr ⟨_,mapError_eq_ok_iff.mpr (form.read_eq_ok_iff.mpr denoted),rfl⟩

theorem read?_eq_error_iff {form : Form α} {error : SettingsError} :
    env.read? name form.read = .error error ↔
      ∃ text problem, env.Holds name text ∧ form.Spoils text problem ∧
        error = .unreadable name problem := by
  unfold read?
  cases found : env.get? name with
  | none =>
      refine ⟨nofun,?_⟩
      intro blamed
      obtain ⟨text,_,holds,_⟩ := blamed
      exact absurd holds (get?_eq_none_iff.mp found text)
  | some text =>
      refine map_eq_error_iff.trans (mapError_eq_error_iff.trans ?_)
      constructor
      · intro blamed
        obtain ⟨problem,read,rfl⟩ := blamed
        exact ⟨text,problem,get?_exact.mp found,form.read_eq_error_iff.mp read,rfl⟩
      · intro blamed
        obtain ⟨_,problem,holds,spoils,rfl⟩ := blamed
        cases holds.unique (get?_exact.mp found)
        exact ⟨problem,form.read_eq_error_iff.mpr spoils,rfl⟩

theorem read?_succeeds_iff {form : Form α} :
    (∃ given, env.read? name form.read = .ok given) ↔
      ∀ text, env.Holds name text → ∃ value, form.Denotes text value := by
  constructor
  · intro succeeds text holds
    obtain ⟨given,read⟩ := succeeds
    cases read?_eq_ok_iff.mp read with
    | nothing blank => exact absurd holds (blank text)
    | value also denoted =>
        cases holds.unique also
        exact ⟨_,denoted⟩
  · intro denoted
    cases found : env.get? name with
    | none => exact ⟨none,read?_eq_ok_iff.mpr (.nothing (get?_eq_none_iff.mp found))⟩
    | some text =>
        have holds := get?_exact.mp found
        obtain ⟨value,stands⟩ := denoted text holds
        exact ⟨some value,read?_eq_ok_iff.mpr (.value holds stands)⟩

theorem Gives.unique {form : Form α} {one other : Option α} (gives : env.Gives name form one)
    (also : env.Gives name form other) : one = other :=
  Except.ok.inj ((read?_eq_ok_iff.mpr gives).symm.trans (read?_eq_ok_iff.mpr also))

theorem Holds.ne_nil {text : List Char} (holds : env.Holds name text) : text ≠ [] := by
  cases holds with
  | text _ present => exact present

theorem Gives.isSome_iff {form : Form α} {given : Option α} (gives : env.Gives name form given) :
    given.isSome = true ↔ ∃ text, env.Holds name text := by
  cases gives with
  | nothing blank => exact ⟨nofun,fun ⟨text,holds⟩ => absurd holds (blank text)⟩
  | value holds _ => exact ⟨fun _ => ⟨_,holds⟩,fun _ => rfl⟩

theorem Gives.eq_some_iff {form : Form α} {given : Option α} {value : α}
    (gives : env.Gives name form given) :
    given = some value ↔ ∃ text, env.Holds name text ∧ form.Denotes text value := by
  constructor
  · rintro rfl
    cases gives with
    | value holds denoted => exact ⟨_,holds,denoted⟩
  · intro found
    obtain ⟨_,holds,denoted⟩ := found
    exact gives.unique (.value holds denoted)

-- A value can be taken on after the variable has been read as well as before.
theorem read?_map {reader : List Char → Except String α} {f : α → β} :
    env.read? name (fun text => (reader text).map f) =
      (env.read? name reader).map (Option.map f) := by
  unfold read?
  cases env.get? name with
  | none => rfl
  | some text =>
      simp only
      cases reader text <;> rfl

-- Where every text will do, what is read is never at fault.
theorem read?_pure {f : List Char → α} :
    env.read? name (fun text => .ok (f text)) = .ok ((env.get? name).map f) := by
  unfold read?
  cases env.get? name <;> rfl

end Environment

end HttpLayers
