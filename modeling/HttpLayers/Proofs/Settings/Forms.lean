import Mathlib.Data.List.Forall2
import HttpLayers.Proofs.Integer
import HttpLayers.Proofs.Parts
import HttpLayers.Proofs.Variables
import HttpLayers.Settings

-- The forms in which variables are written, each said without its reader.

namespace HttpLayers.Form

open Outcome Text Integer

def text : Form String where
  read text := .ok (String.ofList text)
  Denotes text value := value.toList = text
  Spoils _ _ := False
  read_eq_ok_iff := by
    intro text value
    rw [Except.ok.injEq,← String.toList_inj,String.toList_ofList]
    exact eq_comm
  read_eq_error_iff := ⟨nofun,False.elim⟩

-- A number is read into words without being wrapped: the word stands for the number as written.
def port : Form UInt16 where
  read text := ((natural 65535 text).mapError Fault.message).map Nat.toUInt16
  Denotes text port := Numeral text port.toNat
  Spoils text problem := ∃ fault, NaturalFault 65535 text fault ∧ fault.message = problem
  read_eq_ok_iff := by
    intro text port
    rw [map_eq_ok_iff]
    simp only [mapError_eq_ok_iff,natural_eq_ok_iff]
    constructor
    · intro read
      obtain ⟨n,⟨numeral,small⟩,rfl⟩ := read
      rwa [UInt16.toNat_ofNat',Nat.mod_eq_of_lt (Nat.lt_succ_of_le small)]
    · intro numeral
      exact ⟨port.toNat,⟨numeral,Nat.le_of_lt_succ port.toNat_lt⟩,UInt16.ofNat_toNat⟩
  read_eq_error_iff := by
    intro text problem
    simp only [map_eq_error_iff,mapError_eq_error_iff,natural_eq_error_iff]

def seconds : Form Duration where
  read text := ((natural64 text).mapError Fault.message).map fun n => .seconds n.toUInt64
  Denotes text duration := ∃ n : UInt64, Numeral text n.toNat ∧ duration = .seconds n
  Spoils text problem :=
    ∃ fault, NaturalFault (UInt64.size - 1) text fault ∧ fault.message = problem
  read_eq_ok_iff := by
    intro text duration
    rw [map_eq_ok_iff]
    simp only [mapError_eq_ok_iff,natural64_eq_ok_iff]
    constructor
    · intro read
      obtain ⟨n,⟨numeral,small⟩,rfl⟩ := read
      refine ⟨n.toUInt64,?_,rfl⟩
      rwa [UInt64.toNat_ofNat',Nat.mod_eq_of_lt small]
    · intro read
      obtain ⟨n,numeral,rfl⟩ := read
      exact ⟨n.toNat,⟨numeral,n.toNat_lt⟩,congrArg Duration.seconds UInt64.ofNat_toNat⟩
  read_eq_error_iff := by
    intro text problem
    simp only [map_eq_error_iff,mapError_eq_error_iff,natural64,natural_eq_error_iff]

def integer : Form Int where
  read text := (signed64 text).mapError Fault.message
  Denotes text value :=
    SignedNumeral text value ∧ Int64.minValue.toInt ≤ value ∧ value ≤ Int64.maxValue.toInt
  Spoils text problem :=
    ∃ fault, SignedFault (UInt64.size / 2) (UInt64.size / 2 - 1) text fault ∧
      fault.message = problem
  read_eq_ok_iff := mapError_eq_ok_iff.trans signed_eq_ok_iff
  read_eq_error_iff := by
    intro text problem
    simp only [mapError_eq_error_iff,signed64,signed_eq_error_iff]

-- Between the commas stand the entries; blanks around them do not count, nor do those that are blank.
inductive Listed (text : List Char) : List String → Prop where
  | entries {parts : List (List Char)} (joined : [','].intercalate parts = text)
      (present : parts ≠ []) (apart : ∀ part ∈ parts, ',' ∉ part) :
      Listed text (((parts.map trim).filter fun entry => !entry.isEmpty).map String.ofList)

def list : Form (List String) where
  read text := .ok ((entries text).map String.ofList)
  Denotes := Listed
  Spoils _ _ := False
  read_eq_ok_iff := by
    intro text listed
    rw [Except.ok.injEq,entries]
    constructor
    · intro read
      rw [← read]
      exact .entries (List.intercalate_splitOn ',') (List.splitOn_ne_nil _ _)
        fun _ => not_mem_of_mem_splitOn
    · intro listed
      cases listed with
      | entries joined present apart => rw [← joined,List.splitOn_intercalate ',' apart present]
  read_eq_error_iff := ⟨nofun,False.elim⟩

-- Case does not count, and a dash may stand for an underscore.
inductive Stands : Char → Char → Prop where
  | folded (c : Char) : Stands c c.toLower
  | dash : Stands '-' '_'

def underscored (s : List Char) : List Char :=
  (lower s).map fun c => if c = '-' then '_' else c

theorem stands_iff {s name : List Char} (dashless : '-' ∉ name) :
    List.Forall₂ Stands s name ↔ underscored s = name := by
  induction s generalizing name with
  | nil => exact ⟨fun stands => by cases stands; rfl,fun same => by cases same; exact .nil⟩
  | cons c rest ih =>
      cases name with
      | nil => exact ⟨nofun,nofun⟩
      | cons d name =>
          obtain ⟨other,later⟩ := List.ne_and_not_mem_of_not_mem_cons dashless
          have first : Stands c d ↔ (if c.toLower = '-' then '_' else c.toLower) = d := by
            constructor
            · intro stands
              cases stands with
              | folded => exact if_neg other.symm
              | dash => rfl
            · intro same
              split at same
              · rename_i dash
                cases eq_of_toLower dash (by decide)
                exact same ▸ .dash
              · exact same ▸ .folded c
          rw [List.forall₂_cons,first,ih later]
          exact List.cons_eq_cons.symm

def unknownAlgorithm (text : List Char) : SettingsError :=
  .unreadable "rate limit algorithm" ("unknown algorithm '" ++
    String.ofList (underscored (trim text)) ++
    "', expected token_bucket, sliding_window or fixed_window")

theorem ofName?_eq_some_iff {name : String} {algorithm : RateLimit.Algorithm} :
    Choice.ofName? name = some algorithm ↔ Choice.name algorithm = name := by
  constructor
  · intro found
    have named := List.find?_some found
    exact beq_iff_eq.mp named
  · intro named
    rw [← named]
    cases algorithm <;> rfl

theorem ofText_eq (text : List Char) : RateLimit.Algorithm.ofText text =
    match Choice.ofName? (String.ofList (underscored (trim text))) with
    | some algorithm => .ok algorithm
    | none => .error (unknownAlgorithm text) := rfl

theorem ofText_eq_ok_iff {text : List Char} {algorithm : RateLimit.Algorithm} :
    RateLimit.Algorithm.ofText text = .ok algorithm ↔
      List.Forall₂ Stands (trim text) (Choice.name algorithm).toList := by
  have dashless : '-' ∉ (Choice.name algorithm).toList := by cases algorithm <;> decide
  have named : underscored (trim text) = (Choice.name algorithm).toList ↔
      Choice.name algorithm = String.ofList (underscored (trim text)) := by
    rw [← String.toList_inj,String.toList_ofList]
    exact eq_comm
  rw [stands_iff dashless,named,← ofName?_eq_some_iff,ofText_eq]
  cases (Choice.ofName? (String.ofList (underscored (trim text))) :
    Option RateLimit.Algorithm) with
  | none => exact ⟨nofun,nofun⟩
  | some named => rw [Option.some.injEq,Except.ok.injEq]

theorem ofText_eq_error_iff {text : List Char} {error : SettingsError} :
    RateLimit.Algorithm.ofText text = .error error ↔
      (∀ algorithm : RateLimit.Algorithm,
        ¬List.Forall₂ Stands (trim text) (Choice.name algorithm).toList) ∧
      unknownAlgorithm text = error := by
  simp only [← ofText_eq_ok_iff]
  rw [ofText_eq]
  cases (Choice.ofName? (String.ofList (underscored (trim text))) :
    Option RateLimit.Algorithm) with
  | none =>
      rw [Except.error.injEq]
      exact ⟨fun same => ⟨nofun,same⟩,And.right⟩
  | some named => exact ⟨nofun,fun blamed => absurd rfl (blamed.1 named)⟩

def algorithm : Form RateLimit.Algorithm where
  read text := (RateLimit.Algorithm.ofText text).mapError SettingsError.message
  Denotes text algorithm := List.Forall₂ Stands (trim text) (Choice.name algorithm).toList
  Spoils text problem :=
    (∀ algorithm : RateLimit.Algorithm,
      ¬List.Forall₂ Stands (trim text) (Choice.name algorithm).toList) ∧
    (unknownAlgorithm text).message = problem
  read_eq_ok_iff := mapError_eq_ok_iff.trans ofText_eq_ok_iff
  read_eq_error_iff := by
    intro text problem
    rw [mapError_eq_error_iff]
    simp only [ofText_eq_error_iff]
    constructor
    · intro blamed
      obtain ⟨_,⟨unknown,rfl⟩,shown⟩ := blamed
      exact ⟨unknown,shown⟩
    · intro blamed
      exact ⟨_,⟨blamed.1,rfl⟩,blamed.2⟩

end HttpLayers.Form

namespace HttpLayers.Environment

variable {env : Environment} {name : String}

theorem gives_text : env.Gives name .text (env.text? name) :=
  read?_eq_ok_iff.mp read?_pure

theorem gives_list : env.Gives name .list (env.list? name) :=
  read?_eq_ok_iff.mp read?_pure

theorem text?_isSome_iff :
    (env.text? name).isSome = true ↔ ∃ text, env.Holds name text :=
  gives_text.isSome_iff

-- Commas alone are a list without an entry.
theorem Gives.present_iff {given : Option (List String)} (gives : env.Gives name .list given) :
    given.getD [] ≠ [] ↔
      ∃ text listed, env.Holds name text ∧ Form.Listed text listed ∧ listed ≠ [] := by
  constructor
  · intro present
    cases gives with
    | nothing => exact absurd rfl present
    | value holds listed => exact ⟨_,_,holds,listed,present⟩
  · intro found
    obtain ⟨text,listed,holds,denoted,present⟩ := found
    rwa [gives.eq_some_iff.mpr ⟨text,holds,denoted⟩]

theorem read?_port : env.read? name Form.port.read =
    (env.natural? 65535 name).map (Option.map Nat.toUInt16) :=
  read?_map

end HttpLayers.Environment
