import HttpLayers.ClientLocator
import HttpLayers.Proofs.Parts
import HttpLayers.Proofs.PeerTrust

-- What the header `forwarded` says of a client: the parameters of its first element stand between
-- semicolons, and the first of them that is named `for` holds the node.

namespace HttpLayers.ClientLocator

open Text

-- A parameter has an equals sign; its name ends before the first one.
inductive IsFor (value : List Char) : List Char → Prop where
  | named {name : List Char} (apart : '=' ∉ name) (folded : lower (trim name) = "for".toList) :
      IsFor value (name ++ '=' :: value)

theorem forParameter?_iff {parameter value : List Char} :
    forParameter? parameter = some value ↔ IsFor value parameter := by
  have small : lower "for".toList = "for".toList := by decide
  rw [forParameter?,Option.bind_eq_bind,Option.bind_eq_some_iff]
  constructor
  · intro found
    obtain ⟨⟨name,written⟩,cut,read⟩ := found
    obtain ⟨rfl,apart⟩ := splitOnce_eq_some_iff.mp cut
    dsimp only at read
    split at read
    · rename_i folded
      cases Option.some.inj read
      exact .named apart ((sameFolded_iff.mp folded).trans small)
    · cases read
  · intro isFor
    cases isFor with
    | @named name apart folded =>
        refine ⟨(name,value),splitOnce_eq_some_iff.mpr ⟨rfl,apart⟩,?_⟩
        dsimp only
        rw [if_pos (sameFolded_iff.mpr (folded.trans small.symm))]

-- A first `for` decides, also where its value is of no use.
inductive FirstFor (value : List Char) : List (List Char) → Prop where
  | here {parameter : List Char} {others : List (List Char)} (isFor : IsFor value parameter) :
      FirstFor value (parameter :: others)
  | later {parameter : List Char} {others : List (List Char)}
      (other : ∀ value, ¬IsFor value parameter) (next : FirstFor value others) :
      FirstFor value (parameter :: others)

theorem findSome?_for_iff {parameters : List (List Char)} {value : List Char} :
    parameters.findSome? forParameter? = some value ↔ FirstFor value parameters := by
  induction parameters with
  | nil =>
      refine ⟨nofun,?_⟩
      intro first
      cases first
  | cons parameter others ih =>
      rw [List.findSome?_cons]
      cases read : forParameter? parameter with
      | some found =>
          constructor
          · intro same
            cases Option.some.inj same
            exact .here (forParameter?_iff.mp read)
          · intro first
            cases first with
            | here isFor => rw [← read,forParameter?_iff.mpr isFor]
            | later other => exact absurd (forParameter?_iff.mp read) (other found)
      | none =>
          have other : ∀ value, ¬IsFor value parameter := by
            intro value isFor
            rw [forParameter?_iff.mpr isFor] at read
            cases read
          rw [ih]
          constructor
          · exact .later other
          · intro first
            cases first with
            | here isFor => exact absurd isFor (other value)
            | later _ next => exact next

-- Without the brackets, whatever follows them; a bracket that is never closed encloses all the rest.
inductive Unbracketed (node : List Char) : List Char → Prop where
  | enclosed {rest : List Char} (opens : Opens ']' node rest) : Unbracketed node ('[' :: rest)
  | plain (bare : node.head? ≠ some '[') : Unbracketed node node

-- White space around the value does not count, but what stands inside the quotes is kept.
structure Designates (element node : List Char) : Prop where
  read : ∃ parameters value, Parted ';' parameters element ∧ FirstFor value parameters ∧
    Unbracketed node (strip (· == '"') (trim value))
  present : node ≠ []

theorem unwrapped_iff {bare node : List Char} :
    (match bare with
      | '[' :: rest => nonempty (before ']' rest)
      | node => nonempty node) = some node ↔ Unbracketed node bare ∧ node ≠ [] := by
  split
  · rename_i rest
    rw [nonempty_eq_some_iff,before_eq_iff]
    constructor
    · intro read
      exact ⟨.enclosed read.1,read.2⟩
    · intro read
      obtain ⟨unbracketed,present⟩ := read
      cases unbracketed with
      | enclosed opens => exact ⟨opens,present⟩
      | plain bare => exact absurd rfl bare
  · rename_i unopened
    rw [nonempty_eq_some_iff]
    constructor
    · intro read
      obtain ⟨rfl,present⟩ := read
      refine ⟨.plain ?_,present⟩
      intro bracket
      obtain ⟨rest,opened⟩ := List.head?_eq_some_iff.mp bracket
      exact unopened rest opened
    · intro read
      obtain ⟨unbracketed,present⟩ := read
      cases unbracketed with
      | enclosed => exact absurd rfl (unopened _)
      | plain => exact ⟨rfl,present⟩

theorem forwardedNode?_iff {text node : List Char} :
    forwardedNode? text = some node ↔
      ∃ element, Opens ',' element text ∧ Designates element node := by
  rw [forwardedNode?,Option.bind_eq_bind,Option.bind_eq_some_iff]
  constructor
  · intro found
    obtain ⟨value,first,read⟩ := found
    obtain ⟨unbracketed,present⟩ := unwrapped_iff.mp read
    exact ⟨_,opens_before ',' text,
      ⟨_,value,splitOn_eq_iff.mp rfl,findSome?_for_iff.mp first,unbracketed⟩,present⟩
  · intro found
    obtain ⟨element,opens,⟨parameters,value,parted,first,unbracketed⟩,present⟩ := found
    refine ⟨value,?_,unwrapped_iff.mpr ⟨unbracketed,present⟩⟩
    rw [before_eq_iff.mpr opens,splitOn_eq_iff.mpr parted]
    exact findSome?_for_iff.mpr first

end HttpLayers.ClientLocator
