import HttpLayers.Http.MediaType
import HttpLayers.Proofs.Parts
import HttpLayers.Proofs.Trim

-- How a parameter is found: the value is cut at every semicolon, and the first piece behind the first
-- of them that has the name decides. White space around a piece does not count.

namespace HttpLayers.Http.MediaType

open Text

-- The value of the first that tells one, and the empty value where none does.
inductive First {α : Type} (tells : α → List Char → Prop) : List α → List Char → Prop where
  | absent : First tells [] []
  | here {a : α} {others : List α} {value : List Char} (told : tells a value) :
      First tells (a :: others) value
  | later {a : α} {others : List α} {value : List Char} (silent : ∀ other, ¬tells a other)
      (next : First tells others value) : First tells (a :: others) value

theorem first_iff {α : Type} {tells : α → List Char → Prop} {found? : α → Option (List Char)}
    (exact : ∀ {a value}, found? a = some value ↔ tells a value) {all : List α}
    {value : List Char} : (all.findSome? found?).getD [] = value ↔ First tells all value := by
  induction all with
  | nil =>
      constructor
      · rintro rfl
        exact .absent
      · intro first
        cases first
        rfl
  | cons a others ih =>
      rw [List.findSome?_cons]
      cases found : found? a with
      | some told =>
          constructor
          · rintro rfl
            exact .here (exact.mp found)
          · intro first
            cases first with
            | here also => exact Option.some.inj (found.symm.trans (exact.mpr also))
            | later silent => exact absurd (exact.mp found) (silent told)
      | none =>
          have silent : ∀ other, ¬tells a other := by
            intro other told
            cases found.symm.trans (exact.mpr told)
          rw [ih]
          constructor
          · exact .later silent
          · intro first
            cases first with
            | here told => exact absurd told (silent value)
            | later _ next => exact next

inductive Declares (name : List Char) : List Char → List Char → Prop where
  | named {key rest : List Char} (apart : '=' ∉ key) (folded : lower (trim key) = lower name) :
      Declares name (key ++ '=' :: rest) (strip (· == '"') (trim rest))

variable {name piece value : List Char}

def declared? (name piece : List Char) : Option (List Char) :=
  (splitOnce '=' piece).bind fun cut =>
    if sameFolded (trim cut.1) name then some (strip (· == '"') (trim cut.2)) else none

theorem declared?_eq_some_iff : declared? name piece = some value ↔ Declares name piece value := by
  rw [declared?,Option.bind_eq_some_iff]
  constructor
  · intro found
    obtain ⟨⟨key,rest⟩,cut,read⟩ := found
    obtain ⟨rfl,apart⟩ := splitOnce_eq_some_iff.mp cut
    obtain ⟨folded,same⟩ := Option.ite_none_right_eq_some.mp read
    cases Option.some.inj same
    exact .named apart (sameFolded_iff.mp folded)
  · intro declares
    cases declares with
    | @named key rest apart folded =>
        refine ⟨(key,rest),splitOnce_eq_some_iff.mpr ⟨rfl,apart⟩,?_⟩
        exact if_pos (sameFolded_iff.mpr folded)

theorem parameter?_eq (name text : List Char) :
    parameter? name text = ((text.splitOn ';').drop 1).findSome? (declared? name) := by
  unfold parameter? parameters
  dsimp only
  generalize (text.splitOn ';').drop 1 = pieces
  induction pieces with
  | nil => rfl
  | cons piece others ih =>
      rw [List.findSome?_cons,declared?,← ih]
      cases cut : splitOnce '=' piece with
      | none => rw [List.filterMap_cons_none cut,Option.bind_none]
      | some halves =>
          rw [List.filterMap_cons_some cut,List.find?_cons,Option.bind_some]
          cases sameFolded (trim halves.1) name <;> rfl

theorem declared?_between (name piece : List Char) {front back : List Char} (before : IsGap front)
    (after : IsGap back) : declared? name (front ++ piece ++ back) = declared? name piece := by
  unfold declared?
  cases cut : splitOnce '=' piece with
  | none =>
      have apart : '=' ∉ front ++ piece ++ back := by
        simp [before.not_mem (c := '=') (by decide),after.not_mem (c := '=') (by decide),
          splitOnce_eq_none_iff.mp cut]
      rw [splitOnce_eq_none_iff.mpr apart]
  | some halves =>
      obtain ⟨key,rest⟩ := halves
      obtain ⟨rfl,apart⟩ := splitOnce_eq_some_iff.mp cut
      have whole : front ++ (key ++ '=' :: rest) ++ back = (front ++ key) ++ '=' :: (rest ++ back) := by
        simp
      have outside : '=' ∉ front ++ key := by
        simp [before.not_mem (c := '=') (by decide),apart]
      have trimmedKey := strip_between key before.blank IsGap.nil.blank
      rw [List.append_nil] at trimmedKey
      have trimmedRest : trim (rest ++ back) = trim rest :=
        strip_between rest IsGap.nil.blank after.blank
      rw [splitOnce_eq_some_iff.mpr ⟨whole,outside⟩,Option.bind_some,Option.bind_some]
      dsimp only
      rw [trim,trimmedKey,trimmedRest]
      rfl

theorem findSome?_between (name s : List Char) {front back : List Char} (before : IsGap front)
    (after : IsGap back) : ((front ++ s ++ back).splitOn ';').findSome? (declared? name) =
      (s.splitOn ';').findSome? (declared? name) := by
  have pieces := map_splitOn_between .nil (fun _ gap => gap.not_mem (c := ';') (by decide))
    (fun _ piece _ => declared?_between name piece) before after s
  have told := congrArg (List.findSome? id) pieces
  rwa [List.findSome?_map,List.findSome?_map,Function.id_comp] at told

end HttpLayers.Http.MediaType
