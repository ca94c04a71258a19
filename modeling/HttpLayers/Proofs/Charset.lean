import HttpLayers.Policy.ContentCharset
import HttpLayers.Proofs.FieldValue
import HttpLayers.Proofs.Pieces

-- A semicolon inside quotes cuts as well, so what stands behind it there is taken for a parameter. Where
-- no quoted text passes for a charset, the first parameter of that name decides.

namespace HttpLayers.Http.MediaType

open Text

variable {name value : List Char}

inductive ParameterValue where
  | token (text : List Char) (isToken : isToken text = true)
  | quoted (text : List Char) (plain : '"' ∉ text ∧ '\\' ∉ text)

namespace ParameterValue

def content : ParameterValue → List Char
  | token text _ => text
  | quoted text _ => text

def written : ParameterValue → List Char
  | token text _ => text
  | quoted text _ => '"' :: text ++ ['"']

end ParameterValue

-- The white space that a parameter has is that on both sides of the semicolon in front of it.
structure Parameter where
  before : List Char
  after : List Char
  isGap : IsGap before ∧ IsGap after
  name : List Char
  isName : isToken name = true
  value : ParameterValue

namespace Parameter

def text (parameter : Parameter) : List Char :=
  parameter.name ++ '=' :: parameter.value.written

-- A parameter is one piece, unless semicolons inside its quotes cut it.
def pieces (parameter : Parameter) : List (List Char) :=
  parameter.text.splitOn ';'

end Parameter

def rendered : List Parameter → List Char
  | [] => []
  | parameter :: others =>
    parameter.before ++ ';' :: (parameter.after ++ parameter.text ++ rendered others)

structure Declaration where
  kind : List Char
  isKind : isToken kind = true
  subkind : List Char
  isSubkind : isToken subkind = true
  parameters : List Parameter

def Declaration.text (declaration : Declaration) : List Char :=
  declaration.kind ++ '/' :: declaration.subkind ++ rendered declaration.parameters

def Holds (name : List Char) (parameter : Parameter) (value : List Char) : Prop :=
  lower parameter.name = lower name ∧ value = parameter.value.content

theorem findSome?_rendered (s : List Char) (parameters : List Parameter) :
    ((s ++ rendered parameters).splitOn ';').findSome? (declared? name) =
      ((s.splitOn ';').findSome? (declared? name)).or
        ((parameters.flatMap Parameter.pieces).findSome? (declared? name)) := by
  induction parameters generalizing s with
  | nil => rw [rendered,List.append_nil,List.flatMap_nil,List.findSome?_nil,Option.or_none]
  | cons parameter others ih =>
      have ended := findSome?_between name s .nil parameter.isGap.1
      have opened := findSome?_between name parameter.text parameter.isGap.2 .nil
      rw [List.nil_append] at ended
      rw [List.append_nil] at opened
      rw [rendered,← List.append_assoc,List.splitOn_append_cons_self,List.findSome?_append,ih,ended,
        opened,List.flatMap_cons,List.findSome?_append,Parameter.pieces]

theorem Declaration.parameter?_text (declaration : Declaration) :
    parameter? name declaration.text =
      (declaration.parameters.flatMap Parameter.pieces).findSome? (declared? name) := by
  have kind := not_mem_token declaration.isKind (by decide : isTokenChar ';' = false)
  have subkind := not_mem_token declaration.isSubkind (by decide : isTokenChar ';' = false)
  have apart : ';' ∉ declaration.kind ++ '/' :: declaration.subkind := by simp [kind,subkind]
  rw [parameter?_eq,text]
  cases declaration.parameters with
  | nil =>
      rw [rendered,List.append_nil,List.splitOn_eq_singleton apart]
      rfl
  | cons parameter others =>
      have outside : ';' ∉ declaration.kind ++ '/' :: declaration.subkind ++ parameter.before := by
        rw [List.mem_append,not_or]
        exact ⟨apart,parameter.isGap.1.not_mem (by decide)⟩
      have opened := findSome?_between name parameter.text parameter.isGap.2 .nil
      rw [List.append_nil] at opened
      rw [rendered,← List.append_assoc,List.splitOn_append_cons_self_of_not_mem outside,
        List.drop_succ_cons,List.drop_zero,findSome?_rendered,opened,List.flatMap_cons,
        List.findSome?_append,Parameter.pieces]

namespace Parameter

theorem name_bare (parameter : Parameter) : trim parameter.name = parameter.name :=
  strip_of_bare (.of_all fun _ member =>
    not_blank_of_visible (isTokenChar_visible (mem_token parameter.isName member)))

-- The first piece has the name, and the value as far as it goes.
theorem pieces_cut (parameter : Parameter) : ∃ front hidden,
    parameter.pieces = (parameter.name ++ '=' :: front) :: hidden ∧
      (';' ∉ parameter.value.written → front = parameter.value.written ∧ hidden = []) := by
  have name := not_mem_token parameter.isName (by decide : isTokenChar ';' = false)
  by_cases mark : ';' ∈ parameter.value.written
  · obtain ⟨front,rest,cut,apart⟩ := List.eq_append_cons_of_mem mark
    have outside : ';' ∉ parameter.name ++ '=' :: front := by simp [name,apart]
    have whole : parameter.text = (parameter.name ++ '=' :: front) ++ ';' :: rest := by
      simp [text,cut]
    refine ⟨front,rest.splitOn ';',?_,fun absent => absurd mark absent⟩
    rw [pieces,whole,List.splitOn_append_cons_self_of_not_mem outside]
  · have outside : ';' ∉ parameter.text := by simp [text,name,mark]
    exact ⟨parameter.value.written,[],List.splitOn_eq_singleton outside,fun _ => ⟨rfl,rfl⟩⟩

theorem declared?_named (parameter : Parameter) (front : List Char) :
    declared? name (parameter.name ++ '=' :: front) =
      if sameFolded parameter.name name then some (strip (· == '"') (trim front)) else none := by
  have apart := not_mem_token parameter.isName (by decide : isTokenChar '=' = false)
  rw [declared?,splitOnce_eq_some_iff.mpr ⟨rfl,apart⟩,Option.bind_some]
  dsimp only
  rw [parameter.name_bare]

end Parameter

theorem ParameterValue.unquoted (value : ParameterValue) :
    strip (· == '"') (trim value.written) = value.content := by
  cases value with
  | token text isToken =>
      have visible : ∀ c ∈ text, isBlank c = false := fun c member =>
        not_blank_of_visible (isTokenChar_visible (mem_token isToken member))
      have plain : '"' ∉ text := not_mem_token isToken (by decide)
      rw [written,trim,strip_of_bare (.of_all visible),strip_of_bare (.of_not_mem plain),content]
  | quoted text plain =>
      have mark : ∀ c ∈ ['"'], (c == '"') = true := by simp
      have bare : Bare isBlank ('"' :: text ++ ['"']) := .enclosed (by decide) (by decide) text
      rw [written,trim,strip_of_bare bare,← List.singleton_append,strip_between text mark mark,
        strip_of_bare (.of_not_mem plain.1),content]

theorem ParameterValue.not_mem_written {value : ParameterValue} (whole : ';' ∉ value.content) :
    ';' ∉ value.written := by
  cases value with
  | token => exact whole
  | quoted text =>
      have inside : ';' ∉ text := whole
      simp [written,inside]

def held? (name : List Char) (parameter : Parameter) : Option (List Char) :=
  if sameFolded parameter.name name then some parameter.value.content else none

theorem held?_eq_some_iff {parameter : Parameter} :
    held? name parameter = some value ↔ Holds name parameter value := by
  rw [held?,Option.ite_none_right_eq_some,sameFolded_iff,Option.some.injEq,Holds,
    eq_comm (a := value)]

-- Up to the deciding parameter no quoted text passes for a parameter of the name, and that one is whole.
inductive Unmasked (name : List Char) : List Parameter → Prop where
  | absent : Unmasked name []
  | here {parameter : Parameter} {others : List Parameter}
      (named : lower parameter.name = lower name) (whole : ';' ∉ parameter.value.content) :
      Unmasked name (parameter :: others)
  | later {parameter : Parameter} {others : List Parameter}
      (other : lower parameter.name ≠ lower name)
      (silent : ∀ piece ∈ parameter.pieces.tail, ∀ value, ¬Declares name piece value)
      (next : Unmasked name others) : Unmasked name (parameter :: others)

theorem Unmasked.agree {parameters : List Parameter} (unmasked : Unmasked name parameters) :
    (parameters.flatMap Parameter.pieces).findSome? (declared? name) =
      parameters.findSome? (held? name) := by
  induction unmasked with
  | absent => rfl
  | @here parameter others named whole =>
      obtain ⟨front,hidden,cut,uncut⟩ := parameter.pieces_cut
      obtain ⟨rfl,rfl⟩ := uncut (ParameterValue.not_mem_written whole)
      have folded := sameFolded_iff.mpr named
      rw [List.flatMap_cons,List.findSome?_append,cut,List.findSome?_singleton,
        parameter.declared?_named,if_pos folded,parameter.value.unquoted,List.findSome?_cons,held?,
        if_pos folded,Option.some_or]
  | @later parameter others other silent _ ih =>
      obtain ⟨front,hidden,cut,_⟩ := parameter.pieces_cut
      have unfolded : ¬sameFolded parameter.name name = true := fun same =>
        other (sameFolded_iff.mp same)
      have nothing : hidden.findSome? (declared? name) = none := by
        rw [List.findSome?_eq_none_iff]
        intro piece member
        rw [cut,List.tail_cons] at silent
        rw [Option.eq_none_iff_forall_ne_some]
        intro value told
        exact silent piece member value (declared?_eq_some_iff.mp told)
      rw [List.flatMap_cons,List.findSome?_append,cut,List.findSome?_cons,
        parameter.declared?_named,if_neg unfolded,nothing,Option.none_or,ih,List.findSome?_cons,
        held?,if_neg unfolded]

end HttpLayers.Http.MediaType

namespace HttpLayers.ContentCharset

open Http MediaType Text

def charset : List Char := "charset".toList

def Lists (policy : ContentCharset) (value : List Char) : Prop :=
  ∃ entries, policy.charsets = some entries ∧ ∃ entry ∈ entries, lower entry.toList = lower value

theorem declared_text (declaration : Declaration) : declared declaration.text =
    ((declaration.parameters.flatMap Parameter.pieces).findSome? (declared? charset)).getD [] :=
  congrArg (·.getD []) declaration.parameter?_text

theorem allows_iff {policy : ContentCharset} {contentType : String} :
    policy.allows contentType = true ↔ policy.Lists (declared contentType.toList) := by
  rw [allows,List.any_eq_true]
  simp only [sameFolded_iff,Lists]
  cases policy.charsets with
  | none => simp
  | some entries => simp

-- What is read is always what the pieces declare; it is what the parameters hold only where no quoted
-- text passes for one of them.
theorem charset_read_exactly (policy : ContentCharset) (declaration : Declaration) :
    ∃ read, (∀ other, First (Declares charset)
        (declaration.parameters.flatMap Parameter.pieces) other ↔ other = read) ∧
      (policy.allows (String.ofList declaration.text) = true ↔ policy.Lists read) ∧
      (Unmasked charset declaration.parameters → ∀ held,
        First (Holds charset) declaration.parameters held ↔ held = read) := by
  refine ⟨declared declaration.text,?_,?_,?_⟩
  · intro other
    rw [← first_iff declared?_eq_some_iff,declared_text]
    exact eq_comm
  · rw [allows_iff,String.toList_ofList]
  · intro unmasked held
    rw [← first_iff held?_eq_some_iff,declared_text,unmasked.agree]
    exact eq_comm

def quotedParameter : Parameter where
  before := []
  after := [' ']
  isGap := ⟨.nil,by decide⟩
  name := "a".toList
  isName := by decide
  value := .quoted "; charset=utf-8".toList (by decide)

def latinParameter : Parameter where
  before := []
  after := [' ']
  isGap := ⟨.nil,by decide⟩
  name := "charset".toList
  isName := by decide
  value := .token "latin1".toList (by decide)

def misread : Declaration where
  kind := "text".toList
  isKind := by decide
  subkind := "plain".toList
  isSubkind := by decide
  parameters := [quotedParameter,latinParameter]

theorem quoted_charset_allowed :
    misread.text = "text/plain; a=\"; charset=utf-8\"; charset=latin1".toList ∧
    First (Holds charset) misread.parameters "latin1".toList ∧
    ({} : ContentCharset).allows (String.ofList misread.text) = true ∧
    ¬({} : ContentCharset).Lists "latin1".toList := by
  refine ⟨by decide,?_,by decide,?_⟩
  · apply First.later
    · intro value holds
      exact absurd holds.1 (by decide)
    · exact .here ⟨by decide,rfl⟩
  · intro lists
    obtain ⟨entries,configured,entry,member,same⟩ := lists
    cases configured
    rw [List.mem_singleton.mp member] at same
    exact absurd same (by decide)

end HttpLayers.ContentCharset
