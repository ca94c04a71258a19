import HttpLayers.Bytes
import HttpLayers.Text.Fold

-- A name is kept in lower case, as names are compared. No other text is a name here, and no other
-- bytes are a value, so every list of fields can be sent as it stands.

namespace HttpLayers.Http

open Text

def isTokenChar (c : Char) : Bool :=
  c.isAlphanum || "!#$%&'*+-.^_`|~".toList.contains c

def isToken (s : List Char) : Bool :=
  !s.isEmpty && s.all isTokenChar

theorem isAlphanum_iff {c : Char} : c.isAlphanum = true ↔
    ((65 ≤ c.toNat ∧ c.toNat ≤ 90) ∨ 97 ≤ c.toNat ∧ c.toNat ≤ 122) ∨
      48 ≤ c.toNat ∧ c.toNat ≤ 57 := by
  delta Char.isAlphanum Char.isAlpha Char.isUpper Char.isLower Char.isDigit
  simp only [Bool.or_eq_true,Bool.and_eq_true,decide_eq_true_eq,ge_iff_le,UInt32.le_iff_toNat_le]
  exact Iff.rfl

theorem isTokenChar_visible {c : Char} (inside : isTokenChar c = true) :
    32 < c.toNat ∧ c.toNat < 127 := by
  rw [isTokenChar,Bool.or_eq_true] at inside
  rcases inside with letter | mark
  · rw [isAlphanum_iff] at letter
    omega
  · have marks : "!#$%&'*+-.^_`|~".toList.all (fun c => 32 < c.toNat && c.toNat < 127) = true := by
      decide
    simpa using List.all_eq_true.mp marks c (List.contains_iff_mem.mp mark)

theorem isToken_iff {s : List Char} :
    isToken s = true ↔ s ≠ [] ∧ ∀ c ∈ s, isTokenChar c = true := by
  rw [isToken,Bool.and_eq_true,List.all_eq_true]
  cases s <;> simp

theorem mem_token {s : List Char} (token : isToken s = true) {c : Char} (member : c ∈ s) :
    isTokenChar c = true :=
  (isToken_iff.mp token).2 c member

theorem not_mem_token {s : List Char} (token : isToken s = true) {c : Char}
    (outside : isTokenChar c = false) : c ∉ s := by
  intro member
  rw [mem_token token member] at outside
  cases outside

theorem isTokenChar_toLower {c : Char} (inside : isTokenChar c = true) :
    isTokenChar c.toLower = true := by
  rcases toLower_cases c with same | ⟨least,most,code⟩
  · rw [same]
    exact inside
  · rw [isTokenChar,Bool.or_eq_true,isAlphanum_iff]
    omega

theorem isToken_lower {s : List Char} (token : isToken s = true) : isToken (lower s) = true := by
  obtain ⟨present,inside⟩ := isToken_iff.mp token
  refine isToken_iff.mpr ⟨mt List.map_eq_nil_iff.mp present,fun c member => ?_⟩
  obtain ⟨d,written,rfl⟩ := List.mem_map.mp member
  exact isTokenChar_toLower (inside d written)

def FieldName.isLegal (text : String) : Bool :=
  isToken text.toList && text.length ≤ 65535 && lower text.toList == text.toList

@[ext] structure FieldName where
  text : String
  legal : FieldName.isLegal text = true
  deriving DecidableEq, Repr

namespace FieldName

-- For literals, whose legality is seen by evaluation.
def of (text : String) (legal : isLegal text = true := by exact Eq.refl true) : FieldName :=
  ⟨text,legal⟩

theorem isLegal_iff {text : String} : isLegal text = true ↔
    isToken text.toList = true ∧ text.length ≤ 65535 ∧ lower text.toList = text.toList := by
  rw [isLegal,Bool.and_eq_true,Bool.and_eq_true,decide_eq_true_eq,beq_iff_eq,and_assoc]

theorem isLegal_lower {s : List Char} (token : isToken s = true) (short : s.length ≤ 65535) :
    isLegal (String.ofList (lower s)) = true := by
  rw [isLegal_iff,String.toList_ofList,String.length_ofList]
  refine ⟨isToken_lower token,?_,lower_lower s⟩
  rw [lower,List.length_map]
  exact short

def ofText? (s : List Char) : Option FieldName :=
  if fits : isToken s = true ∧ s.length ≤ 65535 then
    some ⟨String.ofList (lower s),isLegal_lower fits.1 fits.2⟩
  else none

def ofString? (s : String) : Option FieldName :=
  ofText? s.toList

theorem ofText?_eq_some_iff {s : List Char} {name : FieldName} : ofText? s = some name ↔
    isToken s = true ∧ s.length ≤ 65535 ∧ name.text = String.ofList (lower s) := by
  unfold ofText?
  split
  · rename_i fits
    rw [Option.some.injEq,← and_assoc,and_iff_right fits,FieldName.ext_iff]
    exact eq_comm
  · rename_i unfit
    rw [← and_assoc]
    simp [unfit]

theorem ofText?_eq_none_iff {s : List Char} :
    ofText? s = none ↔ ¬(isToken s = true ∧ s.length ≤ 65535) := by
  unfold ofText?
  split <;> simp_all

theorem token (name : FieldName) : isToken name.text.toList = true :=
  (isLegal_iff.mp name.legal).1

end FieldName

namespace FieldValue

def isLegalByte (b : UInt8) : Bool :=
  (32 ≤ b && b != 127) || b == 9

def isLegal (bytes : Bytes) : Bool :=
  bytes.all isLegalByte

end FieldValue

@[ext] structure FieldValue where
  bytes : Bytes
  legal : FieldValue.isLegal bytes = true
  deriving DecidableEq, Repr

namespace FieldValue

theorem isLegalByte_of_clear {b : UInt8} (clear : Bytes.IsClear b) : isLegalByte b = true := by
  have differs : b ≠ 127 := by rintro rfl; exact clear.2 rfl
  simp [isLegalByte,UInt8.le_iff_toNat_le,clear.1,differs]

theorem isLegal_ofString {s : String} (clear : ∀ c ∈ s.toList, 32 ≤ c.toNat ∧ c.toNat ≠ 127) :
    isLegal (Bytes.ofString s) = true :=
  List.all_eq_true.mpr fun b member => isLegalByte_of_clear (Bytes.ofString_clear clear b member)

def of (text : String) (legal : isLegal (Bytes.ofString text) = true := by exact Eq.refl true) :
    FieldValue :=
  ⟨Bytes.ofString text,legal⟩

def ofBytes? (bytes : Bytes) : Option FieldValue :=
  if legal : isLegal bytes = true then some ⟨bytes,legal⟩ else none

def ofString? (s : String) : Option FieldValue :=
  ofBytes? (Bytes.ofString s)

def ofToken (s : String) (token : isToken s.toList = true) : FieldValue :=
  .of s (isLegal_ofString fun c member => by
    have visible := isTokenChar_visible (mem_token token member)
    omega)

@[simp] theorem bytes_ofToken (s : String) (token : isToken s.toList = true) :
    (ofToken s token).bytes = Bytes.ofString s := rfl

def ofName (name : FieldName) : FieldValue :=
  ofToken name.text name.token

@[simp] theorem bytes_ofName (name : FieldName) :
    (ofName name).bytes = Bytes.ofString name.text := rfl

theorem isToken_toString (n : Nat) : isToken (toString n).toList = true := by
  rw [Nat.toString_eq_repr,Nat.toList_repr]
  refine isToken_iff.mpr ⟨Nat.toDigits_ne_nil,fun c member => ?_⟩
  have digit := Nat.isDigit_of_mem_toDigits (by decide) (by decide) member
  simp [isTokenChar,Char.isAlphanum,digit]

def ofNat (n : Nat) : FieldValue :=
  ofToken (toString n) (isToken_toString n)

theorem isLegal_append {one other : Bytes} (first : isLegal one = true)
    (second : isLegal other = true) : isLegal (one ++ other) = true := by
  rw [isLegal,List.all_append,Bool.and_eq_true]
  exact ⟨first,second⟩

theorem isLegal_join (values : List FieldValue) :
    isLegal ((Bytes.ofString ",").intercalate (values.map bytes)) = true := by
  match values with
  | [] => rfl
  | [value] =>
      rw [List.map_singleton,List.intercalate_singleton]
      exact value.legal
  | value :: next :: rest =>
      rw [List.map_cons,List.map_cons,List.intercalate_cons_cons,← List.map_cons]
      exact isLegal_append (isLegal_append value.legal (by decide)) (isLegal_join (next :: rest))

def join (values : List FieldValue) : FieldValue :=
  ⟨(Bytes.ofString ",").intercalate (values.map bytes),isLegal_join values⟩

def isPrintableByte (b : UInt8) : Bool :=
  (32 ≤ b && b < 127) || b == 9

-- Any byte outside ASCII leaves the value without a text.
def text? (value : FieldValue) : Option (List Char) :=
  if value.bytes.all isPrintableByte then some value.bytes.toChars else none

-- A double quote is escaped and an unprintable byte is written as its number; a backslash stands as
-- it is.
def quoted (value : FieldValue) : String :=
  let byte (b : UInt8) : List Char :=
    if b == 34 then ['\\','"']
    else if isPrintableByte b then [Char.ofNat b.toNat]
    else '\\' :: 'x' :: Nat.toDigits 16 b.toNat
  "\"" ++ String.ofList (value.bytes.flatMap byte) ++ "\""

end FieldValue

end HttpLayers.Http
