import HttpLayers.Http.Headers

namespace HttpLayers.Http

namespace FieldValue

def IsPrintable (b : UInt8) : Prop := b = 9 ∨ (32 ≤ b.toNat ∧ b.toNat ≤ 126)

theorem isPrintableByte_iff {b : UInt8} : isPrintableByte b = true ↔ IsPrintable b := by
  have upper : b.toNat < 127 ↔ b.toNat ≤ 126 := by omega
  simp [isPrintableByte,IsPrintable,UInt8.le_iff_toNat_le,UInt8.lt_iff_toNat_lt,upper,or_comm]

theorem IsPrintable.ascii {b : UInt8} (printable : IsPrintable b) : b.toNat < 128 := by
  rcases printable with rfl | ⟨_,upper⟩
  · decide
  · omega

theorem text?_eq_some_iff {value : FieldValue} {chars : List Char} :
    text? value = some chars ↔ (∀ b ∈ value.bytes, IsPrintable b) ∧
      chars = value.bytes.toChars := by
  have all : value.bytes.all isPrintableByte = true ↔ ∀ b ∈ value.bytes, IsPrintable b := by
    simp only [List.all_eq_true,isPrintableByte_iff]
  unfold text?
  split
  · rename_i printable
    rw [Option.some.injEq,and_iff_right (all.mp printable)]
    exact eq_comm
  · rename_i unprintable
    simp only [reduceCtorEq,false_iff,not_and]
    intro printable
    exact absurd (all.mpr printable) unprintable

theorem ofBytes?_eq_some_iff {bytes : Bytes} {value : FieldValue} :
    ofBytes? bytes = some value ↔ value.bytes = bytes := by
  unfold ofBytes?
  split
  · rw [Option.some.injEq,FieldValue.ext_iff]
    exact eq_comm
  · rename_i illegal
    refine iff_of_false nofun ?_
    rintro rfl
    exact illegal value.legal

theorem ofString?_eq_some_iff {s : String} {value : FieldValue} :
    ofString? s = some value ↔ value.bytes = Bytes.ofString s :=
  ofBytes?_eq_some_iff

theorem ofString_printable {s : String} (visible : ∀ c ∈ s.toList, 32 ≤ c.toNat ∧ c.toNat ≤ 126) :
    ∀ b ∈ Bytes.ofString s, IsPrintable b := by
  intro b member
  have ascii : ∀ c ∈ s.toList, c.toNat < 128 := fun c present => by
    have := visible c present; omega
  have present : Char.ofNat b.toNat ∈ Bytes.toChars (Bytes.ofString s) :=
    List.mem_map.mpr ⟨b,member,rfl⟩
  rw [Bytes.toChars_ofString ascii] at present
  have range := visible _ present
  rw [Bytes.toNat_ofNat_byte] at range
  exact .inr range

theorem ofString?_toChars {value : FieldValue} (printable : ∀ b ∈ value.bytes, IsPrintable b) :
    ofString? (String.ofList value.bytes.toChars) = some value :=
  ofString?_eq_some_iff.mpr (Bytes.ofString_toChars fun b member => (printable b member).ascii).symm

end FieldValue

namespace Headers

open FieldValue

theorem text?_exact {headers : Headers} {name : FieldName} {text : List Char} :
    headers.text? name = some text ↔ ∃ value, headers.get? name = some value ∧
      (∀ b ∈ value.bytes, IsPrintable b) ∧ text = value.bytes.toChars := by
  rw [text?,Option.bind_eq_some_iff]
  simp only [text?_eq_some_iff]

-- A header that can be read and says something. An empty or unprintable first value hides all others.
structure Legible (headers : Headers) (name : FieldName) (value : FieldValue) : Prop where
  first : headers.get? name = some value
  present : value.bytes ≠ []
  printable : ∀ b ∈ value.bytes, IsPrintable b

variable {headers : Headers} {name : FieldName} {value other : FieldValue} {text : List Char}

theorem Legible.unique (legible : headers.Legible name value)
    (also : headers.Legible name other) : value = other :=
  Option.some.inj (legible.first.symm.trans also.first)

theorem legible_iff : (headers.text? name).filter (fun text => !text.isEmpty) = some text ↔
    ∃ value, headers.Legible name value ∧ text = value.bytes.toChars := by
  rw [Option.filter_eq_some_iff,text?_exact]
  constructor
  · intro kept
    obtain ⟨⟨value,first,printable,rfl⟩,nonempty⟩ := kept
    refine ⟨value,⟨first,?_,printable⟩,rfl⟩
    intro nothing
    rw [nothing] at nonempty
    exact absurd nonempty (by decide)
  · intro told
    obtain ⟨value,legible,rfl⟩ := told
    refine ⟨⟨value,legible.first,legible.printable,rfl⟩,?_⟩
    cases inside : value.bytes with
    | nil => exact absurd inside legible.present
    | cons b rest => rfl

theorem illegible_iff : (headers.text? name).filter (fun text => !text.isEmpty) = none ↔
    ∀ value, ¬headers.Legible name value := by
  rw [Option.eq_none_iff_forall_ne_some]
  constructor
  · intro silent value legible
    exact silent _ (legible_iff.mpr ⟨value,legible,rfl⟩)
  · intro silent text kept
    obtain ⟨value,legible,_⟩ := legible_iff.mp kept
    exact silent value legible

end Headers

end HttpLayers.Http
