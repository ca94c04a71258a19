import HttpLayers.Proofs.Parts
import HttpLayers.Proofs.Trim

-- A list that is written between commas. White space around an entry does not count, nor does a part
-- that is blank, so there are many ways to write one list; each of them is read as that list.

namespace HttpLayers.Text

variable {s : List Char} {parts found : List (List Char)}

structure IsEntry (entry : List Char) : Prop where
  present : entry ≠ []
  apart : ',' ∉ entry
  bare : Bare isBlank entry

-- How the entries are spread over the parts between the commas.
inductive Spread : List (List Char) → List (List Char) → Prop where
  | nil : Spread [] []
  | blank {part : List Char} {parts entries : List (List Char)} (blank : Blank part)
      (next : Spread parts entries) : Spread (part :: parts) entries
  | entry {front entry back : List Char} {parts entries : List (List Char)} (before : Blank front)
      (after : Blank back) (isEntry : IsEntry entry) (next : Spread parts entries) :
      Spread ((front ++ entry ++ back) :: parts) (entry :: entries)

inductive Itemizes : List Char → List (List Char) → Prop where
  | joined {parts entries : List (List Char)} (spread : Spread parts entries) :
      Itemizes ([','].intercalate parts) entries

def counted (parts : List (List Char)) : List (List Char) :=
  (parts.map trim).filter fun entry => !entry.isEmpty

theorem counted_blank {part : List Char} (blank : Blank part) :
    counted (part :: parts) = counted parts := by
  simp [counted,trim_eq_nil_iff.mpr blank]

theorem counted_entry {part : List Char} (present : trim part ≠ []) :
    counted (part :: parts) = trim part :: counted parts := by
  simp [counted,present]

theorem Spread.counted (spread : Spread parts found) : counted parts = found := by
  induction spread with
  | nil => rfl
  | blank blank _ ih => rw [counted_blank blank,ih]
  | @entry front entry back _ _ before after isEntry _ ih =>
      have inside : trim (front ++ entry ++ back) = entry :=
        (strip_between entry before after).trans (strip_of_bare isEntry.bare)
      rw [counted_entry (by rw [inside]; exact isEntry.present),inside,ih]

theorem Spread.apart (spread : Spread parts found) : ∀ part ∈ parts, ',' ∉ part := by
  induction spread with
  | nil => exact List.forall_mem_nil _
  | blank blank _ ih => exact List.forall_mem_cons.mpr ⟨blank.not_mem (by decide),ih⟩
  | @entry front entry back _ _ before after isEntry _ ih =>
      refine List.forall_mem_cons.mpr ⟨?_,ih⟩
      simp [before.not_mem (c := ',') (by decide),after.not_mem (c := ',') (by decide),isEntry.apart]

theorem Spread.isEntry (spread : Spread parts found) : ∀ entry ∈ found, IsEntry entry := by
  induction spread with
  | nil => exact List.forall_mem_nil _
  | blank _ _ ih => exact ih
  | entry _ _ isEntry _ ih => exact List.forall_mem_cons.mpr ⟨isEntry,ih⟩

theorem spread_counted (apart : ∀ part ∈ parts, ',' ∉ part) : Spread parts (counted parts) := by
  induction parts with
  | nil => exact .nil
  | cons part parts ih =>
      obtain ⟨first,later⟩ := List.forall_mem_cons.mp apart
      by_cases blank : trim part = []
      · have isBlank := trim_eq_nil_iff.mp blank
        rw [counted_blank isBlank]
        exact .blank isBlank (ih later)
      · obtain ⟨front,back,whole,before,after,bare⟩ := strip_eq_iff.mp (Eq.refl (trim part))
        have isEntry : IsEntry (trim part) := ⟨blank,mt mem_of_mem_strip first,bare⟩
        have spread := Spread.entry before after isEntry (ih later)
        rw [counted_entry blank]
        rwa [← whole] at spread

theorem entries_eq_iff : entries s = found ↔ Itemizes s found := by
  constructor
  · rintro rfl
    have apart : ∀ part ∈ s.splitOn ',', ',' ∉ part := fun _ => not_mem_of_mem_splitOn
    have joined := Itemizes.joined (spread_counted apart)
    rwa [List.intercalate_splitOn] at joined
  · intro itemizes
    cases itemizes with
    | @joined parts _ spread =>
        by_cases present : parts = []
        · subst present
          cases spread
          rfl
        · rw [entries,List.splitOn_intercalate ',' spread.apart present]
          exact spread.counted

theorem Itemizes.isEntry (itemizes : Itemizes s found) : ∀ entry ∈ found, IsEntry entry := by
  cases itemizes with
  | joined spread => exact spread.isEntry

theorem entries_cut (one other : List Char) :
    entries (one ++ ',' :: other) = entries one ++ entries other := by
  rw [entries,List.splitOn_append_cons_self,List.map_append,List.filter_append]
  rfl

theorem entries_intercalate (texts : List (List Char)) :
    entries ([','].intercalate texts) = texts.flatMap entries := by
  induction texts with
  | nil => rfl
  | cons first rest ih =>
      cases rest with
      | nil => rw [List.intercalate_singleton,List.flatMap_singleton]
      | cons next rest =>
          rw [List.intercalate_cons_cons,List.append_assoc,List.singleton_append,entries_cut,ih,
            List.flatMap_cons (x := first)]

theorem entries_trim (s : List Char) : entries (trim s) = entries s := by
  obtain ⟨front,back,whole,before,after,_⟩ := strip_eq_iff.mp (Eq.refl (trim s))
  have same := map_splitOn_between .nil (fun _ blank => Blank.not_mem blank (c := ',') (by decide))
    (fun _ piece _ => strip_between piece) before after (trim s)
  rw [← whole] at same
  exact congrArg (List.filter _) same.symm

-- Nothing but commas and white space.
theorem entries_eq_nil_iff : entries s = [] ↔ ∀ c ∈ s, c = ',' ∨ isBlank c = true := by
  rw [← forall_mem_splitOn_iff,entries,List.filter_eq_nil_iff,List.forall_mem_map]
  refine forall_congr' fun part => imp_congr_right fun _ => ?_
  rw [← Blank,← trim_eq_nil_iff]
  simp

end HttpLayers.Text
