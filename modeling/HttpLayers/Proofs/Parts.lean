import HttpLayers.Text.Split

-- What stands before a separator and between separators, said without the functions that cut there.

namespace HttpLayers.Text

variable {sep : Char} {s front : List Char}

inductive Opens (sep : Char) (front : List Char) : List Char → Prop where
  | whole (apart : sep ∉ front) : Opens sep front front
  | cut {rest : List Char} (apart : sep ∉ front) : Opens sep front (front ++ sep :: rest)

theorem Opens.apart (opens : Opens sep front s) : sep ∉ front := by
  cases opens with
  | whole apart => exact apart
  | cut apart => exact apart

theorem Opens.cons {c : Char} (other : c ≠ sep) (opens : Opens sep front s) :
    Opens sep (c :: front) (c :: s) := by
  have apart : sep ∉ c :: front := by
    rw [List.mem_cons,not_or]
    exact ⟨Ne.symm other,opens.apart⟩
  cases opens with
  | whole => exact .whole apart
  | cut => exact .cut apart

theorem opens_before (sep : Char) (s : List Char) : Opens sep (before sep s) s := by
  induction s with
  | nil => exact .whole List.not_mem_nil
  | cons c rest ih =>
      by_cases same : c = sep
      · subst same
        have cut : Opens c [] (c :: rest) := .cut List.not_mem_nil
        simpa [before] using cut
      · simpa [before,same] using ih.cons same

theorem before_append (apart : sep ∉ front) (rest : List Char) :
    before sep (front ++ rest) = front ++ before sep rest := by
  apply List.takeWhile_append_of_pos
  intro c member
  rw [bne_iff_ne]
  intro same
  exact apart (same ▸ member)

theorem before_eq_iff : before sep s = front ↔ Opens sep front s := by
  constructor
  · intro read
    rw [← read]
    exact opens_before sep s
  · intro opens
    cases opens with
    | whole apart => simpa [before] using before_append apart []
    | cut apart => rw [before_append apart]; simp [before]

theorem cut_unique {left right first last : List Char}
    (same : left ++ sep :: right = first ++ sep :: last) (apart : sep ∉ left)
    (also : sep ∉ first) : left = first ∧ right = last := by
  have one := splitOnce_eq_some_iff.mpr ⟨Eq.refl (left ++ sep :: right),apart⟩
  have other := splitOnce_eq_some_iff.mpr ⟨same,also⟩
  cases one.symm.trans other
  exact ⟨rfl,rfl⟩

theorem cut_last_unique {left right first last : List Char}
    (same : left ++ sep :: right = first ++ sep :: last) (apart : sep ∉ right)
    (also : sep ∉ last) : left = first ∧ right = last := by
  have turned := congrArg List.reverse same
  simp only [List.reverse_append,List.reverse_cons,List.append_assoc,List.singleton_append] at turned
  obtain ⟨behind,front⟩ := cut_unique turned (mt List.mem_reverse.mp apart)
    (mt List.mem_reverse.mp also)
  exact ⟨List.reverse_inj.mp front,List.reverse_inj.mp behind⟩

structure Parted (sep : Char) (parts : List (List Char)) (s : List Char) : Prop where
  joined : [sep].intercalate parts = s
  present : parts ≠ []
  apart : ∀ part ∈ parts, sep ∉ part

theorem forall_mem_splitOn_iff {p : Char → Prop} :
    (∀ part ∈ s.splitOn sep, ∀ c ∈ part, p c) ↔ ∀ c ∈ s, c = sep ∨ p c := by
  induction s with
  | nil => simp
  | cons c rest ih =>
      by_cases same : c = sep
      · subst same
        have cut : (c :: rest).splitOn c = [] :: rest.splitOn c :=
          List.splitOn_append_cons_self [] rest
        rw [cut,List.forall_mem_cons,List.forall_mem_cons,ih]
        exact and_congr_left fun _ => ⟨fun _ => .inl rfl,fun _ => List.forall_mem_nil _⟩
      · obtain ⟨front,parts,cut⟩ := List.exists_cons_of_ne_nil (List.splitOn_ne_nil sep rest)
        have longer : (c :: rest).splitOn sep = (c :: front) :: parts := by
          rw [List.splitOn_cons_eq_if_modifyHead,if_neg (by simpa using same),cut]
          rfl
        rw [cut,List.forall_mem_cons] at ih
        rw [longer,List.forall_mem_cons,List.forall_mem_cons,List.forall_mem_cons,← ih,or_iff_right same,
          and_assoc]

theorem not_mem_of_mem_splitOn {part : List Char} (member : part ∈ s.splitOn sep) : sep ∉ part := by
  intro inside
  have others : ∀ c ∈ s, c = sep ∨ c ≠ sep := fun c _ => Decidable.em (c = sep)
  exact forall_mem_splitOn_iff.mpr others part member sep inside rfl

theorem splitOn_eq_iff {parts : List (List Char)} : s.splitOn sep = parts ↔ Parted sep parts s := by
  constructor
  · intro read
    rw [← read]
    exact ⟨List.intercalate_splitOn sep,List.splitOn_ne_nil _ _,fun _ => not_mem_of_mem_splitOn⟩
  · intro parted
    obtain ⟨joined,present,apart⟩ := parted
    rw [← joined,List.splitOn_intercalate sep apart present]

-- What stands around a text stands around its first piece and its last.
theorem map_splitOn_between {α : Type} {f : List Char → α} {Around : List Char → Prop}
    (nothing : Around []) (clear : ∀ gap, Around gap → sep ∉ gap)
    (kept : ∀ front piece back, Around front → Around back → f (front ++ piece ++ back) = f piece)
    {front back : List Char} (before : Around front) (after : Around back) (s : List Char) :
    ((front ++ s ++ back).splitOn sep).map f = (s.splitOn sep).map f := by
  induction length : s.length using Nat.strongRecOn generalizing s front with
  | ind n ih =>
      by_cases mark : sep ∈ s
      · obtain ⟨first,rest,rfl,apart⟩ := List.eq_append_cons_of_mem mark
        have shorter : rest.length < n := by
          rw [← length,List.length_append,List.length_cons]
          omega
        have others := ih rest.length shorter nothing rest rfl
        have opening := kept front first [] before nothing
        have outside : sep ∉ front ++ first := by simp [clear front before,apart]
        have whole : front ++ (first ++ sep :: rest) ++ back =
            (front ++ first) ++ sep :: (rest ++ back) := by simp
        rw [List.append_nil] at opening
        rw [List.nil_append] at others
        rw [whole,List.splitOn_append_cons_self_of_not_mem outside,
          List.splitOn_append_cons_self_of_not_mem apart,List.map_cons,List.map_cons,opening,others]
      · have outside : sep ∉ front ++ s ++ back := by
          simp [clear front before,clear back after,mark]
        rw [List.splitOn_eq_singleton outside,List.splitOn_eq_singleton mark,List.map_singleton,
          List.map_singleton,kept front s back before after]

end HttpLayers.Text
