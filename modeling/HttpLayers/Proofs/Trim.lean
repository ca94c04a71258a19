import HttpLayers.Text.Blank

namespace HttpLayers.Text

variable {p : Char → Bool}

-- Neither end of the text belongs to the class; the empty text has no ends.
structure Bare (p : Char → Bool) (s : List Char) : Prop where
  first : ∀ c, s.head? = some c → p c = false
  last : ∀ c, s.getLast? = some c → p c = false

theorem Bare.of_all {s : List Char} (outside : ∀ c ∈ s, p c = false) : Bare p s :=
  ⟨fun c first => outside c (List.mem_of_head? first),
    fun c last => outside c (List.mem_of_getLast? last)⟩

theorem Bare.of_not_mem {mark : Char} {s : List Char} (absent : mark ∉ s) : Bare (· == mark) s := by
  apply Bare.of_all
  intro c member
  rw [beq_eq_false_iff_ne]
  rintro rfl
  exact absent member

theorem Bare.enclosed {opening closing : Char} (first : p opening = false) (last : p closing = false)
    (text : List Char) : Bare p (opening :: (text ++ [closing])) := by
  constructor
  · rintro _ ⟨⟩
    exact first
  · intro c ends
    rw [← List.cons_append,List.getLast?_concat] at ends
    cases Option.some.inj ends
    exact last

theorem dropWhile_bare {s : List Char} (bare : Bare p s) (rest : List Char) (present : s ≠ []) :
    (s ++ rest).dropWhile p = s ++ rest := by
  cases s with
  | nil => exact absurd rfl present
  | cons c s =>
      rw [List.cons_append,List.dropWhile_cons_of_neg]
      simp [bare.first c rfl]

theorem dropEndWhile_ends (s : List Char) :
    ∀ c, (dropEndWhile p s).getLast? = some c → p c = false := by
  intro c last
  have reached : (s.reverse.dropWhile p).head? = some c := by
    rw [← List.getLast?_reverse]; exact last
  have stopped := List.head?_dropWhile_not p s.reverse
  rw [reached] at stopped
  exact stopped

theorem dropEndWhile_of_ends {s : List Char} (ends : ∀ c, s.getLast? = some c → p c = false) :
    dropEndWhile p s = s := by
  cases written : s.reverse with
  | nil => rw [dropEndWhile,written,List.reverse_eq_nil_iff.mp written]; rfl
  | cons c rest =>
      have last : s.getLast? = some c := by rw [List.getLast?_eq_head?_reverse,written]; rfl
      rw [dropEndWhile,written,List.dropWhile_cons_of_neg (by simp [ends c last]),← written,
        List.reverse_reverse]

theorem strip_bare (s : List Char) : Bare p (strip p s) := by
  refine ⟨?_,dropEndWhile_ends _⟩
  intro c first
  obtain ⟨tail,whole,_⟩ := dropEndWhile_append_exists p (s.dropWhile p)
  have reached : (s.dropWhile p).head? = some c := by
    rw [whole,List.head?_append]
    simp only [strip] at first
    rw [first,Option.some_or]
  have stopped := List.head?_dropWhile_not p s
  rw [reached] at stopped
  exact stopped

-- The outer parts are found by the class alone, so what is left does not depend on how the text was
-- cut: any cut with bare inside is this one.
theorem strip_eq_iff {s t : List Char} :
    strip p s = t ↔ ∃ front back, s = front ++ t ++ back ∧
      (∀ c ∈ front, p c = true) ∧ (∀ c ∈ back, p c = true) ∧ Bare p t := by
  constructor
  · rintro rfl
    obtain ⟨back,whole,inside⟩ := dropEndWhile_append_exists p (s.dropWhile p)
    refine ⟨s.takeWhile p,back,?_,?_,inside,strip_bare s⟩
    · rw [List.append_assoc,strip,← whole,List.takeWhile_append_dropWhile]
    · exact List.all_eq_true.mp List.all_takeWhile
  · intro cut
    obtain ⟨front,back,rfl,before,after,bare⟩ := cut
    rw [strip,List.append_assoc,List.dropWhile_append_of_pos before]
    by_cases present : t = []
    · subst present
      have nothing : back.dropWhile p = [] := by
        rw [← List.append_nil back,List.dropWhile_append_of_pos after]
        rfl
      rw [List.nil_append,nothing]
      rfl
    · rw [dropWhile_bare bare back present,dropEndWhile_append_of_all p after,
        dropEndWhile_of_ends bare.last]

theorem strip_of_bare {s : List Char} (bare : Bare p s) : strip p s = s :=
  strip_eq_iff.mpr ⟨[],[],by simp,by simp,by simp,bare⟩

theorem strip_between (s : List Char) {front back : List Char} (before : ∀ c ∈ front, p c = true)
    (after : ∀ c ∈ back, p c = true) : strip p (front ++ s ++ back) = strip p s := by
  obtain ⟨first,last,whole,outer,inner,bare⟩ := strip_eq_iff.mp (Eq.refl (strip p s))
  refine strip_eq_iff.mpr ⟨front ++ first,last ++ back,?_,?_,?_,bare⟩
  · conv => lhs; rw [whole]
    simp only [List.append_assoc]
  · exact List.forall_mem_append.mpr ⟨before,outer⟩
  · exact List.forall_mem_append.mpr ⟨inner,after⟩

theorem strip_front {s : List Char} (ends : ∀ c, s.getLast? = some c → p c = false) :
    ∃ front, s = front ++ strip p s ∧ ∀ c ∈ front, p c = true := by
  obtain ⟨front,back,whole,before,after,_⟩ := strip_eq_iff.mp (Eq.refl (strip p s))
  cases last : back.getLast? with
  | none =>
      have empty : back = [] := List.getLast?_eq_none_iff.mp last
      rw [empty,List.append_nil] at whole
      exact ⟨front,whole,before⟩
  | some c =>
      have outside : p c = false := ends c (by rw [whole,List.getLast?_append,last]; rfl)
      have inside : p c = true := after c (List.mem_of_getLast? last)
      rw [outside] at inside
      cases inside

theorem mem_of_mem_strip {s : List Char} {c : Char} (member : c ∈ strip p s) : c ∈ s := by
  obtain ⟨front,back,whole,_⟩ := strip_eq_iff.mp (Eq.refl (strip p s))
  rw [whole]
  simp [member]

theorem not_blank_of_visible {c : Char} (visible : 32 < c.toNat ∧ c.toNat < 127) :
    isBlank c = false := by
  simp only [isBlank,blankRanges,List.any_cons,List.any_nil,Bool.or_false,Bool.or_eq_false_iff,
    Bool.and_eq_false_iff,decide_eq_false_iff_not]
  omega

-- Nothing but white space, or nothing at all.
def Blank (s : List Char) : Prop := ∀ c ∈ s, isBlank c = true

theorem Blank.nil : Blank [] :=
  List.forall_mem_nil _

theorem Blank.not_mem {s : List Char} (blank : Blank s) {c : Char} (visible : isBlank c = false) :
    c ∉ s := by
  intro member
  cases (blank c member).symm.trans visible

theorem trim_eq_nil_iff {s : List Char} : trim s = [] ↔ Blank s := by
  rw [trim,strip_eq_iff]
  constructor
  · intro cut
    obtain ⟨front,back,rfl,before,after,_⟩ := cut
    rw [List.append_nil]
    exact List.forall_mem_append.mpr ⟨before,after⟩
  · intro blank
    exact ⟨s,[],by simp,blank,Blank.nil,.of_all (List.forall_mem_nil _)⟩

-- The white space that is allowed between parts of a field.
def IsGap (gap : List Char) : Prop := ∀ c ∈ gap, c = ' ' ∨ c = '\t'

instance (gap : List Char) : Decidable (IsGap gap) :=
  decidable_of_iff (gap.all (fun c => c == ' ' || c == '\t') = true) (by simp [IsGap])

theorem IsGap.nil : IsGap [] :=
  List.forall_mem_nil _

theorem IsGap.blank {gap : List Char} (isGap : IsGap gap) : ∀ c ∈ gap, isBlank c = true := by
  intro c member
  rcases isGap c member with rfl | rfl
  · decide
  · decide

theorem IsGap.not_mem {gap : List Char} (isGap : IsGap gap) {c : Char} (mark : c ≠ ' ' ∧ c ≠ '\t') :
    c ∉ gap := by
  intro member
  rcases isGap c member with space | tab
  · exact mark.1 space
  · exact mark.2 tab

end HttpLayers.Text
