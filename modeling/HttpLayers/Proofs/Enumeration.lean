import HttpLayers.Policy.NoCache
import HttpLayers.Policy.SetHeader
import HttpLayers.Proofs.HeaderPatch

-- A table of headers has no order of its own, and its pairs are read in whatever order they come. The
-- sort by name hides that order as long as no two pairs want different values for one name: names
-- that differ in case only are one name, and among those the sort keeps the pairs as they came.

namespace HttpLayers.Http.HeaderPatch

variable {entries order : List (String × String)} {name : FieldName} {value : FieldValue}

def legal (entries : List (String × String)) : List (FieldName × FieldValue) :=
  entries.filterMap fun entry => field? entry.1 entry.2

def notAfter (one other : FieldName × FieldValue) : Bool :=
  decide (one.1.text ≤ other.1.text)

theorem notAfter_trans (one two three : FieldName × FieldValue) (first : notAfter one two = true)
    (second : notAfter two three = true) : notAfter one three = true :=
  decide_eq_true (String.le_trans (of_decide_eq_true first) (of_decide_eq_true second))

theorem notAfter_total (one other : FieldName × FieldValue) :
    (notAfter one other || notAfter other one) = true := by
  rw [Bool.or_eq_true]
  exact (String.le_total one.1.text other.1.text).imp decide_eq_true decide_eq_true

theorem sortedFields_perm (entries : List (String × String)) :
    (sortedFields entries).Perm (legal entries) :=
  List.mergeSort_perm ..

theorem sortedFields_sorted (entries : List (String × String)) :
    (sortedFields entries).Pairwise fun one other => notAfter one other = true :=
  List.pairwise_mergeSort notAfter_trans notAfter_total (legal entries)

theorem sortedFields_ordered
    (ordered : (legal entries).Pairwise fun one other => notAfter one other = true) :
    sortedFields entries = legal entries :=
  List.mergeSort_of_pairwise ordered

-- The sort leaves the pairs of one name in the order in which they came.
theorem values_sortedFields (entries : List (String × String)) (name : FieldName) :
    (Headers.mk (sortedFields entries)).values name = (Headers.mk (legal entries)).values name := by
  let named := fun field : FieldName × FieldValue => field.1 == name
  have tied : ((legal entries).filter named).Pairwise fun one other => notAfter one other = true := by
    refine List.pairwise_of_forall_mem_list fun one first other second => ?_
    have same : one.1 = other.1 := (beq_iff_eq.mp (List.mem_filter.mp first).2).trans
      (beq_iff_eq.mp (List.mem_filter.mp second).2).symm
    exact decide_eq_true (same ▸ String.le_refl _)
  have kept := (List.sublist_mergeSort notAfter_trans notAfter_total tied
    List.filter_sublist).filter named
  rw [List.filter_filter] at kept
  simp only [Bool.and_self] at kept
  have same := kept.eq_of_length ((sortedFields_perm entries).filter named).length_eq.symm
  exact congrArg (List.map Prod.snd) same.symm

def Agree (entries : List (String × String)) : Prop :=
  ∀ name one other, (name,one) ∈ legal entries → (name,other) ∈ legal entries → one = other

theorem legal_perm (reordered : order.Perm entries) : (legal order).Perm (legal entries) :=
  reordered.filterMap _

theorem sortedFields_reordered (reordered : order.Perm entries) :
    (sortedFields order).Perm (sortedFields entries) :=
  (sortedFields_perm order).trans ((legal_perm reordered).trans (sortedFields_perm entries).symm)

theorem names_reordered (reordered : order.Perm entries) :
    (sortedFields order).map (·.1) = (sortedFields entries).map (·.1) := by
  have sorted : ∀ listed : List (String × String),
      ((sortedFields listed).map (·.1)).Pairwise (·.text ≤ ·.text) := fun listed =>
    List.pairwise_map.mpr ((sortedFields_sorted listed).imp of_decide_eq_true)
  refine List.Perm.eq_of_pairwise ?_ (sorted order) (sorted entries)
    ((sortedFields_reordered reordered).map _)
  intro one other _ _ before after
  exact FieldName.ext (String.le_antisymm before after)

theorem sortedFields_agreed (agree : Agree entries) (reordered : order.Perm entries) :
    sortedFields order = sortedFields entries := by
  have again := sortedFields_reordered reordered
  refine List.Perm.eq_of_pairwise ?_ (sortedFields_sorted order) (sortedFields_sorted entries) again
  intro one other first second before after
  have same : one.1 = other.1 :=
    FieldName.ext (String.le_antisymm (of_decide_eq_true before) (of_decide_eq_true after))
  have listed := (sortedFields_perm entries).mem_iff.mp (again.mem_iff.mp first)
  have also := (sortedFields_perm entries).mem_iff.mp second
  refine Prod.ext same (agree one.1 one.2 other.2 listed ?_)
  rw [same]
  exact also

theorem mem_legal : (name,value) ∈ legal entries ↔
    ∃ entry ∈ entries, field? entry.1 entry.2 = some (name,value) :=
  List.mem_filterMap

end HttpLayers.Http.HeaderPatch

namespace HttpLayers

open Http HeaderPatch

-- The two policies that hold a table of headers for responses.
inductive Tabled where
  | setHeader (overwrite : Bool)
  | noCache (etagHeaders : Option (List String))

namespace Tabled

variable {entries order : List (String × String)} {entry : String × String} {name : FieldName}
  {value : FieldValue}

-- The patch where the pairs of the table are read in this order.
def patch (policy : Tabled) (order : List (String × String)) : HeaderPatch :=
  match policy with
  | setHeader overwrite => SetHeader.patch { headers := some order,overwrite }
  | noCache etagHeaders => NoCache.patch { headers := some order,etagHeaders }

theorem set_patch (policy : Tabled) (order : List (String × String)) :
    (policy.patch order).set = sortedFields order := by
  cases policy <;> rfl

def overwrites : Tabled → Bool
  | setHeader overwrite => overwrite
  | noCache _ => true

theorem overwrite_patch (policy : Tabled) (order : List (String × String)) :
    (policy.patch order).overwrite = policy.overwrites := by
  cases policy <;> rfl

theorem values_patch (policy : Tabled) (order : List (String × String)) (name : FieldName) :
    (Headers.mk (policy.patch order).set).values name = (Headers.mk (legal order)).values name := by
  rw [set_patch,values_sortedFields]

-- Any pair of the table may be the one that decides, as it happens to be read first or last.
theorem can_decide (policy : Tabled) (listed : entry ∈ entries)
    (read : field? entry.1 entry.2 = some (name,value)) :
    ∃ order, order.Perm entries ∧ ((policy.patch order).apply .empty).values name = [value] := by
  have split := List.perm_cons_erase listed
  cases mode : policy.overwrites with
  | true =>
      refine ⟨entries.erase entry ++ [entry],(List.perm_append_singleton ..).trans split.symm,?_⟩
      have last : legal (entries.erase entry ++ [entry]) =
          legal (entries.erase entry) ++ [(name,value)] := by
        rw [legal,List.filterMap_append]
        exact congrArg (legal _ ++ ·) (List.filterMap_cons_some read)
      rw [apply_overwriting ((overwrite_patch ..).trans mode),Headers.values_insertAll,values_patch,
        last,Headers.values_concat,Headers.values_cons,if_pos rfl]
      simp [Headers.values]
  | false =>
      refine ⟨entry :: entries.erase entry,split.symm,?_⟩
      have first : legal (entry :: entries.erase entry) =
          (name,value) :: legal (entries.erase entry) := List.filterMap_cons_some read
      rw [apply_yielding ((overwrite_patch ..).trans mode),Headers.values_insertAllAbsent,
        values_patch,first,Headers.values_cons,if_pos rfl]
      rfl

theorem set_agreed (policy : Tabled) (agree : Agree entries) (reordered : order.Perm entries) :
    (policy.patch order).set = (policy.patch entries).set := by
  rw [set_patch,set_patch]
  exact sortedFields_agreed agree reordered

theorem apply_of_set {policy : Tabled}
    (same : (policy.patch order).set = (policy.patch entries).set) (given : Headers) :
    (policy.patch order).apply given = (policy.patch entries).apply given := by
  unfold HeaderPatch.apply
  rw [same,overwrite_patch,overwrite_patch]

-- Of two pairs that disagree each decides in some order, and no other headers are needed to see it.
theorem agree_of_applied {policy : Tabled} (same : ∀ order : List (String × String),
    order.Perm entries → (policy.patch order).apply .empty = (policy.patch entries).apply .empty) :
    Agree entries := by
  intro name one other first second
  obtain ⟨_,listed,read⟩ := mem_legal.mp first
  obtain ⟨_,also,reads⟩ := mem_legal.mp second
  obtain ⟨order,reordered,decides⟩ := policy.can_decide listed read
  obtain ⟨others,again,overrules⟩ := policy.can_decide also reads
  rw [same order reordered] at decides
  rw [same others again] at overrules
  exact (List.cons.inj (decides.symm.trans overrules)).1

theorem order_hidden_exactly (policy : Tabled) (entries : List (String × String)) :
    (∀ order : List (String × String), order.Perm entries →
      (policy.patch order).set.Perm (policy.patch entries).set ∧
      (policy.patch order).set.map (·.1) = (policy.patch entries).set.map (·.1)) ∧
    (Agree entries ↔ ∀ order : List (String × String), order.Perm entries →
      (policy.patch order).set = (policy.patch entries).set) ∧
    (Agree entries ↔ ∀ order : List (String × String), order.Perm entries →
      ∀ given, (policy.patch order).apply given = (policy.patch entries).apply given) := by
  refine ⟨?names,⟨?hidden,?shown⟩,?unseen,?seen⟩
  case names =>
    intro order reordered
    rw [set_patch,set_patch]
    exact ⟨sortedFields_reordered reordered,names_reordered reordered⟩
  case hidden => exact fun agree _ reordered => policy.set_agreed agree reordered
  case shown =>
    exact fun same => agree_of_applied fun order reordered =>
      apply_of_set (same order reordered) .empty
  case unseen => exact fun agree _ reordered => apply_of_set (policy.set_agreed agree reordered)
  case seen => exact fun same => agree_of_applied fun order reordered => same order reordered .empty

def cased : List (String × String) :=
  [("X-A","1"),("x-a","2")]

theorem case_shows_order :
    let read := (setHeader true).patch cased
    let other := (setHeader true).patch cased.reverse
    cased.reverse.Perm cased ∧
    read.set = [(.of "x-a",.of "1"),(.of "x-a",.of "2")] ∧
    other.set = [(.of "x-a",.of "2"),(.of "x-a",.of "1")] ∧
    (read.apply .empty).values (.of "x-a") = [.of "2"] ∧
    (other.apply .empty).values (.of "x-a") = [.of "1"] := by
  refine ⟨List.reverse_perm _,?set,?setOther,?sent,?sentOther⟩
  case set => exact (set_patch ..).trans (sortedFields_ordered (by decide +kernel))
  case setOther => exact (set_patch ..).trans (sortedFields_ordered (by decide +kernel))
  case sent =>
    rw [apply_overwriting (overwrite_patch ..),Headers.values_insertAll,values_patch]
    rfl
  case sentOther =>
    rw [apply_overwriting (overwrite_patch ..),Headers.values_insertAll,values_patch]
    rfl

end Tabled

end HttpLayers
