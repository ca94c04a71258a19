import HttpLayers.Http.HeaderPatch
import HttpLayers.Proofs.Recorded

-- A rule may name what an earlier one has set, and is put to the headers as they are by then. So what
-- a response has under a name is the doing of one rule: the last where rules overwrite, the first
-- where they yield.

namespace HttpLayers.Http.Headers

variable {pairs : List (FieldName × FieldValue)} {name : FieldName} {value : FieldValue}

theorem values_eq_nil_iff :
    (Headers.mk pairs).values name = [] ↔ ∀ value, (name,value) ∉ pairs := by
  rw [values,List.map_eq_nil_iff,List.filter_eq_nil_iff]
  constructor
  · intro absent value member
    exact absent (name,value) member (beq_self_eq_true name)
  · intro absent pair member same
    cases beq_iff_eq.mp same
    exact absent pair.2 member

theorem values_cut {before after : List (FieldName × FieldValue)} :
    (Headers.mk (before ++ (name,value) :: after)).values name =
      (Headers.mk before).values name ++ value :: (Headers.mk after).values name := by
  rw [values_concat,values_cons,if_pos rfl]

theorem values_head? : ((Headers.mk pairs).values name).head? = some value ↔
    ∃ before after, pairs = before ++ (name,value) :: after ∧
      ∀ earlier, (name,earlier) ∉ before := by
  constructor
  · intro first
    rw [values,List.head?_map,List.head?_filter,Option.map_eq_some_iff] at first
    obtain ⟨pair,found,rfl⟩ := first
    obtain ⟨named,before,after,cut,others⟩ := List.find?_eq_some_iff_append.mp found
    cases beq_iff_eq.mp named
    refine ⟨before,after,cut,?_⟩
    intro earlier member
    have other := others _ member
    simp at other
  · intro found
    obtain ⟨before,after,rfl,first⟩ := found
    rw [values_cut,values_eq_nil_iff.mpr first]
    rfl

theorem values_getLast? : ((Headers.mk pairs).values name).getLast? = some value ↔
    ∃ before after, pairs = before ++ (name,value) :: after ∧
      ∀ later, (name,later) ∉ after := by
  have mirrored : ((Headers.mk pairs).values name).getLast? =
      ((Headers.mk pairs.reverse).values name).head? := by
    rw [values,values,List.filter_reverse,List.map_reverse,List.getLast?_eq_head?_reverse]
  rw [mirrored,values_head?]
  constructor
  · intro found
    obtain ⟨after,before,cut,last⟩ := found
    refine ⟨before.reverse,after.reverse,?_,?_⟩
    · rw [← List.reverse_reverse pairs,cut]
      simp
    · simpa using last
  · intro found
    obtain ⟨before,after,rfl,last⟩ := found
    exact ⟨after.reverse,before.reverse,by simp,by simpa using last⟩

-- Of the pairs that keep what is there the first decides.
theorem values_insertAllAbsent (pairs : List (FieldName × FieldValue)) (headers : Headers)
    (name : FieldName) :
    (pairs.foldl (fun kept pair => kept.insertIfAbsent pair.1 pair.2) headers).values name =
      if headers.values name = [] then ((Headers.mk pairs).values name).head?.toList
      else headers.values name := by
  induction pairs generalizing headers with
  | nil =>
      change headers.values name = if headers.values name = [] then [] else headers.values name
      split
      · assumption
      · rfl
  | cons pair rest ih =>
      rw [List.foldl_cons,ih,values_insertIfAbsent,values_cons]
      by_cases absent : headers.values name = []
      · by_cases same : pair.1 = name <;> simp [absent,same]
      · simp [absent]

theorem values_eraseAll (names : List FieldName) (headers : Headers) (name : FieldName) :
    (names.foldl erase headers).values name =
      if name ∈ names then [] else headers.values name := by
  induction names generalizing headers with
  | nil => rfl
  | cons first rest ih =>
      rw [List.foldl_cons,ih,values_erase]
      by_cases later : name ∈ rest
      · simp [later]
      · by_cases same : first = name
        · simp [same]
        · simp [later,same,Ne.symm same]

end HttpLayers.Http.Headers

namespace HttpLayers.Http.HeaderPatch

-- What a response has under a name once the rules are done with it.
inductive Carries (patch : HeaderPatch) (given : Headers) (name : FieldName) :
    List FieldValue → Prop where
  | unruled (free : ∀ value, (name,value) ∉ patch.set) :
      Carries patch given name (given.values name)
  | replaced {before after : List (FieldName × FieldValue)} {value : FieldValue}
      (overwrites : patch.overwrite = true) (cut : patch.set = before ++ (name,value) :: after)
      (last : ∀ later, (name,later) ∉ after) : Carries patch given name [value]
  | kept (yields : patch.overwrite = false) (present : given.values name ≠ []) :
      Carries patch given name (given.values name)
  | filled {before after : List (FieldName × FieldValue)} {value : FieldValue}
      (yields : patch.overwrite = false) (absent : given.values name = [])
      (cut : patch.set = before ++ (name,value) :: after)
      (first : ∀ earlier, (name,earlier) ∉ before) : Carries patch given name [value]

variable {patch : HeaderPatch} {given : Headers} {name : FieldName} {values : List FieldValue}

theorem values_strip (patch : HeaderPatch) (given : Headers) (name : FieldName) :
    (patch.strip given).values name = if name ∈ patch.removed then [] else given.values name :=
  Headers.values_eraseAll patch.removed given name

theorem apply_overwriting (overwrites : patch.overwrite = true) (given : Headers) :
    patch.apply given = given.insertAll patch.set := by
  unfold apply
  simp only [overwrites]
  rfl

theorem apply_yielding (yields : patch.overwrite = false) (given : Headers) :
    patch.apply given =
      patch.set.foldl (fun kept pair => kept.insertIfAbsent pair.1 pair.2) given := by
  unfold apply
  simp only [yields]
  rfl

theorem apply_unruled (free : ∀ value, (name,value) ∉ patch.set) (given : Headers) :
    (patch.apply given).values name = given.values name := by
  have none := Headers.values_eq_nil_iff.mpr free
  cases mode : patch.overwrite with
  | true => rw [apply_overwriting mode,Headers.values_insertAll,none]; rfl
  | false =>
      rw [apply_yielding mode,Headers.values_insertAllAbsent,none]
      split
      · rename_i absent
        exact absent.symm
      · rfl

theorem apply_exact : (patch.apply given).values name = values ↔ Carries patch given name values := by
  constructor
  · rintro rfl
    by_cases free : ∀ value, (name,value) ∉ patch.set
    · rw [apply_unruled free]
      exact .unruled free
    · have ruled := mt Headers.values_eq_nil_iff.mp free
      cases mode : patch.overwrite with
      | true =>
          have found := List.getLast?_eq_some_getLast ruled
          obtain ⟨_,_,cut,last⟩ := Headers.values_getLast?.mp found
          rw [apply_overwriting mode,Headers.values_insertAll,found]
          exact .replaced mode cut last
      | false =>
          rw [apply_yielding mode,Headers.values_insertAllAbsent]
          split
          · rename_i absent
            have found := List.head?_eq_some_head ruled
            obtain ⟨_,_,cut,first⟩ := Headers.values_head?.mp found
            rw [found]
            exact .filled mode absent cut first
          · rename_i present
            exact .kept mode present
  · intro carries
    cases carries with
    | unruled free => exact apply_unruled free given
    | replaced mode cut last =>
        rw [apply_overwriting mode,Headers.values_insertAll,
          Headers.values_getLast?.mpr ⟨_,_,cut,last⟩]
    | kept mode present =>
        rw [apply_yielding mode,Headers.values_insertAllAbsent,if_neg present]
    | filled mode absent cut first =>
        rw [apply_yielding mode,Headers.values_insertAllAbsent,if_pos absent,
          Headers.values_head?.mpr ⟨_,_,cut,first⟩]
        rfl

-- No rule takes a name away, and every rule leaves its own.
theorem values_apply_ne_nil :
    (patch.apply given).values name ≠ [] ↔
      name ∈ patch.set.map (·.1) ∨ given.values name ≠ [] := by
  have carries := apply_exact.mp (rfl : (patch.apply given).values name = _)
  generalize (patch.apply given).values name = values at carries
  cases carries with
  | unruled free =>
      refine ⟨.inr,?_⟩
      rintro (ruled | present)
      · obtain ⟨⟨_,value⟩,member,rfl⟩ := List.mem_map.mp ruled
        exact absurd member (free value)
      · exact present
  | kept _ present => exact ⟨.inr,fun _ => present⟩
  | replaced _ cut | filled _ _ cut =>
      refine ⟨fun _ => .inl ?_,fun _ => List.cons_ne_nil _ _⟩
      rw [cut]
      simp

-- The rules that are not overruled later in the list.
def lasting : List (FieldName × FieldValue) → List (FieldName × FieldValue)
  | [] => []
  | rule :: rest =>
    if rest.any (·.1 == rule.1) then lasting rest else rule :: lasting rest

def spared (rules : List (FieldName × FieldValue)) (headers : Headers) :
    List (FieldName × FieldValue) :=
  headers.fields.filter fun field => !rules.any (·.1 == field.1)

theorem spared_nil (headers : Headers) : spared [] headers = headers.fields :=
  List.filter_eq_self.mpr fun _ _ => rfl

theorem spared_insert (headers : Headers) (rule : FieldName × FieldValue)
    (rest : List (FieldName × FieldValue)) : spared rest (headers.insert rule.1 rule.2) =
      spared (rule :: rest) headers ++ if rest.any (·.1 == rule.1) then [] else [rule] := by
  have other : ∀ field : FieldName × FieldValue,
      (!rest.any (·.1 == field.1) && field.1 != rule.1) =
        !(rule :: rest).any (·.1 == field.1) := by
    intro field
    rw [List.any_cons,Bool.not_or,Bool.and_comm,bne,Bool.beq_comm]
  rw [spared,Headers.insert,Headers.append,List.filter_append,Headers.erase,List.filter_filter]
  simp only [other]
  cases later : rest.any (·.1 == rule.1) <;> simp [later,spared]

theorem insertAll_fields (headers : Headers) (rules : List (FieldName × FieldValue)) :
    headers.insertAll rules = ⟨spared rules headers ++ lasting rules⟩ := by
  induction rules generalizing headers with
  | nil =>
      rw [spared_nil,lasting,List.append_nil]
      rfl
  | cons rule rest ih =>
      change (headers.insert rule.1 rule.2).insertAll rest = _
      rw [ih,spared_insert,lasting,List.append_assoc]
      cases rest.any (·.1 == rule.1) <;> rfl

theorem lasting_subset (rules : List (FieldName × FieldValue)) : lasting rules ⊆ rules := by
  induction rules with
  | nil => exact List.Subset.refl _
  | cons rule rest ih =>
      rw [lasting]
      split
      · exact List.subset_cons_of_subset rule ih
      · exact List.cons_subset_cons rule ih

theorem insertAll_insertAll (headers : Headers) (rules : List (FieldName × FieldValue)) :
    (headers.insertAll rules).insertAll rules = headers.insertAll rules := by
  have ruled : (lasting rules).filter (fun field => !rules.any (·.1 == field.1)) = [] := by
    refine List.filter_eq_nil_iff.mpr fun field member => ?_
    have named : rules.any (·.1 == field.1) = true :=
      List.any_eq_true.mpr ⟨field,lasting_subset rules member,beq_self_eq_true _⟩
    rw [named]
    exact Bool.false_ne_true
  rw [insertAll_fields (headers.insertAll rules),insertAll_fields headers,spared,List.filter_append,
    ruled,List.append_nil,spared,List.filter_filter]
  simp only [Bool.and_self]

theorem foldl_settled {α β : Type} {step : α → β → α} {reached : α} {items : List β}
    (settled : ∀ item ∈ items, step reached item = reached) :
    items.foldl step reached = reached := by
  induction items with
  | nil => rfl
  | cons item rest ih =>
      obtain ⟨first,others⟩ := List.forall_mem_cons.mp settled
      rw [List.foldl_cons,first]
      exact ih others

theorem apply_apply (patch : HeaderPatch) (given : Headers) :
    patch.apply (patch.apply given) = patch.apply given := by
  cases mode : patch.overwrite with
  | true =>
      rw [apply_overwriting mode,apply_overwriting mode]
      exact insertAll_insertAll given patch.set
  | false =>
      rw [apply_yielding mode (patch.apply given)]
      -- A name that has a value keeps it, and by now each rule has given its own one.
      refine foldl_settled fun rule member => if_pos (Headers.contains_iff.mpr ?_)
      exact values_apply_ne_nil.mpr (.inl (List.mem_map_of_mem member))

theorem erase_settled {headers : Headers} {name : FieldName} (gone : headers.values name = []) :
    headers.erase name = headers := by
  refine congrArg Headers.mk (List.filter_eq_self.mpr fun field member => bne_iff_ne.mpr ?_)
  rintro rfl
  exact Headers.values_eq_nil_iff.mp gone field.2 member

theorem strip_strip (patch : HeaderPatch) (given : Headers) :
    patch.strip (patch.strip given) = patch.strip given :=
  foldl_settled fun name listed => erase_settled (by rw [values_strip,if_pos listed])

section

variable {m : Type → Type}

theorem layer_layer [Functor m] [LawfulFunctor m] (patch : HeaderPatch) (inner : Service m) :
    patch.layer (patch.layer inner) = patch.layer inner := by
  funext request
  unfold layer
  rw [← comp_map,strip_strip]
  simp only [Function.comp_def,apply_apply]

-- Each name is looked at on its own: how the names stand among one another is left open.
theorem rules_exact [Monad m] [LawfulMonad m] (patch : HeaderPatch) (inner : Service m)
    (request : Request) (seen : List Request) :
    (patch.layer (recorded inner) request).run seen =
      (fun response => ({ response with headers := patch.apply response.headers },
        seen ++ [{ request with headers := patch.strip request.headers }])) <$>
        inner { request with headers := patch.strip request.headers } ∧
    (∀ name, (patch.strip request.headers).values name =
      if name ∈ patch.removed then [] else request.headers.values name) ∧
    (∀ given name values,
      (patch.apply given).values name = values ↔ Carries patch given name values) ∧
    patch.layer (patch.layer inner) = patch.layer inner := by
  refine ⟨?_,values_strip patch request.headers,fun _ _ _ => apply_exact,layer_layer patch inner⟩
  rw [layer,StateT.run_map,run_recorded,Functor.map_map]

end

def yielding : HeaderPatch where
  set := [(.of "x-a",.of "1"),(.of "x-b",.of "2"),(.of "x-a",.of "3")]

def answered : Headers :=
  ⟨[(.of "x-b",.of "own")]⟩

theorem first_rule_fills :
    (yielding.apply answered).values (.of "x-a") = [.of "1"] ∧
    (yielding.apply answered).values (.of "x-b") = answered.values (.of "x-b") := by
  have carried := (rules_exact yielding (fun _ => (pure { status := 200 } : Id _)) {} []).2.2.1
  have filled : Carries yielding answered (.of "x-a") [.of "1"] :=
    .filled rfl (by decide) (List.nil_append _).symm fun _ => List.not_mem_nil
  have kept : Carries yielding answered (.of "x-b") (answered.values (.of "x-b")) := .kept rfl (by decide)
  exact ⟨(carried ..).mpr filled,(carried ..).mpr kept⟩

end HttpLayers.Http.HeaderPatch
