import HttpLayers.Http.Field
import HttpLayers.Text.Shown

-- A name may occur more than once; the first of its values counts where only one is wanted.

namespace HttpLayers.Http

structure Headers where
  fields : List (FieldName × FieldValue) := []
  deriving DecidableEq, Repr

namespace Headers

def empty : Headers where

def values (headers : Headers) (name : FieldName) : List FieldValue :=
  (headers.fields.filter (·.1 == name)).map (·.2)

def get? (headers : Headers) (name : FieldName) : Option FieldValue :=
  (headers.values name).head?

def text? (headers : Headers) (name : FieldName) : Option (List Char) :=
  (headers.get? name).bind FieldValue.text?

def contains (headers : Headers) (name : FieldName) : Bool :=
  headers.fields.any (·.1 == name)

def append (headers : Headers) (name : FieldName) (value : FieldValue) : Headers :=
  ⟨headers.fields ++ [(name,value)]⟩

def erase (headers : Headers) (name : FieldName) : Headers :=
  ⟨headers.fields.filter (·.1 != name)⟩

def insert (headers : Headers) (name : FieldName) (value : FieldValue) : Headers :=
  (headers.erase name).append name value

def insertIfAbsent (headers : Headers) (name : FieldName) (value : FieldValue) : Headers :=
  if headers.contains name then headers else headers.append name value

def insertAll (headers : Headers) (pairs : List (FieldName × FieldValue)) : Headers :=
  pairs.foldl (fun kept pair => kept.insert pair.1 pair.2) headers

-- As they are sent.
def written (headers : Headers) : List (String × Bytes) :=
  headers.fields.map fun field => (field.1.text,field.2.bytes)

def sorted (headers : Headers) : List (FieldName × FieldValue) :=
  headers.fields.mergeSort fun a b => a.1.text ≤ b.1.text

def names (headers : Headers) : List FieldName :=
  (headers.fields.map (·.1)).eraseDups

def shown (headers : Headers) : String :=
  let field (name : FieldName) (value : FieldValue) :=
    Text.quoted name.text ++ ": " ++ value.quoted
  let all := headers.names.flatMap fun name => (headers.values name).map (field name)
  "\x7b" ++ ", ".intercalate all ++ "\x7d"

@[simp] theorem values_empty (name : FieldName) : Headers.empty.values name = [] := rfl

theorem values_written (headers : Headers) (name : FieldName) :
    (headers.values name).map (·.bytes) =
      (headers.written.filter (·.1 == name.text)).map (·.2) := by
  have same : ∀ field : FieldName × FieldValue,
      (field.1 == name) = (field.1.text == name.text) := fun field => by
    rw [Bool.eq_iff_iff,beq_iff_eq,beq_iff_eq,FieldName.ext_iff]
  simp only [values,written,List.filter_map,List.map_map,same]
  rfl

theorem values_append (headers : Headers) (name other : FieldName) (value : FieldValue) :
    (headers.append name value).values other =
      headers.values other ++ if name = other then [value] else [] := by
  by_cases same : name = other <;> simp [append,values,same]

theorem values_erase (headers : Headers) (name other : FieldName) :
    (headers.erase name).values other = if name = other then [] else headers.values other := by
  by_cases same : name = other
  · subst same
    simp [erase,values,List.filter_filter]
  · have kept : ∀ pair : FieldName × FieldValue,
        (pair.1 == other && pair.1 != name) = (pair.1 == other) := by
      intro pair
      by_cases hit : pair.1 = other
      · have differs : other ≠ name := fun equal => same equal.symm
        simp [hit,differs]
      · simp [hit]
    simp [erase,values,List.filter_filter,same,kept]

theorem values_insert (headers : Headers) (name other : FieldName) (value : FieldValue) :
    (headers.insert name value).values other =
      if name = other then [value] else headers.values other := by
  by_cases same : name = other <;> simp [insert,values_append,values_erase,same]

theorem values_cons (pair : FieldName × FieldValue) (rest : List (FieldName × FieldValue))
    (name : FieldName) :
    (Headers.mk (pair :: rest)).values name =
      if pair.1 = name then pair.2 :: (Headers.mk rest).values name
      else (Headers.mk rest).values name := by
  by_cases same : pair.1 = name <;> simp [values,same]

theorem values_concat (first second : List (FieldName × FieldValue)) (name : FieldName) :
    (Headers.mk (first ++ second)).values name =
      (Headers.mk first).values name ++ (Headers.mk second).values name := by
  simp [values]

-- Of the pairs for one name the last decides.
theorem values_insertAll (headers : Headers) (pairs : List (FieldName × FieldValue))
    (name : FieldName) :
    (headers.insertAll pairs).values name =
      match ((Headers.mk pairs).values name).getLast? with
      | some value => [value]
      | none => headers.values name := by
  induction pairs generalizing headers with
  | nil => rfl
  | cons pair rest ih =>
      change ((headers.insert pair.1 pair.2).insertAll rest).values name = _
      rw [ih,values_insert,values_cons]
      by_cases same : pair.1 = name
      · rw [if_pos same,if_pos same,List.getLast?_cons]
        cases ((Headers.mk rest).values name).getLast? <;> rfl
      · rw [if_neg same,if_neg same]

theorem contains_iff {headers : Headers} {name : FieldName} :
    headers.contains name = true ↔ headers.values name ≠ [] := by
  simp [contains,values,List.filter_eq_nil_iff]

theorem get?_insert (headers : Headers) (name other : FieldName) (value : FieldValue) :
    (headers.insert name value).get? other =
      if name = other then some value else headers.get? other := by
  rw [get?,get?,values_insert]
  split <;> rfl

theorem get?_erase (headers : Headers) (name other : FieldName) :
    (headers.erase name).get? other = if name = other then none else headers.get? other := by
  rw [get?,get?,values_erase]
  split <;> rfl

-- A value is put only where there is none, so the values of a name that has some are never touched.
theorem values_insertIfAbsent (headers : Headers) (name other : FieldName) (value : FieldValue) :
    (headers.insertIfAbsent name value).values other =
      if name = other ∧ headers.values other = [] then [value] else headers.values other := by
  unfold insertIfAbsent
  by_cases present : headers.contains name = true
  · rw [if_pos present,if_neg]
    rintro ⟨rfl,empty⟩
    exact contains_iff.mp present empty
  · have empty : headers.values name = [] := by
      simpa [contains_iff] using present
    rw [if_neg present,values_append]
    by_cases same : name = other
    · subst same
      simp [empty]
    · simp [same]

end Headers

end HttpLayers.Http
