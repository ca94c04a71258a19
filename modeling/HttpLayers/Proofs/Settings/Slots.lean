import HttpLayers.Adjustable

-- A policy seen as a row of slots. A setting fills one of them, so of a list of settings the last one
-- for each slot is all that counts.

namespace HttpLayers.Adjustable

-- How a slot is read off a policy, and what a setting puts into it. A setting for another slot puts
-- nothing.
structure Slot (P S : Type) [Adjustable P S] where
  {Value : Type}
  read : P → Value
  given : S → Option Value
  read_set : ∀ policy setting, read (set policy setting) = (given setting).getD (read policy) := by
    rintro _ ⟨⟩ <;> rfl

variable {P S : Type} [Adjustable P S]

namespace Slot

def latest (slot : Slot P S) (settings : List S) : Option slot.Value :=
  (settings.filterMap slot.given).getLast?

theorem latest_append (slot : Slot P S) (first second : List S) :
    slot.latest (first ++ second) = (slot.latest second).or (slot.latest first) := by
  rw [latest,List.filterMap_append,List.getLast?_append]
  rfl

theorem latest_singleton (slot : Slot P S) (setting : S) :
    slot.latest [setting] = slot.given setting := by
  cases filled : slot.given setting <;> simp [latest,filled]

theorem latest_cons (slot : Slot P S) (setting : S) (rest : List S) :
    slot.latest (setting :: rest) = (slot.latest rest).or (slot.given setting) := by
  rw [← List.singleton_append,latest_append,latest_singleton]

theorem read_applyAll (slot : Slot P S) (policy : P) (settings : List S) :
    slot.read (applyAll policy settings) = (slot.latest settings).getD (slot.read policy) := by
  induction settings generalizing policy with
  | nil => rfl
  | cons setting rest ih =>
      change slot.read (applyAll (set policy setting) rest) = _
      rw [ih,slot.read_set,latest_cons]
      cases slot.latest rest <;> rfl

end Slot

-- The slots together are the whole policy, and each setting is about exactly one of them.
structure Layout (P S : Type) [Adjustable P S] where
  slots : List (Slot P S)
  complete : ∀ one other : P, (∀ slot ∈ slots, slot.read one = slot.read other) → one = other := by
    rintro ⟨⟩ ⟨⟩ same; simpa using same
  single : ∀ setting, (slots.filter fun slot => (slot.given setting).isSome).length = 1 := by
    rintro ⟨⟩ <;> rfl

namespace Layout

theorem applyAll_exact (layout : Layout P S) {policy result : P} {settings : List S} :
    result = applyAll policy settings ↔
      ∀ slot ∈ layout.slots, slot.read result = (slot.latest settings).getD (slot.read policy) := by
  constructor
  · rintro rfl slot _
    exact slot.read_applyAll policy settings
  · intro filled
    refine layout.complete _ _ fun slot member => ?_
    rw [filled slot member,slot.read_applyAll]

theorem applyAll_congr (layout : Layout P S) {one other : List S}
    (same : ∀ slot ∈ layout.slots, slot.latest one = slot.latest other) (policy : P) :
    applyAll policy one = applyAll policy other := by
  refine layout.applyAll_exact.mpr fun slot member => ?_
  rw [slot.read_applyAll,same slot member]

theorem applyAll_twice (layout : Layout P S) (policy : P) (settings : List S) :
    applyAll policy (settings ++ settings) = applyAll policy settings := by
  refine layout.applyAll_congr (fun slot _ => ?_) policy
  rw [slot.latest_append,Option.or_self]

theorem applyAll_repeat (layout : Layout P S) (policy : P) (before : List S) (setting : S)
    (after : List S) : applyAll policy (before ++ setting :: setting :: after) =
      applyAll policy (before ++ setting :: after) := by
  refine layout.applyAll_congr (fun slot _ => ?_) policy
  simp only [Slot.latest_append,Slot.latest_cons,Option.or_assoc,Option.or_self]

def Apart (layout : Layout P S) (one other : S) : Prop :=
  ∀ slot ∈ layout.slots, slot.given one = none ∨ slot.given other = none

theorem applyAll_swap (layout : Layout P S) {one other : S} (apart : layout.Apart one other)
    (policy : P) (before after : List S) : applyAll policy (before ++ one :: other :: after) =
      applyAll policy (before ++ other :: one :: after) := by
  refine layout.applyAll_congr (fun slot member => ?_) policy
  simp only [Slot.latest_append,Slot.latest_cons,Option.or_assoc]
  rcases apart slot member with silent | silent <;> simp only [silent,Option.none_or]

end Layout

end HttpLayers.Adjustable
