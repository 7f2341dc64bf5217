import Mathlib.Data.List.Forall2
import Mathlib.Data.Option.Basic

/-!
# Templates

A template is a row of literals and holes. Values fill its holes in order, a word tells which values
filled them, and two templates have a word in common unless they differ in length or in a literal.
-/

namespace Templates

variable {α : Type*}

/-- A place of a template. -/
inductive Slot (α : Type*) where
  | literal (a : α)
  | hole

/-- Fill the holes in order; `none` when there are too few values or too many. -/
def fill : List (Slot α) → List α → Option (List α)
  | [], [] => some []
  | [], _ :: _ => none
  | .literal a :: slots, values => (fill slots values).map (a :: ·)
  | .hole :: _, [] => none
  | .hole :: slots, value :: values => (fill slots values).map (value :: ·)

/-- A slot takes an element of a word: a literal takes itself, a hole what may fill it. -/
def Slot.Takes (Fills : α → Prop) : Slot α → α → Prop
  | literal a, x => x = a
  | hole, x => Fills x

/-- Two slots agree unless they are different literals. -/
def Slot.Agrees : Slot α → Slot α → Prop
  | literal a, literal b => a = b
  | _, _ => True

/-- A template whose literals could fill a hole too. -/
def IsFillable (Fills : α → Prop) (slots : List (Slot α)) : Prop :=
  ∀ a, Slot.literal a ∈ slots → Fills a

/-! ## The values of a word -/

/-- A word is filled in one way. -/
theorem fill_injective {slots : List (Slot α)} {values values' word : List α}
    (h : fill slots values = some word) (h' : fill slots values' = some word) :
    values = values' := by
  induction slots generalizing values values' word with
  | nil =>
    cases values with
    | cons value values => cases h
    | nil =>
      cases values' with
      | cons value values => cases h'
      | nil => rfl
  | cons slot slots ih =>
    cases slot with
    | literal a =>
      obtain ⟨rest, hrest, rfl⟩ := Option.map_eq_some_iff.1 h
      obtain ⟨rest', hrest', heq⟩ := Option.map_eq_some_iff.1 h'
      obtain rfl := List.tail_eq_of_cons_eq heq
      exact ih hrest hrest'
    | hole =>
      cases values with
      | nil => cases h
      | cons value values =>
        cases values' with
        | nil => cases h'
        | cons value' values' =>
          obtain ⟨rest, hrest, rfl⟩ := Option.map_eq_some_iff.1 h
          obtain ⟨rest', hrest', heq⟩ := Option.map_eq_some_iff.1 h'
          obtain ⟨rfl, rfl⟩ := List.cons.inj heq
          rw [ih hrest hrest']

/-- A word is an instance of a template when its elements are taken one by one. -/
theorem exists_fill_iff {Fills : α → Prop} {slots : List (Slot α)} {word : List α} :
    (∃ values, (∀ value ∈ values, Fills value) ∧ fill slots values = some word) ↔
      List.Forall₂ (Slot.Takes Fills) slots word := by
  constructor
  · rintro ⟨values, hvalues, hfill⟩
    induction slots generalizing values word with
    | nil =>
      cases values with
      | nil =>
        obtain rfl := Option.some.inj hfill
        exact .nil
      | cons value values => cases hfill
    | cons slot slots ih =>
      cases slot with
      | literal a =>
        obtain ⟨rest, hrest, rfl⟩ := Option.map_eq_some_iff.1 hfill
        exact .cons rfl (ih values hvalues hrest)
      | hole =>
        cases values with
        | nil => cases hfill
        | cons value values =>
          obtain ⟨rest, hrest, rfl⟩ := Option.map_eq_some_iff.1 hfill
          obtain ⟨hvalue, hvalues⟩ := List.forall_mem_cons.1 hvalues
          exact .cons hvalue (ih values hvalues hrest)
  · intro h
    induction h with
    | nil => exact ⟨[], fun _ hmem => absurd hmem List.not_mem_nil, rfl⟩
    | @cons slot x slots word htakes hrest ih =>
      obtain ⟨values, hvalues, hfill⟩ := ih
      cases slot with
      | literal a =>
        obtain rfl : x = a := htakes
        exact ⟨values, hvalues, Option.map_eq_some_iff.2 ⟨word, hfill, rfl⟩⟩
      | hole =>
        exact ⟨x :: values, List.forall_mem_cons.2 ⟨htakes, hvalues⟩,
          Option.map_eq_some_iff.2 ⟨word, hfill, rfl⟩⟩

/-- The words of a fillable template are made of what fills holes. -/
theorem IsFillable.word {Fills : α → Prop} {slots : List (Slot α)} {word : List α}
    (h : IsFillable Fills slots) (htakes : List.Forall₂ (Slot.Takes Fills) slots word) :
    ∀ x ∈ word, Fills x := by
  induction htakes with
  | nil => exact fun _ hmem => absurd hmem List.not_mem_nil
  | @cons slot x slots word hslot _ ih =>
    refine List.forall_mem_cons.2 ⟨?_, ih fun a ha => h a (List.mem_cons_of_mem _ ha)⟩
    cases slot with
    | literal a =>
      obtain rfl : x = a := hslot
      exact h x List.mem_cons_self
    | hole => exact hslot

/-- Rows relate in either of two ways when their elements do. -/
theorem forall₂_congr_of_mem {β : Type*} {R S : α → β → Prop} {as : List α} {bs : List β}
    (h : ∀ a, ∀ b ∈ bs, R a b ↔ S a b) : List.Forall₂ R as bs ↔ List.Forall₂ S as bs := by
  rw [List.forall₂_iff_get, List.forall₂_iff_get]
  exact and_congr_right fun _ => forall₃_congr fun i _ hi => h _ _ (List.get_mem bs ⟨i, hi⟩)

/-! ## A word of two templates -/

/-- Two rows relate to one row when their elements relate to one element at every place. -/
theorem exists_forall₂_iff {β γ : Type*} {R : α → γ → Prop} {S : β → γ → Prop} {as : List α}
    {bs : List β} : (∃ cs, List.Forall₂ R as cs ∧ List.Forall₂ S bs cs) ↔
      List.Forall₂ (fun a b => ∃ c, R a c ∧ S b c) as bs := by
  constructor
  · rintro ⟨cs, hR, hS⟩
    induction hR generalizing bs with
    | nil =>
      obtain rfl := List.forall₂_nil_right_iff.1 hS
      exact .nil
    | cons ha _ ih =>
      obtain ⟨b, bs, hb, hbs, rfl⟩ := List.forall₂_cons_right_iff.1 hS
      exact .cons ⟨_, ha, hb⟩ (ih hbs)
  · intro h
    induction h with
    | nil => exact ⟨[], .nil, .nil⟩
    | cons hab _ ih =>
      obtain ⟨c, ha, hb⟩ := hab
      obtain ⟨cs, hR, hS⟩ := ih
      exact ⟨c :: cs, .cons ha hR, .cons hb hS⟩

section Common

variable {Fills : α → Prop} {slots others : List (Slot α)}

/-- Parts that could fill a hole take one element when they agree. -/
theorem Slot.exists_takes_iff {slot other : Slot α} (hfiller : ∃ a, Fills a)
    (hslot : ∀ a, slot = .literal a → Fills a) (hother : ∀ a, other = .literal a → Fills a) :
    (∃ x, slot.Takes Fills x ∧ other.Takes Fills x) ↔ slot.Agrees other := by
  cases slot with
  | literal a =>
    cases other with
    | literal b =>
      constructor
      · rintro ⟨x, hxa, hxb⟩
        exact hxa.symm.trans hxb
      · intro h
        exact ⟨a, rfl, h⟩
    | hole => exact ⟨fun _ => trivial, fun _ => ⟨a, rfl, hslot a rfl⟩⟩
  | hole =>
    cases other with
    | literal b => exact ⟨fun _ => trivial, fun _ => ⟨b, hother b rfl, rfl⟩⟩
    | hole =>
      obtain ⟨a, ha⟩ := hfiller
      exact ⟨fun _ => trivial, fun _ => ⟨a, ha, ha⟩⟩

/-- **Two templates have a word in common when their slots agree one by one.** -/
theorem exists_common_iff (hfiller : ∃ a, Fills a) (hslots : IsFillable Fills slots)
    (hothers : IsFillable Fills others) :
    (∃ word, List.Forall₂ (Slot.Takes Fills) slots word ∧
      List.Forall₂ (Slot.Takes Fills) others word) ↔ List.Forall₂ Slot.Agrees slots others := by
  rw [exists_forall₂_iff, List.forall₂_iff_get, List.forall₂_iff_get]
  refine and_congr_right fun _ => forall₃_congr fun i hi hi' => ?_
  refine Slot.exists_takes_iff hfiller (fun a ha => hslots a ?_) (fun a ha => hothers a ?_)
  · rw [← ha]
    exact List.get_mem slots ⟨i, hi⟩
  · rw [← ha]
    exact List.get_mem others ⟨i, hi'⟩

end Common

end Templates
