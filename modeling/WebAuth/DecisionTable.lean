import Mathlib

/-!
# Decision tables

A table lists rows, each of which applies or not, and the first row that applies decides. At most
one row is the first, and either one is or none applies.
-/

namespace DecisionTable

variable {α : Type*} {P Q : α → Prop}

/-- The first row of a table that applies. -/
inductive First (P : α → Prop) : List α → α → Prop
  | here {a : α} {rows : List α} (h : P a) : First P (a :: rows) a
  | later {a b : α} {rows : List α} (h : ¬P b) (next : First P rows a) : First P (b :: rows) a

theorem First.applies {rows : List α} {a : α} (h : First P rows a) : P a := by
  induction h with
  | here h => exact h
  | later _ _ ih => exact ih

theorem First.mem {rows : List α} {a : α} (h : First P rows a) : a ∈ rows := by
  induction h with
  | here _ => exact List.mem_cons_self
  | later _ _ ih => exact List.mem_cons_of_mem _ ih

/-- No row before the first one applies. -/
theorem First.earlier {before after : List α} {b : α} (h : First P (before ++ after) b)
    (hb : b ∉ before) : ∀ c ∈ before, ¬P c := by
  induction before with
  | nil => simp
  | cons d before ih =>
    rw [List.mem_cons, not_or] at hb
    cases h with
    | here => exact absurd rfl hb.1
    | later hd next =>
      intro c hc
      rcases List.mem_cons.1 hc with rfl | hc
      · exact hd
      · exact ih next hb.2 c hc

/-- The first row stands alone. -/
theorem First.unique {rows : List α} {a b : α} (ha : First P rows a) (hb : First P rows b) :
    a = b := by
  induction ha with
  | here h =>
    cases hb with
    | here => rfl
    | later hn _ => exact absurd h hn
  | later h _ ih =>
    cases hb with
    | here hp => exact absurd hp h
    | later _ next => exact ih next

theorem First.congr {rows : List α} {a : α} (h : ∀ b ∈ rows, P b ↔ Q b) (hp : First P rows a) :
    First Q rows a := by
  induction hp with
  | here ha => exact .here ((h _ List.mem_cons_self).1 ha)
  | later hb _ ih =>
    exact .later (fun hq => hb ((h _ List.mem_cons_self).2 hq))
      (ih fun c hc => h c (List.mem_cons_of_mem _ hc))

/-- Where some row applies, one is the first. -/
theorem First.exists_of_mem {rows : List α} {a : α} (hmem : a ∈ rows) (ha : P a) :
    ∃ b, First P rows b := by
  induction rows with
  | nil => cases hmem
  | cons b rows ih =>
    by_cases hb : P b
    · exact ⟨b, .here hb⟩
    · rcases List.mem_cons.1 hmem with rfl | hmem
      · exact absurd ha hb
      · obtain ⟨c, hc⟩ := ih hmem
        exact ⟨c, .later hb hc⟩

theorem first_cons {rows : List α} {a b : α} :
    First P (b :: rows) a ↔ (P b ∧ a = b) ∨ (¬P b ∧ First P rows a) := by
  constructor
  · intro h
    cases h with
    | here hb => exact .inl ⟨hb, rfl⟩
    | later hb next => exact .inr ⟨hb, next⟩
  · rintro (⟨hb, rfl⟩ | ⟨hb, next⟩)
    · exact .here hb
    · exact .later hb next

/-- A table with an optional row at its top. -/
theorem first_option {β : Type*} {o : Option β} {f : β → α} {rows : List α} {a : α} :
    First P (o.toList.map f ++ rows) a ↔
      (∃ b, o = some b ∧ P (f b) ∧ a = f b) ∨ ((∀ b, o = some b → ¬P (f b)) ∧ First P rows a) := by
  cases o with
  | none => simp
  | some b => simp [first_cons]

/-- Going down the rows, the first one that applies satisfies `D`; `E` holds when none does. -/
def Decides (P D : α → Prop) (E : Prop) : List α → Prop
  | [] => E
  | a :: rows => (P a ∧ D a) ∨ (¬P a ∧ Decides P D E rows)

/-- Going down a table whose upper rows leave `E` when none of them applies. -/
theorem Decides.append {D D' : α → Prop} {E E' : Prop} {before after : List α}
    (h : Decides P D E before) (hD : ∀ a, D a → D' a) (hE : E → Decides P D' E' after) :
    Decides P D' E' (before ++ after) := by
  induction before with
  | nil => exact hE h
  | cons a before ih =>
    rcases h with ⟨hp, hd⟩ | ⟨hp, hnext⟩
    · exact .inl ⟨hp, hD a hd⟩
    · exact .inr ⟨hp, ih hnext⟩

theorem Decides.elim {D : α → Prop} {E : Prop} {rows : List α} (h : Decides P D E rows) :
    (∃ a, First P rows a ∧ D a) ∨ (E ∧ ∀ a ∈ rows, ¬P a) := by
  induction rows with
  | nil => exact .inr ⟨h, by simp⟩
  | cons a rows ih =>
    rcases h with ⟨hp, hd⟩ | ⟨hp, hnext⟩
    · exact .inl ⟨a, .here hp, hd⟩
    · rcases ih hnext with ⟨b, hfirst, hd⟩ | ⟨he, hnone⟩
      · exact .inl ⟨b, .later hp hfirst, hd⟩
      · exact .inr ⟨he, List.forall_mem_cons.2 ⟨hp, hnone⟩⟩

end DecisionTable
