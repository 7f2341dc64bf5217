import Mathlib

/-!
# Checks that all have to succeed

A sequence of checks over `Except` succeeds exactly when each of them does.
-/

namespace Effects

variable {ε α β : Type}

theorem bind_eq_ok {x : Except ε α} {f : α → Except ε β} {b : β} :
    (x >>= f) = .ok b ↔ ∃ a, x = .ok a ∧ f a = .ok b := by
  cases x with
  | error e => exact ⟨nofun, fun ⟨_, h, _⟩ => nomatch h⟩
  | ok a =>
    constructor
    · exact fun h => ⟨a, rfl, h⟩
    · rintro ⟨a', ha, h⟩
      rw [Except.ok.inj ha]
      exact h

theorem bind_eq_error {x : Except ε α} {f : α → Except ε β} {e : ε} :
    (x >>= f) = .error e ↔ x = .error e ∨ ∃ a, x = .ok a ∧ f a = .error e := by
  cases x with
  | error e' =>
    constructor
    · exact fun h => .inl (congrArg Except.error (Except.error.inj h))
    · rintro (h | ⟨a, ha, -⟩)
      · rw [Except.error.inj h]
        rfl
      · cases ha
  | ok a =>
    constructor
    · exact fun h => .inr ⟨a, rfl, h⟩
    · rintro (h | ⟨a', ha, h⟩)
      · cases h
      · rw [Except.ok.inj ha]
        exact h

/-- A list is checked when each of its items is. -/
theorem mapM_eq_ok {f : α → Except ε β} {as : List α} {bs : List β} :
    as.mapM f = .ok bs ↔ List.Forall₂ (fun a b => f a = .ok b) as bs := by
  induction as generalizing bs with
  | nil =>
    rw [List.mapM_nil, List.forall₂_nil_left_iff]
    exact ⟨fun h => (Except.ok.inj h).symm, fun h => congrArg Except.ok h.symm⟩
  | cons a as ih =>
    rw [List.mapM_cons, bind_eq_ok, List.forall₂_cons_left_iff]
    constructor
    · rintro ⟨b, hfirst, h⟩
      obtain ⟨bs', hrest, h⟩ := bind_eq_ok.1 h
      exact ⟨b, bs', hfirst, ih.1 hrest, (Except.ok.inj h).symm⟩
    · rintro ⟨b, bs', hfirst, hrest, rfl⟩
      exact ⟨b, hfirst, bind_eq_ok.2 ⟨bs', ih.2 hrest, rfl⟩⟩

/-- What a check of each item by a condition makes of a list. -/
theorem mapM_guard {f : α → Except ε β} {p : α → Prop} {g : α → β}
    (hf : ∀ a b, f a = .ok b ↔ p a ∧ g a = b) {as : List α} {bs : List β} :
    as.mapM f = .ok bs ↔ (∀ a ∈ as, p a) ∧ as.map g = bs := by
  simp only [mapM_eq_ok, hf, List.forall₂_and_left]
  rw [← List.forall₂_map_left_iff (R := Eq), List.forall₂_eq_eq_eq]

/-- What a check that unwraps each item makes of a list. -/
theorem mapM_unwrap {f : α → Except ε β} {g : β → α} (hf : ∀ a b, f a = .ok b ↔ a = g b)
    {as : List α} {bs : List β} : as.mapM f = .ok bs ↔ as = bs.map g := by
  simp only [mapM_eq_ok, hf]
  rw [← List.forall₂_map_right_iff (R := Eq), List.forall₂_eq_eq_eq]

/-- A check of every item passes when each item's does. -/
theorem forM_eq_ok {check : α → Except ε Unit} {as : List α} :
    as.forM check = .ok () ↔ ∀ a ∈ as, check a = .ok () := by
  induction as with
  | nil => exact ⟨fun _ a h => absurd h List.not_mem_nil, fun _ => rfl⟩
  | cons a as ih =>
    rw [show (a :: as).forM check = (check a >>= fun _ => as.forM check) from rfl, bind_eq_ok,
      List.forall_mem_cons, ← ih]
    constructor
    · rintro ⟨⟨⟩, hfirst, hrest⟩
      exact ⟨hfirst, hrest⟩
    · rintro ⟨hfirst, hrest⟩
      exact ⟨(), hfirst, hrest⟩

end Effects
