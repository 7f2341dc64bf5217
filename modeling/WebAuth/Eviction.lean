import Mathlib

/-!
# Evicting the lowest ranked

A holder with room for so many entries gives up the others, the lowest ranked first. Sorting the
entries by a number that follows their rank and taking what is over does that.
-/

namespace Eviction

variable {α R K : Type} [LinearOrder R] [LinearOrder K]

/-- What is given up of what is carried: no entry twice, as many as are over, and none that ranks
above a kept one. -/
structure Evicts (rank : α → R) (carried : Finset α) (room : ℕ) (evicted : List α) : Prop where
  subset : ∀ a ∈ evicted, a ∈ carried
  nodup : evicted.Nodup
  count : evicted.length = carried.card - room
  lowest : ∀ a ∈ evicted, ∀ b ∈ carried, b ∉ evicted → rank a ≤ rank b

section Evicts

variable {rank : α → R} {carried : Finset α} {room : ℕ} {evicted : List α}

/-- Where everything has room, nothing is given up. -/
theorem Evicts.eq_nil (h : Evicts rank carried room evicted) (hroom : carried.card ≤ room) :
    evicted = [] := by
  have hcount := h.count
  exact List.length_eq_zero_iff.1 (by omega)

/-- What is kept has room. -/
theorem Evicts.card_kept [DecidableEq α] (h : Evicts rank carried room evicted) :
    (carried \ evicted.toFinset).card ≤ room := by
  have hsub : evicted.toFinset ⊆ carried := fun a ha => h.subset a (List.mem_toFinset.1 ha)
  have hcard := List.toFinset_card_of_nodup h.nodup
  have hcount := h.count
  rw [Finset.card_sdiff_of_subset hsub, hcard]
  omega

end Evicts

/-! ## By sorting -/

/-- The entries, the lowest number first. -/
def lowestFirst (entries : List (α × K)) : List (α × K) := entries.mergeSort fun a b => a.2 ≤ b.2

theorem lowestFirst_perm (entries : List (α × K)) : (lowestFirst entries).Perm entries :=
  entries.mergeSort_perm _

theorem lowestFirst_pairwise (entries : List (α × K)) :
    (lowestFirst entries).Pairwise fun a b => a.2 ≤ b.2 := by
  have htrans : ∀ a b c : α × K, decide (a.2 ≤ b.2) = true → decide (b.2 ≤ c.2) = true →
      decide (a.2 ≤ c.2) = true := by
    intro a b c hab hbc
    rw [decide_eq_true_eq] at hab hbc ⊢
    exact hab.trans hbc
  have htotal : ∀ a b : α × K, (decide (a.2 ≤ b.2) || decide (b.2 ≤ a.2)) = true := by
    intro a b
    rw [Bool.or_eq_true, decide_eq_true_eq, decide_eq_true_eq]
    exact le_total a.2 b.2
  refine (List.pairwise_mergeSort htrans htotal entries).imp ?_
  intro a b hab
  exact of_decide_eq_true hab

/-- **The first of the sorted entries are what is to be given up**, when their numbers follow the
ranks. -/
theorem evicts_take [DecidableEq α] {rank : α → R} {entries : List (α × K)} (room : ℕ)
    (hnodup : (entries.map (·.1)).Nodup)
    (hrank : ∀ a ∈ entries, ∀ b ∈ entries, a.2 ≤ b.2 → rank a.1 ≤ rank b.1) :
    Evicts rank (entries.map (·.1)).toFinset room
      (((lowestFirst entries).take (entries.length - room)).map (·.1)) := by
  have hperm := lowestFirst_perm entries
  have hsorted := lowestFirst_pairwise entries
  have hnames : ((lowestFirst entries).map (·.1)).Nodup := (hperm.map (·.1)).nodup_iff.2 hnodup
  have hsplit := List.take_append_drop (entries.length - room) (lowestFirst entries)
  constructor
  case subset =>
    intro name hname
    obtain ⟨entry, hentry, rfl⟩ := List.mem_map.1 hname
    exact List.mem_toFinset.2 (List.mem_map_of_mem (hperm.mem_iff.1 (List.mem_of_mem_take hentry)))
  case nodup =>
    rw [List.map_take]
    exact hnames.sublist (List.take_sublist _ _)
  case count =>
    rw [List.length_map, List.length_take, hperm.length_eq, List.toFinset_card_of_nodup hnodup,
      List.length_map]
    omega
  case lowest =>
    intro name hname other hother hkept
    obtain ⟨entry, hentry, rfl⟩ := List.mem_map.1 hname
    obtain ⟨kept, hmem, rfl⟩ := List.mem_map.1 (List.mem_toFinset.1 hother)
    have hdrop : kept ∈ (lowestFirst entries).drop (entries.length - room) := by
      have hin := hperm.mem_iff.2 hmem
      rw [← hsplit] at hin
      exact (List.mem_append.1 hin).resolve_left fun htake => hkept (List.mem_map_of_mem htake)
    rw [← hsplit] at hsorted
    exact hrank entry (hperm.mem_iff.1 (List.mem_of_mem_take hentry)) kept hmem
      ((List.pairwise_append.1 hsorted).2.2 entry hentry kept hdrop)

end Eviction
