import Mathlib.Algebra.Order.BigOperators.Group.List
import Mathlib.Algebra.Order.Ring.Nat

/-!
# Parts of lists

Where a run of elements ends, what a longer list has in common with a shorter one, and bounds for
the length and the sum of a list from those of its parts.
-/

namespace ElementsDrivechain.Lists

variable {α β : Type*}

/-- A run ends at the first character that does not belong to it. -/
theorem takeWhile_append_of_stop {p : α → Prop} [DecidablePred p] {b rest : List α}
    (hb : ∀ c ∈ b, p c) (hrest : ∀ c ∈ rest.head?, ¬p c) :
    (b ++ rest).takeWhile (fun x => decide (p x)) = b ∧
      (b ++ rest).dropWhile (fun x => decide (p x)) = rest := by
  have hnone : rest.takeWhile (fun x => decide (p x)) = [] ∧
      rest.dropWhile (fun x => decide (p x)) = rest := by
    cases rest with
    | nil => exact ⟨rfl, rfl⟩
    | cons c rest =>
      have hc : ¬p c := hrest c rfl
      simp [hc]
  have hb' : ∀ c ∈ b, decide (p c) = true := fun c hc => decide_eq_true (hb c hc)
  rw [List.takeWhile_append_of_pos hb', List.dropWhile_append_of_pos hb', hnone.1, hnone.2,
    List.append_nil]
  exact ⟨rfl, rfl⟩

theorem take_of_prefix {l l' : List α} {n : ℕ} (h : l <+: l') (hn : n ≤ l.length) :
    l'.take n = l.take n := by
  obtain ⟨rest, rfl⟩ := h
  exact List.take_append_of_le_length hn

/-- A list is no longer than its parts, when each entry is in one of them. -/
theorem length_le_of_filter_le [DecidableEq β] (f : α → β) {n : ℕ} :
    ∀ (keys : List β) (l : List α), (∀ a ∈ l, f a ∈ keys) →
      (∀ key, (l.filter fun a => f a = key).length ≤ n) → l.length ≤ n * keys.length := by
  intro keys
  induction keys with
  | nil =>
    intro l hmem _
    cases l with
    | nil => simp
    | cons a l => exact absurd (hmem a List.mem_cons_self) (List.not_mem_nil)
  | cons key keys ih =>
    intro l hmem hle
    have hrest : (l.filter fun a => ¬f a = key).length ≤ n * keys.length := by
      refine ih _ (fun a ha => ?_) fun key' => ?_
      · obtain ⟨ha, hne⟩ := List.mem_filter.1 ha
        exact (List.mem_cons.1 (hmem a ha)).resolve_left (by simpa using hne)
      · rw [List.filter_comm]
        exact (List.filter_sublist).length_le.trans (hle key')
    have hsum := List.length_eq_length_filter_add (l := l) fun a => decide (f a = key)
    have hkey := hle key
    simp only [decide_not] at hrest
    rw [List.length_cons, Nat.mul_succ]
    omega

theorem sum_map_le_of_subperm {l l' : List α} (f : α → ℕ) (h : l.Subperm l') :
    (l.map f).sum ≤ (l'.map f).sum := by
  obtain ⟨l₀, hperm, hsublist⟩ := h
  rw [← (hperm.map f).sum_eq]
  exact (hsublist.map f).sum_le_sum fun _ _ => Nat.zero_le _

end ElementsDrivechain.Lists
