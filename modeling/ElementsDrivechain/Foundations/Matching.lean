import Mathlib.Algebra.Order.BigOperators.Group.List
import Mathlib.Algebra.Order.Group.Int
import Mathlib.Algebra.Ring.Int.Defs
import Mathlib.Data.List.Forall2
import Mathlib.Data.List.TakeWhile

/-!
# Matching lists

Two lists of the same length are *matched* by a relation when it holds between their elements
position by position, which is `List.Forall₂`.  This file adds what a matching says of a single
element.

* `exists_of_mem_left`, `exists_of_mem_right` : each element has its partner.
* `map_eq_map` : what partners agree on, the lists agree on.
* `flatMap_matched` : when each element yields at most one result, the results are matched with
  some of the elements, each with the one that yielded it.
* `flatMap_matched_filter` : the same when it is known which elements yield one.
* `sum_le_sum_of_keys` : elements with different keys, each with a partner of its key and worth,
  are together worth no more than all possible partners.
-/

namespace ElementsDrivechain.Matching

variable {α β : Type*} {R : α → β → Prop} {l : List α} {l' : List β}

theorem exists_of_mem_right (h : List.Forall₂ R l l') {b : β} (hb : b ∈ l') :
    ∃ a ∈ l, R a b := by
  induction h with
  | nil => simp at hb
  | cons hd _ ih =>
    rcases List.mem_cons.1 hb with rfl | hb
    · exact ⟨_, List.mem_cons_self, hd⟩
    · obtain ⟨a, ha, hab⟩ := ih hb
      exact ⟨a, List.mem_cons_of_mem _ ha, hab⟩

theorem exists_of_mem_left (h : List.Forall₂ R l l') {a : α} (ha : a ∈ l) :
    ∃ b ∈ l', R a b :=
  exists_of_mem_right h.flip ha

/-- What partners agree on, the lists agree on. -/
theorem map_eq_map {γ : Type*} {f : α → γ} {g : β → γ} (h : List.Forall₂ R l l')
    (hfg : ∀ a b, R a b → f a = g b) : l.map f = l'.map g := by
  induction h with
  | nil => rfl
  | cons hd _ ih => rw [List.map_cons, List.map_cons, hfg _ _ hd, ih]

/-! ### Results of a list -/

variable {g : α → List β} {p : α → Prop} [DecidablePred p]

/-- When each element yields at most one result, and only an element with the property `p` yields
one, the results are matched with some of the elements that have it. -/
theorem flatMap_matched
    (h : ∀ a ∈ l, g a = [] ∨ (p a ∧ ∃ b, g a = [b] ∧ R a b)) :
    ∃ l', l'.Sublist (l.filter p) ∧
      List.Forall₂ (fun a b => g a = [b] ∧ R a b) l' (l.flatMap g) := by
  induction l with
  | nil => exact ⟨[], .slnil, .nil⟩
  | cons a l ih =>
    obtain ⟨l', hsub, hmatch⟩ := ih fun b hb => h b (List.mem_cons_of_mem _ hb)
    rw [List.flatMap_cons]
    rcases h a List.mem_cons_self with hnil | ⟨hp, b, hb, hR⟩
    · refine ⟨l', hsub.trans ?_, by rwa [hnil]⟩
      exact (List.sublist_cons_self a l).filter _
    · refine ⟨a :: l', ?_, ?_⟩
      · rw [List.filter_cons_of_pos (by simpa using hp)]
        exact hsub.cons_cons a
      · rw [hb]
        exact .cons ⟨hb, hR⟩ hmatch

/-- When exactly the elements with the property `p` yield a result, and only one, the results are
matched with those elements. -/
theorem flatMap_matched_filter
    (h : ∀ a ∈ l, (¬p a ∧ g a = []) ∨ (p a ∧ ∃ b, g a = [b] ∧ R a b)) :
    List.Forall₂ (fun a b => g a = [b] ∧ R a b) (l.filter p) (l.flatMap g) := by
  induction l with
  | nil => exact .nil
  | cons a l ih =>
    have hmatch := ih fun b hb => h b (List.mem_cons_of_mem _ hb)
    rw [List.flatMap_cons]
    rcases h a List.mem_cons_self with ⟨hp, hnil⟩ | ⟨hp, b, hb, hR⟩
    · rw [List.filter_cons_of_neg (by simpa using hp), hnil]
      exact hmatch
    · rw [List.filter_cons_of_pos (by simpa using hp), hb]
      exact .cons ⟨hb, hR⟩ hmatch

/-! ### Worth -/

/-- Elements with different keys, each with a partner of the same key and worth, are together worth
no more than all possible partners, when none of these is worth less than nothing. -/
theorem sum_le_sum_of_keys {κ : Type*} (key : α → κ) (key' : β → κ) {worth : α → ℤ}
    {worth' : β → ℤ} (hnodup : (l.map key).Nodup)
    (h : ∀ a ∈ l, ∃ b ∈ l', key' b = key a ∧ worth' b = worth a)
    (hnonneg : ∀ b ∈ l', 0 ≤ worth' b) : (l.map worth).sum ≤ (l'.map worth').sum := by
  induction l generalizing l' with
  | nil =>
    refine List.sum_nonneg fun w hw => ?_
    obtain ⟨b, hb, rfl⟩ := List.mem_map.1 hw
    exact hnonneg b hb
  | cons a l ih =>
    obtain ⟨b, hb, hkey, hworth⟩ := h a List.mem_cons_self
    obtain ⟨before, after, rfl⟩ := List.append_of_mem hb
    rw [List.map_cons, List.nodup_cons] at hnodup
    -- the other elements have other keys, hence other partners
    have hrest : (l.map worth).sum ≤ ((before ++ after).map worth').sum := by
      refine ih hnodup.2 (fun c hc => ?_) fun b hb => hnonneg b ?_
      · obtain ⟨b', hb', hkey', hworth'⟩ := h c (List.mem_cons_of_mem _ hc)
        refine ⟨b', ?_, hkey', hworth'⟩
        have hne : b' ≠ b := by
          rintro rfl
          exact hnodup.1 (hkey ▸ hkey' ▸ List.mem_map_of_mem hc)
        simpa [hne] using hb'
      · rcases List.mem_append.1 hb with hb | hb <;> simp [hb]
    simp only [List.map_append, List.map_cons, List.sum_append, List.sum_cons] at hrest ⊢
    omega

end ElementsDrivechain.Matching
