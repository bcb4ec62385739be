import Mathlib.Data.List.Forall2
import Mathlib.Data.List.Induction

/-!
# Chains of hashes

A chain grows by appending entries to a state; its *head* is the part of the state that others see,
a hash of the state before and of the entry.  If no two of the appends that took place lead to the
same head, and none leads back to the first one, then the head commits to all entries.

* `HashChain.binding` : **chains with the same head have the same entries.**
-/

namespace ElementsDrivechain.HashChain

variable {σ ε η : Type*} {append : σ → ε → σ} {R : ε → ε → Prop} {s : σ}
  {es es' : List ε} {e : ε}

/-- The appends that take place when a list of entries is appended: each entry, with the state that
it is appended to. -/
def appends (append : σ → ε → σ) : σ → List ε → List (σ × ε)
  | _, [] => []
  | s, e :: es => (s, e) :: appends append (append s e) es

theorem appends_snoc :
    appends append s (es ++ [e]) = appends append s es ++ [(es.foldl append s, e)] := by
  induction es generalizing s with
  | nil => rfl
  | cons e' es ih => simp [appends, ih]

theorem mem_of_mem_appends {a : σ × ε} (h : a ∈ appends append s es) : a.2 ∈ es := by
  induction es generalizing s with
  | nil => cases h
  | cons e es ih =>
    rcases List.mem_cons.1 h with rfl | h
    · exact List.mem_cons_self
    · exact List.mem_cons_of_mem _ (ih h)

/-- **Chains with the same head have the same entries**, up to what a head tells apart. -/
theorem binding (head : σ → η) {g : σ}
    (hstep : ∀ a ∈ appends append g es, ∀ a' ∈ appends append g es',
      head (append a.1 a.2) = head (append a'.1 a'.2) → a.1 = a'.1 ∧ R a.2 a'.2)
    (hfirst : ∀ a ∈ appends append g es, head (append a.1 a.2) ≠ head g)
    (hfirst' : ∀ a ∈ appends append g es', head (append a.1 a.2) ≠ head g)
    (h : head (es.foldl append g) = head (es'.foldl append g)) : List.Forall₂ R es es' := by
  induction es using List.reverseRecOn generalizing es' with
  | nil =>
    rcases List.eq_nil_or_concat' es' with rfl | ⟨es', e', rfl⟩
    · exact .nil
    · refine absurd ?_ (hfirst' (es'.foldl append g, e') (by simp [appends_snoc]))
      simpa using h.symm
  | append_singleton es e ih =>
    rcases List.eq_nil_or_concat' es' with rfl | ⟨es', e', rfl⟩
    · refine absurd ?_ (hfirst (es.foldl append g, e) (by simp [appends_snoc]))
      simpa using h
    · simp only [appends_snoc, List.mem_append, List.mem_singleton] at hstep hfirst hfirst'
      rw [List.foldl_append, List.foldl_append] at h
      obtain ⟨hstate, hentry⟩ := hstep _ (.inr rfl) _ (.inr rfl) h
      refine List.rel_append (R := R) ?_ (.cons hentry .nil)
      exact ih (fun a ha a' ha' => hstep a (.inl ha) a' (.inl ha')) (fun a ha => hfirst a (.inl ha))
        (fun a ha => hfirst' a (.inl ha)) (congrArg head hstate)

end ElementsDrivechain.HashChain
