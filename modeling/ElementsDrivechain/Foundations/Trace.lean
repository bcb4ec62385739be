import Mathlib.Data.List.Induction

/-!
# Runs of a labelled step relation

A *run* performs a list of labels one after the other.  Runs grow at their end, which is the shape
of the inductions in this development: what is known after a run, and what one more step adds.

* `Run.invariant` : an inductive invariant holds at the end of every run.
* `Run.history` : the same for a property of the labels performed so far and the state reached.
* `Run.append`, `Run.split` : runs compose, and a run over a composed list of labels decomposes.
-/

namespace ElementsDrivechain

variable {σ ι : Type*}

/-- `Run step s ls t`: performing the labels `ls` in order leads from `s` to `t`. -/
inductive Run (step : σ → ι → σ → Prop) (s : σ) : List ι → σ → Prop
  | nil : Run step s [] s
  | snoc {ls : List ι} {t u : σ} {l : ι} :
      Run step s ls t → step t l u → Run step s (ls ++ [l]) u

namespace Run

variable {step : σ → ι → σ → Prop} {s t u : σ} {ls ls' : List ι} {l : ι}

/-- A property of the labels performed so far and of the state reached holds at the end of a run
when it holds before the first label and every step keeps it. -/
@[elab_as_elim]
theorem history {I : List ι → σ → Prop} (h : Run step s ls t) (nil : I [] s)
    (snoc : ∀ ls t l u, Run step s ls t → I ls t → step t l u → I (ls ++ [l]) u) : I ls t := by
  induction h with
  | nil => exact nil
  | snoc hrun hstep ih => exact snoc _ _ _ _ hrun ih hstep

/-- An inductive invariant holds at the end of every run. -/
@[elab_as_elim]
theorem invariant {I : σ → Prop} (h : Run step s ls t) (hs : I s)
    (hstep : ∀ t l u, I t → step t l u → I u) : I t :=
  h.history hs fun _ _ _ _ _ => hstep _ _ _

theorem append (h : Run step s ls t) (h' : Run step t ls' u) : Run step s (ls ++ ls') u := by
  induction h' with
  | nil => simpa using h
  | snoc _ hstep ih => rw [← List.append_assoc]; exact ih.snoc hstep

theorem nil_iff : Run step s [] t ↔ s = t := by
  constructor
  · intro h
    generalize hls : ([] : List ι) = ls at h
    cases h with
    | nil => rfl
    | snoc => simp at hls
  · rintro rfl; exact .nil

theorem snoc_iff : Run step s (ls ++ [l]) u ↔ ∃ t, Run step s ls t ∧ step t l u := by
  constructor
  · intro h
    generalize hm : ls ++ [l] = ms at h
    cases h with
    | nil => simp at hm
    | snoc hrun hstep =>
      obtain ⟨rfl, hl⟩ := List.append_inj' hm rfl
      obtain rfl : l = _ := by simpa using hl
      exact ⟨_, hrun, hstep⟩
  · rintro ⟨t, hrun, hstep⟩; exact hrun.snoc hstep

theorem split (h : Run step s (ls ++ ls') u) : ∃ t, Run step s ls t ∧ Run step t ls' u := by
  induction ls' using List.reverseRecOn generalizing u with
  | nil => exact ⟨u, by simpa using h, .nil⟩
  | append_singleton ls' l ih =>
    rw [← List.append_assoc] at h
    obtain ⟨t, hrun, hstep⟩ := snoc_iff.1 h
    obtain ⟨m, h₁, h₂⟩ := ih hrun
    exact ⟨m, h₁, h₂.snoc hstep⟩

theorem singleton_iff : Run step s [l] t ↔ step s l t := by
  change Run step s ([] ++ [l]) t ↔ _
  rw [snoc_iff]
  constructor
  · rintro ⟨_, hnil, hstep⟩
    rwa [nil_iff.1 hnil]
  · exact fun hstep => ⟨s, .nil, hstep⟩

/-- A run begins with its first label. -/
theorem cons_iff : Run step s (l :: ls) u ↔ ∃ t, step s l t ∧ Run step t ls u := by
  constructor
  · intro h
    obtain ⟨t, hfirst, hrest⟩ := split (show Run step s ([l] ++ ls) u from h)
    exact ⟨t, singleton_iff.1 hfirst, hrest⟩
  · rintro ⟨t, hstep, hrest⟩
    exact (singleton_iff.2 hstep).append hrest

theorem cons (h : step s l t) (h' : Run step t ls u) : Run step s (l :: ls) u :=
  cons_iff.2 ⟨t, h, h'⟩

end Run

end ElementsDrivechain
