import Mathlib.Data.List.Forall2
import Mathlib.Data.List.Induction

/-!
# Computations that may refuse

The programs of this development answer either a result or a refusal with a reason, as a value of
`Except ε α`.  This file collects what a *successful* answer says about the pieces it was made of.

* `Fallible.bind_eq_ok` : a successful sequence is two successful parts.
* `Fallible.foldlM_induction` : what holds before a successful fold and is kept by each successful
  step holds after it; the induction carries the part of the list already consumed.
* `Fallible.foldlM_invariant` : the same rule for a property of the state alone.
-/

namespace ElementsDrivechain.Fallible

universe u

variable {ε : Type*} {α β σ : Type u} {c : Prop} {e : ε} {a : α} {x : Except ε α} {s t : σ}
  {l : List α} {u : PUnit}

/-- Refuse with the reason `e` when `c` holds. -/
def rejectIf (c : Prop) [Decidable c] (e : ε) : Except ε Unit :=
  if c then .error e else .ok ()

@[simp] theorem rejectIf_eq_ok [Decidable c] {u : Unit} : rejectIf c e = .ok u ↔ ¬c := by
  unfold rejectIf
  split_ifs with h <;> simp [h]

theorem rejectIf_of_not [Decidable c] (h : ¬c) : rejectIf c e = pure () :=
  if_neg h

/-- Refuse with the reason `e` when there is no value. -/
def orReject (x : Option α) (e : ε) : Except ε α := x.elim (.error e) .ok

@[simp] theorem orReject_eq_ok {x : Option α} : orReject x e = .ok a ↔ x = some a := by
  cases x <;> simp [orReject]

@[simp] theorem bind_eq_ok {f : α → Except ε β} {b : β} :
    x >>= f = .ok b ↔ ∃ a, x = .ok a ∧ f a = .ok b := by
  cases x <;> simp [bind, Except.bind]

@[simp] theorem pure_eq_ok {b : α} : (pure a : Except ε α) = .ok b ↔ a = b := by
  simp [pure, Except.pure]

theorem map_eq_ok {f : α → β} {b : β} : f <$> x = .ok b ↔ ∃ a, x = .ok a ∧ f a = b := by
  cases x <;> simp [Functor.map, Except.map]

@[simp] theorem throw_ne_ok : (throw e : Except ε α) ≠ .ok a := by
  simp [throw, throwThe, MonadExceptOf.throw]

theorem toOption_eq_some : x.toOption = some a ↔ x = .ok a := by
  cases x <;> simp [Except.toOption]

theorem mapError_eq_ok {ε' : Type*} {f : ε → ε'} : x.mapError f = .ok a ↔ x = .ok a := by
  cases x <;> simp [Except.mapError]

/-! ### Reasons -/

/-- Every reason with which a computation refuses has a property. -/
def Refuses (P : ε → Prop) (x : Except ε α) : Prop := ∀ e, x = .error e → P e

namespace Refuses

variable {P : ε → Prop}

theorem pure (a : α) : Refuses P (Pure.pure a) := by
  rintro e ⟨⟩

theorem throw (h : P e) : Refuses P (MonadExcept.throw e : Except ε α) := by
  rintro _ ⟨⟩
  exact h

theorem rejectIf [Decidable c] (h : P e) : Refuses P (rejectIf c e) := by
  intro e' he
  unfold Fallible.rejectIf at he
  split_ifs at he
  cases he
  exact h

theorem orReject {x : Option α} (h : P e) : Refuses P (orReject x e) := by
  intro e' he
  cases x with
  | none =>
    cases he
    exact h
  | some a => cases he

theorem bind {f : α → Except ε β} (hx : Refuses P x) (hf : ∀ a, Refuses P (f a)) :
    Refuses P (x >>= f) := by
  intro e he
  cases x with
  | error e' =>
    cases he
    exact hx e rfl
  | ok a => exact hf a e he

/-- The first part of a sequence is known to succeed. -/
theorem bind_of_eq {f : α → Except ε β} (hx : x = .ok a) (hf : Refuses P (f a)) :
    Refuses P (x >>= f) := by
  subst hx
  exact hf

theorem map {f : α → β} (hx : Refuses P x) : Refuses P (f <$> x) := by
  intro e he
  cases x with
  | error e' =>
    cases he
    exact hx e rfl
  | ok a => cases he

theorem mapError {ε' : Type*} {P : ε' → Prop} {f : ε → ε'} (h : ∀ e, P (f e)) :
    Refuses P (x.mapError f) := by
  intro e he
  cases x with
  | error e' =>
    cases he
    exact h e'
  | ok a => cases he

theorem foldlM {f : σ → α → Except ε σ} (h : ∀ s a, Refuses P (f s a)) (l : List α) (s : σ) :
    Refuses P (l.foldlM f s) := by
  induction l generalizing s with
  | nil => exact .pure s
  | cons a l ih => exact .bind (h s a) ih

end Refuses

/-! ### Successful folds -/

variable {f : σ → α → Except ε σ}

theorem foldlM_nil_eq_ok : List.foldlM f s [] = .ok t ↔ s = t := by
  simp

theorem foldlM_cons_eq_ok :
    List.foldlM f s (a :: l) = .ok t ↔ ∃ u, f s a = .ok u ∧ List.foldlM f u l = .ok t := by
  simp

theorem foldlM_append_eq_ok {l' : List α} :
    List.foldlM f s (l ++ l') = .ok t ↔
      ∃ u, List.foldlM f s l = .ok u ∧ List.foldlM f u l' = .ok t := by
  simp

/-- Induction along a successful fold.  The property speaks of the part of the list consumed so far
and of the state reached; a step may use that the consumed part and its next element lie at the
front of the list. -/
@[elab_as_elim]
theorem foldlM_induction {motive : List α → σ → Prop} (h : List.foldlM f s l = .ok t)
    (nil : motive [] s) (snoc : ∀ done a u v, done ++ [a] <+: l → motive done u → f u a = .ok v →
      motive (done ++ [a]) v) : motive l t := by
  induction l using List.reverseRecOn generalizing t with
  | nil => rw [← foldlM_nil_eq_ok.1 h]; exact nil
  | append_singleton l a ih =>
    obtain ⟨u, hu, hut⟩ := foldlM_append_eq_ok.1 h
    have hmid : motive l u := by
      refine ih hu fun done b v w hpre => snoc done b v w (hpre.trans ?_)
      exact List.prefix_append l [a]
    obtain ⟨v, hv, rfl⟩ : ∃ v, f u a = .ok v ∧ v = t := by simpa using hut
    exact snoc l a u v List.prefix_rfl hmid hv

/-- What holds of the state before a successful fold and is kept by each successful step, holds
after it. -/
@[elab_as_elim]
theorem foldlM_invariant {I : σ → Prop} (h : List.foldlM f s l = .ok t) (hs : I s)
    (hstep : ∀ a ∈ l, ∀ u v, I u → f u a = .ok v → I v) : I t := by
  refine foldlM_induction h hs fun done a u v hpre hu hv => ?_
  exact hstep a (hpre.subset (by simp)) u v hu hv

/-- A fold over the elements that it does not pass over. -/
theorem foldlM_filter {p : α → Prop} [DecidablePred p] (h : ∀ s a, ¬p a → f s a = pure s)
    (l : List α) (s : σ) : List.foldlM f s (l.filter p) = List.foldlM f s l := by
  induction l generalizing s with
  | nil => rfl
  | cons a l ih =>
    by_cases ha : p a
    · rw [List.filter_cons_of_pos (by simpa using ha), List.foldlM_cons, List.foldlM_cons]
      exact congrArg _ (funext ih)
    · rw [List.filter_cons_of_neg (by simpa using ha), List.foldlM_cons, h s a ha, pure_bind, ih]

/-- A fold that counts the elements with a property. -/
theorem foldlM_count {α : Type} {f : ℕ → α → Except ε ℕ} {p : α → Prop} [DecidablePred p]
    {l : List α}
    (h : ∀ a ∈ l, ∀ n, f n a = .ok (if p a then n + 1 else n)) (n : ℕ) :
    l.foldlM f n = .ok (n + (l.filter p).length) := by
  induction l generalizing n with
  | nil => rfl
  | cons a l ih =>
    rw [List.forall_mem_cons] at h
    refine foldlM_cons_eq_ok.2 ⟨_, h.1 n, ?_⟩
    rw [ih h.2]
    by_cases ha : p a
    · rw [if_pos ha, List.filter_cons_of_pos (by simpa using ha), List.length_cons]
      congr 1
      omega
    · rw [if_neg ha, List.filter_cons_of_neg (by simpa using ha)]

/-- A list of checks succeeds when each of them does. -/
theorem forM_eq_ok {f : α → Except ε PUnit} : l.forM f = .ok u ↔ ∀ a ∈ l, f a = .ok u := by
  induction l with
  | nil => simp [List.forM]
  | cons a l ih =>
    rw [List.forall_mem_cons, ← ih]
    refine bind_eq_ok.trans ⟨?_, fun h => ⟨u, h⟩⟩
    rintro ⟨v, h⟩
    exact h

/-- A list of computations succeeds with the list of their results. -/
theorem mapM_eq_ok {f : α → Except ε β} {l' : List β} :
    l.mapM f = .ok l' ↔ List.Forall₂ (fun a b => f a = .ok b) l l' := by
  induction l generalizing l' with
  | nil => rw [List.mapM_nil, pure_eq_ok, List.forall₂_nil_left_iff, eq_comm]
  | cons a l ih =>
    simp only [List.mapM_cons, bind_eq_ok, pure_eq_ok, ih, List.forall₂_cons_left_iff]
    constructor
    · rintro ⟨b, hb, bs, hbs, rfl⟩; exact ⟨b, bs, hb, hbs, rfl⟩
    · rintro ⟨b, bs, hb, hbs, rfl⟩; exact ⟨b, hb, bs, hbs, rfl⟩

theorem exists_mapM_eq_ok_iff {f : α → Except ε β} :
    (∃ l', l.mapM f = .ok l') ↔ ∀ a ∈ l, ∃ b, f a = .ok b := by
  simp only [mapM_eq_ok]
  induction l with
  | nil => simp
  | cons a l ih =>
    rw [List.forall_mem_cons, ← ih]
    constructor
    · rintro ⟨_, _ | ⟨hb, hl⟩⟩
      exact ⟨⟨_, hb⟩, _, hl⟩
    · rintro ⟨⟨b, hb⟩, bs, hbs⟩
      exact ⟨b :: bs, .cons hb hbs⟩

section Distinct

variable {κ : Type u} [DecidableEq κ]

/-- Check the elements of a list one after the other, refusing with `dup` the first whose key is
among those already seen. -/
def checkDistinctFrom (key : α → κ) (dup : ε) (check : α → Except ε PUnit) :
    List κ → List α → Except ε PUnit
  | _, [] => .ok ⟨⟩
  | seen, a :: l =>
    if key a ∈ seen then .error dup
    else check a >>= fun _ => checkDistinctFrom key dup check (key a :: seen) l

/-- Check the elements of a list and that their keys are distinct. -/
def checkDistinct (key : α → κ) (dup : ε) (check : α → Except ε PUnit) (l : List α) :
    Except ε PUnit :=
  checkDistinctFrom key dup check [] l

variable {key : α → κ} {dup : ε} {check : α → Except ε PUnit} {l : List α}

theorem checkDistinctFrom_eq_ok {seen : List κ} :
    checkDistinctFrom key dup check seen l = .ok u ↔
      (l.map key).Nodup ∧ (∀ a ∈ l, key a ∉ seen) ∧ ∀ a ∈ l, check a = .ok u := by
  induction l generalizing seen with
  | nil => simp [checkDistinctFrom]
  | cons a l ih =>
    rw [checkDistinctFrom]
    split_ifs with hseen
    · simp [hseen]
    · rw [bind_eq_ok, List.forall_mem_cons, List.forall_mem_cons]
      simp only [ih, List.map_cons, List.nodup_cons, List.mem_cons, List.mem_map, not_exists,
        not_and, not_or]
      constructor
      · rintro ⟨_, ha, hnodup, hnew, hcheck⟩
        exact ⟨⟨fun b hb he => (hnew b hb).1 he, hnodup⟩, ⟨hseen, fun b hb => (hnew b hb).2⟩, ha,
          hcheck⟩
      · rintro ⟨⟨hfirst, hnodup⟩, ⟨-, hnew⟩, ha, hcheck⟩
        exact ⟨u, ha, hnodup, fun b hb => ⟨hfirst b hb, hnew b hb⟩, hcheck⟩

theorem checkDistinct_eq_ok :
    checkDistinct key dup check l = .ok u ↔
      (l.map key).Nodup ∧ ∀ a ∈ l, check a = .ok u := by
  simp [checkDistinct, checkDistinctFrom_eq_ok]

end Distinct

end ElementsDrivechain.Fallible
