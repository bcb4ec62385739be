import Mathlib.Data.Nat.Notation

/-!
# Programs that fail after having acted

A program of type `EStateM ε σ α` works on a state and either returns or fails; when it fails, the
state keeps what was done before.  A *triple* says what is known of the state in both cases, so that
a property which every early exit must keep is stated once and carried through a whole program.

* `Triple.bind` : programs compose, and every exit on the way has the property of a failure.
* `Triple.repeatM` : what one round keeps, a repetition keeps.
* `Triple.forM` : the same for a program performed on each element of a list.
-/

namespace ElementsDrivechain.Effects

variable {ε σ α β : Type}

/-- From a state with `P`, the program returns with `Q` or fails with `E`. -/
def Triple (P : σ → Prop) (m : EStateM ε σ α) (Q : α → σ → Prop) (E : σ → Prop) : Prop :=
  ∀ s, P s →
    match m s with
    | .ok a t => Q a t
    | .error _ t => E t

/-- The state in which the program returns, if it does. -/
def returned (m : EStateM ε σ α) (s : σ) : Option σ :=
  match m s with
  | .ok _ t => some t
  | .error _ _ => none

/-- The state in which the program ends, whether it returns or fails. -/
def final (m : EStateM ε σ α) (s : σ) : σ :=
  match m s with
  | .ok _ t => t
  | .error _ t => t

/-- Fail when a condition holds. -/
def failIf (c : Prop) [Decidable c] (e : ε) : EStateM ε σ Unit :=
  if c then throw e else pure ()

/-- Perform a program when a condition holds. -/
def onlyIf (c : Prop) [Decidable c] (m : EStateM ε σ Unit) : EStateM ε σ Unit :=
  if c then m else pure ()

/-- Perform a program a number of times. -/
def repeatM (m : EStateM ε σ Unit) : ℕ → EStateM ε σ Unit
  | 0 => pure ()
  | n + 1 => do
    m
    repeatM m n

/-! ### Programs that return -/

section Returns

variable {m : EStateM ε σ α} {f : α → EStateM ε σ β} {s t : σ}

/-- Behind a part that returns, a sequence goes on. -/
theorem bind_of_ok {a : α} {u : σ} (h : m s = .ok a u) : (m >>= f) s = f a u := by
  change EStateM.bind m f s = _
  rw [EStateM.bind, h]

theorem get_bind {f : σ → EStateM ε σ β} : (get >>= f) s = f s s := rfl

end Returns

namespace Triple

variable {P P' E E' : σ → Prop} {Q Q' : α → σ → Prop} {R : β → σ → Prop} {m : EStateM ε σ α}

theorem mono (h : Triple P m Q E) (hP : ∀ s, P' s → P s) (hQ : ∀ a s, Q a s → Q' a s)
    (hE : ∀ s, E s → E' s) : Triple P' m Q' E' := by
  intro s hs
  have := h s (hP s hs)
  revert this
  cases m s with
  | ok a t => exact hQ a t
  | error e t => exact hE t

theorem pre (h : Triple P m Q E) (hP : ∀ s, P' s → P s) : Triple P' m Q E :=
  h.mono hP (fun _ _ hq => hq) fun _ he => he

theorem and {Q₂ : α → σ → Prop} {P₂ : σ → Prop} (h : Triple P m Q E) (h₂ : Triple P₂ m Q₂ E) :
    Triple (fun s => P s ∧ P₂ s) m (fun a s => Q a s ∧ Q₂ a s) E := by
  intro s hs
  have hm := h s hs.1
  have hm₂ := h₂ s hs.2
  revert hm hm₂
  cases m s with
  | ok a t => exact fun hm hm₂ => ⟨hm, hm₂⟩
  | error e t => exact fun hm _ => hm

/-- What holds when the program returns. -/
theorem returned {R : σ → Prop} (h : Triple P m (fun _ => R) E) {s t : σ} (hs : P s)
    (ht : t ∈ Effects.returned m s) : R t := by
  have hm := h s hs
  revert hm ht
  unfold Effects.returned
  cases m s with
  | ok a u =>
    intro ht hu
    obtain rfl := Option.some.inj ht
    exact hu
  | error e u => exact fun ht => absurd ht nofun

/-- What holds at every exit is what holds of the final state. -/
theorem final_iff : Triple P m (fun _ => E) E ↔ ∀ s, P s → E (Effects.final m s) := by
  refine forall₂_congr fun s _ => ?_
  unfold Effects.final
  cases m s <;> exact Iff.rfl

theorem final (h : Triple P m (fun _ => E) E) {s : σ} (hs : P s) : E (Effects.final m s) :=
  final_iff.1 h s hs

/-- A fact about a precondition that does not speak of the state. -/
theorem assume {p : Prop} (h : p → Triple P m Q E) : Triple (fun s => P s ∧ p) m Q E :=
  fun s hs => h hs.2 s hs.1

theorem pure {a : α} (h : ∀ s, P s → Q a s) : Triple P (pure a : EStateM ε σ α) Q E := h

theorem throw {e : ε} (h : ∀ s, P s → E s) : Triple P (throw e : EStateM ε σ α) Q E := h

theorem modify {f : σ → σ} {Q : PUnit → σ → Prop} (h : ∀ s, P s → Q ⟨⟩ (f s)) :
    Triple P (modify f : EStateM ε σ PUnit) Q E := h

/-- Two programs in sequence. -/
theorem bind {f : α → EStateM ε σ β} (hm : Triple P m Q E) (hf : ∀ a, Triple (Q a) (f a) R E) :
    Triple P (m >>= f) R E := by
  intro s hs
  have h := hm s hs
  revert h
  change _ → match EStateM.bind m f s with | .ok a t => R a t | .error _ t => E t
  unfold EStateM.bind
  cases m s with
  | ok a t => exact hf a t
  | error e t => exact id

/-- In a known state, a program that returns can be performed. -/
theorem step {f : α → EStateM ε σ β} {s t : σ} {a : α} (hm : m s = .ok a t)
    (hf : Triple (· = t) (f a) R E) : Triple (· = s) (m >>= f) R E := by
  rintro _ rfl
  rw [bind_of_ok hm]
  exact hf t rfl

/-- Two programs in sequence, when the first establishes a fact. -/
theorem bind_and {p : α → Prop} {f : α → EStateM ε σ β}
    (hm : Triple P m (fun a s => Q a s ∧ p a) E) (hf : ∀ a, p a → Triple (Q a) (f a) R E) :
    Triple P (m >>= f) R E :=
  hm.bind fun a => assume (hf a)

theorem ite {c : Prop} [Decidable c] {m' : EStateM ε σ α} (h : c → Triple P m Q E)
    (h' : ¬c → Triple P m' Q E) : Triple P (if c then m else m') Q E := by
  by_cases hc : c
  · rw [if_pos hc]
    exact h hc
  · rw [if_neg hc]
    exact h' hc

/-- Behind a check, its condition does not hold. -/
theorem failIf {c : Prop} [Decidable c] {e : ε} (hE : ∀ s, P s → E s) :
    Triple P (failIf c e) (fun _ s => P s ∧ ¬c) E := by
  refine ite (fun _ => throw hE) fun hc => pure fun s hs => ⟨hs, hc⟩

/-- What follows a check may assume that its condition does not hold. -/
theorem guard {c : Prop} [Decidable c] {e : ε} {f : Unit → EStateM ε σ β} (hE : ∀ s, P s → E s)
    (h : ¬c → Triple P (f ()) R E) : Triple P (Effects.failIf c e >>= f) R E :=
  (failIf hE).bind_and fun _ => h

theorem check {c : Prop} [Decidable c] {e : ε} {f : Unit → EStateM ε σ β}
    (h : ¬c → Triple P (f ()) R P) : Triple P (Effects.failIf c e >>= f) R P :=
  guard (fun _ hs => hs) h

theorem failIf_pass {c : Prop} [Decidable c] {e : ε} (hc : ¬c) :
    Triple P (Effects.failIf c e) (fun _ => P) E := by
  rw [Effects.failIf, if_neg hc]
  exact pure fun s hs => hs

theorem onlyIf {c : Prop} [Decidable c] {m : EStateM ε σ Unit} {Q : Unit → σ → Prop}
    (h : c → Triple P m Q E) (h' : ¬c → ∀ s, P s → Q () s) : Triple P (onlyIf c m) Q E :=
  ite h fun hc => pure (h' hc)

/-- What one round keeps, a repetition keeps; the property may count the rounds still to come. -/
theorem repeatM {I : ℕ → σ → Prop} {m : EStateM ε σ Unit}
    (h : ∀ n, Triple (I (n + 1)) m (fun _ => I n) E) (n : ℕ) :
    Triple (I n) (repeatM m n) (fun _ => I 0) E := by
  induction n with
  | zero => exact pure fun s hs => hs
  | succ n ih => exact bind (h n) fun _ => ih

/-- A program performed on each element of a list; the property may speak of the elements already
done. -/
theorem forM {I : List β → σ → Prop} {f : β → EStateM ε σ PUnit} {l : List β}
    (h : ∀ done b, done ++ [b] <+: l → Triple (I done) (f b) (fun _ => I (done ++ [b])) E) :
    Triple (I []) (l.forM f) (fun _ => I l) E := by
  suffices hrest : ∀ rest done, done ++ rest = l →
      Triple (I done) (rest.forM f) (fun _ => I l) E from hrest l [] rfl
  intro rest
  induction rest with
  | nil =>
    rintro done rfl
    exact pure fun s hs => by simpa using hs
  | cons b rest ih =>
    rintro done rfl
    refine bind (h done b ⟨rest, by simp⟩) fun _ => ih (done ++ [b]) (by simp)

/-- A program that carries a value along a list. -/
theorem foldlM {I : α → σ → Prop} {f : α → β → EStateM ε σ α}
    (h : ∀ a b, Triple (I a) (f a b) I E) (l : List β) (a : α) :
    Triple (I a) (l.foldlM f a) I E := by
  induction l generalizing a with
  | nil => exact pure fun s hs => hs
  | cons b l ih =>
    rw [List.foldlM_cons]
    exact bind (h a b) ih

end Triple

end ElementsDrivechain.Effects
