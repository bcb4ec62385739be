import Mathlib.Data.List.Nodup
import Mathlib.Data.List.Sort

/-!
# Ordered maps and sets

A batch of records is written into a map one after the other.  This file says what the map holds
afterwards, and what an ordered set holds when keys are told apart by equality.

* `mem_foldl_insert` : the keys after a batch.
* `getElem?_foldl_insert` : the records after a batch of new and distinct keys.
* `find?_key_eq_some` : in a batch of distinct keys, the first record with a key is the only one.
* `getElem?_insert`, `getD_insert` : the records after one more.
* `OrdSet.mem_insert_iff`, `OrdSet.mem_erase_iff`, `OrdSet.mem_filter_iff` : membership.
-/

namespace ElementsDrivechain.Maps

variable {α κ ν : Type} [Ord κ] [Std.TransOrd κ] [Std.LawfulEqOrd κ] {f : α → κ} {g : α → ν}
  {l : List α} {m : Std.ExtTreeMap κ ν compare} {k : κ} {v : ν}

theorem mem_foldl_insert :
    k ∈ l.foldl (fun m a => m.insert (f a) (g a)) m ↔ k ∈ m ∨ ∃ a ∈ l, f a = k := by
  induction l generalizing m with
  | nil => simp
  | cons a l ih =>
    rw [List.foldl_cons, ih, Std.ExtTreeMap.mem_insert, Std.LawfulEqCmp.compare_eq_iff_eq]
    simp only [List.mem_cons, exists_eq_or_imp]
    tauto

theorem getElem?_foldl_insert (hnodup : (l.map f).Nodup) (hnew : ∀ a ∈ l, f a ∉ m) :
    (l.foldl (fun m a => m.insert (f a) (g a)) m)[k]? = some v ↔
      m[k]? = some v ∨ ∃ a ∈ l, f a = k ∧ g a = v := by
  induction l generalizing m with
  | nil => simp
  | cons a l ih =>
    rw [List.map_cons, List.nodup_cons] at hnodup
    have hne : ∀ b ∈ l, f a ≠ f b := fun b hb he => hnodup.1 (he ▸ List.mem_map_of_mem hb)
    have hnew' : ∀ b ∈ l, f b ∉ m.insert (f a) (g a) := by
      intro b hb hmem
      rcases Std.ExtTreeMap.mem_insert.1 hmem with he | hmem
      · exact hne b hb (Std.LawfulEqOrd.eq_of_compare he)
      · exact hnew b (List.mem_cons_of_mem _ hb) hmem
    rw [List.foldl_cons, ih hnodup.2 hnew', Std.ExtTreeMap.getElem?_insert]
    simp only [Std.LawfulEqCmp.compare_eq_iff_eq, List.mem_cons, exists_eq_or_imp]
    by_cases hk : f a = k
    · have hnone : m[k]? = none :=
        Std.ExtTreeMap.getElem?_eq_none (hk ▸ hnew a List.mem_cons_self)
      simp [hk, hnone]
    · simp [hk]

theorem getElem?_insert [DecidableEq κ] {k' : κ} :
    (m.insert k v)[k']? = if k' = k then some v else m[k']? := by
  simp only [Std.ExtTreeMap.getElem?_insert, Std.LawfulEqCmp.compare_eq_iff_eq, @eq_comm κ k k']

theorem getD_insert [DecidableEq κ] {k' : κ} {d : ν} :
    (m.insert k v).getD k' d = if k' = k then v else m.getD k' d := by
  simp only [Std.ExtTreeMap.getD_insert, Std.LawfulEqCmp.compare_eq_iff_eq, @eq_comm κ k k']

omit [Ord κ] [Std.TransOrd κ] [Std.LawfulEqOrd κ] in
theorem find?_key_eq_some [DecidableEq κ] (hnodup : (l.map f).Nodup) {a : α} :
    l.find? (f · = k) = some a ↔ a ∈ l ∧ f a = k := by
  constructor
  · intro h
    exact ⟨List.mem_of_find?_eq_some h, by simpa using List.find?_some h⟩
  · rintro ⟨hmem, hkey⟩
    cases hfind : l.find? (f · = k) with
    | none => exact absurd hkey (by simpa using List.find?_eq_none.1 hfind a hmem)
    | some b =>
      have hb : f b = k := by simpa using List.find?_some hfind
      rw [List.inj_on_of_nodup_map hnodup (List.mem_of_find?_eq_some hfind) hmem
        (hb.trans hkey.symm)]

end ElementsDrivechain.Maps

namespace ElementsDrivechain

/-- Sets that are listed in order. -/
abbrev OrdSet (κ : Type) [Ord κ] := Std.ExtTreeSet κ compare

namespace OrdSet

variable {κ : Type} [Ord κ] [Std.TransOrd κ] [Std.LawfulEqOrd κ] {s : OrdSet κ} {k x : κ}

theorem mem_insert_iff : x ∈ s.insert k ↔ x = k ∨ x ∈ s := by
  rw [Std.ExtTreeSet.mem_insert, Std.LawfulEqCmp.compare_eq_iff_eq, eq_comm]

theorem mem_erase_iff : x ∈ s.erase k ↔ x ≠ k ∧ x ∈ s := by
  rw [Std.ExtTreeSet.mem_erase, Ne, Std.LawfulEqCmp.compare_eq_iff_eq, eq_comm]

theorem mem_filter_iff {f : κ → Bool} : x ∈ s.filter f ↔ x ∈ s ∧ f x = true := by
  simp [Std.ExtTreeSet.mem_filter]

theorem size_filter_lt {f : κ → Bool} (hx : x ∈ s) (hf : f x = false) :
    (s.filter f).size < s.size := by
  refine Nat.lt_of_le_of_ne Std.ExtTreeSet.size_filter_le_size fun heq => ?_
  have := Std.ExtTreeSet.size_filter_eq_size_iff.1 heq x hx
  rw [Std.ExtTreeSet.get_eq, hf] at this
  exact absurd this Bool.false_ne_true

end OrdSet

end ElementsDrivechain
