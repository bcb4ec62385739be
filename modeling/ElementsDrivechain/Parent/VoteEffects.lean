import ElementsDrivechain.Foundations.Matching
import ElementsDrivechain.Parent.Voting

/-!
# What an M4 can do

The three encodings of M4 (explicit votes, the leader by fifty, repeating the previous block) all
come down to at most one vote on each active slot.  This file says once what such a vote can do, so
that nothing later looks at the encodings again.

* `applyWithdrawalAck_balloted` : every accepted M4, in whichever encoding, is a ballot.
-/

namespace ElementsDrivechain

open Fallible

variable {pending : List DrivechainPendingWithdrawal} {cfg : UInt8} {L : MessageLoop}

/-- How far a recorded action may raise the counter of a bundle. -/
def upvotes (action : Option DrivechainM4Action) (m6id : Uint256) : ℕ :=
  if action = some { type := .UPVOTE, m6id := m6id } then 1 else 0

theorem upvotes_le_one (action : Option DrivechainM4Action) (m6id : Uint256) :
    upvotes action m6id ≤ 1 := by
  unfold upvotes; split_ifs <;> omega

@[simp] theorem upvotes_none (m6id : Uint256) : upvotes none m6id = 0 := by
  simp [upvotes]

/-- The counters of a slot before and after a vote: the same bundles in the same order, and only
the one that the recorded action names has gained, by one at most. -/
def Voted (action : Option DrivechainM4Action)
    (before after : List DrivechainPendingWithdrawal) : Prop :=
  List.Forall₂ (fun entry entry' => entry'.m6id = entry.m6id ∧
    entry'.proposalHeight = entry.proposalHeight ∧
    entry'.votes ≤ entry.votes + upvotes action entry.m6id) before after

namespace Voted

variable {action : Option DrivechainM4Action} {before after : List DrivechainPendingWithdrawal}

theorem refl (action : Option DrivechainM4Action) (pending : List DrivechainPendingWithdrawal) :
    Voted action pending pending :=
  List.forall₂_same.2 fun _ _ => ⟨rfl, rfl, Nat.le_add_right _ _⟩

theorem map_m6id (h : Voted action before after) : after.map (·.m6id) = before.map (·.m6id) :=
  (Matching.map_eq_map h fun _ _ hd => hd.1.symm).symm

theorem eq_nil (h : Voted action [] after) : after = [] := List.forall₂_nil_left_iff.1 h

end Voted

/-! ### The two votes -/

/-- An upvote either finds the counter full and changes nothing, or raises that bundle only. -/
theorem applyM4Upvote_voted {pending' : List DrivechainPendingWithdrawal} {m6id : Uint256}
    {effective action : DrivechainM4Action}
    (h : applyM4Upvote pending m6id effective = .ok (pending', action)) :
    (action = effective ∧ pending' = pending) ∨
      (action = { type := .UPVOTE, m6id := m6id } ∧ Voted (some action) pending pending') := by
  simp only [applyM4Upvote] at h
  split at h
  case h_1 => exact absurd h throw_ne_ok
  case h_2 target htarget =>
  split_ifs at h
  · obtain ⟨rfl, rfl⟩ : pending = pending' ∧ effective = action := by simpa using h
    exact .inl ⟨rfl, rfl⟩
  · obtain ⟨rfl, rfl⟩ := by simpa only [pure_eq_ok, Prod.mk.injEq] using h
    refine .inr ⟨rfl, ?_⟩
    rw [Voted, List.forall₂_iff_get]
    refine ⟨by simp, fun i hi hi' => ?_⟩
    simp only [List.get_eq_getElem, List.getElem_mapIdx]
    split_ifs with hi
    · -- the target is the first entry with that id
      subst hi
      have hid : (pending[pending.findIdx (·.m6id = m6id)]).m6id = m6id := by
        simpa using List.findIdx_getElem 
          (p := fun e : DrivechainPendingWithdrawal => decide (e.m6id = m6id)) (w := hi)
      simp [upvotes, hid]
    · exact ⟨rfl, rfl, Nat.le_add_right_of_le (Nat.sub_le _ _)⟩

theorem applyM4Alarm_voted (pending : List DrivechainPendingWithdrawal)
    (effective : DrivechainM4Action) (action : Option DrivechainM4Action) :
    Voted action pending (applyM4Alarm pending effective).1 := by
  simp only [applyM4Alarm, Voted, List.forall₂_map_right_iff]
  exact List.forall₂_same.2 fun entry _ => ⟨rfl, rfl, Nat.le_add_right_of_le (Nat.sub_le _ _)⟩

theorem applyM4Alarm_action : (applyM4Alarm pending {}).2.1 = { type := .ALARM, m6id := 0 } := by
  simp only [applyM4Alarm]
  split_ifs <;> rfl

/-! ### One slot -/

/-- An alarm names no bundle. -/
def DrivechainM4Action.WellFormed (action : DrivechainM4Action) : Prop :=
  action.type = .ALARM → action.m6id = 0

/-- The effect of at most one vote on a slot. -/
def SlotVoted (cfg slot : UInt8) (L L' : MessageLoop) : Prop :=
  L' = L ∨ ∃ pending action effective, (effective = true → action.WellFormed) ∧
    Voted (if effective = true then some action else none)
      (slotState L.state cfg slot).pendingWithdrawals pending ∧
    L' = L.recordVote cfg slot pending action effective

section Slot

variable {cfg slot : UInt8} {L L' : MessageLoop} {m6id : Uint256}
  {pending : List DrivechainPendingWithdrawal} {action : DrivechainM4Action}

theorem SlotVoted.of_upvote
    (h : applyM4Upvote (slotState L.state cfg slot).pendingWithdrawals m6id {} =
      .ok (pending, action)) :
    SlotVoted cfg slot L (L.recordVote cfg slot pending action (action.type = .UPVOTE)) := by
  refine .inr ⟨pending, action, _, fun ht ha => ?_, ?_, rfl⟩
  · simp [ha] at ht
  · rcases applyM4Upvote_voted h with ⟨rfl, rfl⟩ | ⟨rfl, hv⟩
    · exact Voted.refl _ _
    · simpa using hv

theorem SlotVoted.of_recorded_upvote
    (h : applyM4Upvote (slotState L.state cfg slot).pendingWithdrawals m6id {} =
      .ok (pending, action)) :
    SlotVoted cfg slot L (L.recordVote cfg slot pending action true) := by
  rcases applyM4Upvote_voted h with ⟨rfl, rfl⟩ | ⟨rfl, hv⟩
  · exact .inr ⟨_, _, _, fun _ _ => rfl, Voted.refl _ _, rfl⟩
  · exact .inr ⟨_, _, true, fun _ ha => by simp at ha, hv, rfl⟩

theorem SlotVoted.of_alarm :
    SlotVoted cfg slot L
      (L.recordVote cfg slot (applyM4Alarm (slotState L.state cfg slot).pendingWithdrawals {}).1
        (applyM4Alarm (slotState L.state cfg slot).pendingWithdrawals {}).2.1
        (applyM4Alarm (slotState L.state cfg slot).pendingWithdrawals {}).2.2) := by
  refine .inr ⟨_, _, _, fun _ _ => ?_, applyM4Alarm_voted _ _ _, rfl⟩
  rw [applyM4Alarm_action]

theorem applyExplicitVote_slotVoted {vote : ℕ}
    (h : applyExplicitVote cfg L (slot, vote) = .ok L') : SlotVoted cfg slot L L' := by
  simp only [applyExplicitVote] at h
  split_ifs at h
  · exact .inl (pure_eq_ok.1 h).symm
  · rw [← pure_eq_ok.1 h]
    exact .of_alarm
  · split at h
    · exact absurd h throw_ne_ok
    · obtain ⟨⟨pending, action⟩, hup, hL⟩ := bind_eq_ok.1 h
      rw [← pure_eq_ok.1 hL]
      exact .of_upvote hup

theorem applyLeadingVote_slotVoted (h : applyLeadingVote cfg L slot = .ok L') :
    SlotVoted cfg slot L L' := by
  simp only [applyLeadingVote] at h
  split at h
  · exact .inl (pure_eq_ok.1 h).symm
  · case h_2 first rest hpending =>
    split_ifs at h
    · obtain ⟨⟨pending, action⟩, hup, hL⟩ := bind_eq_ok.1 h
      rw [← hpending] at hup
      rw [← pure_eq_ok.1 hL]
      exact .of_recorded_upvote hup
    · exact .inl (pure_eq_ok.1 h).symm

theorem applyRepeatedVote_slotVoted {previous : DrivechainM4Action}
    (h : applyRepeatedVote cfg L (slot, previous) = .ok L') :
    (slotState L.state cfg slot).activeProposalHash ≠ 0 ∧ SlotVoted cfg slot L L' := by
  simp only [applyRepeatedVote, bind_eq_ok, rejectIf_eq_ok] at h
  obtain ⟨_, hactive, h⟩ := h
  refine ⟨hactive, ?_⟩
  split at h
  · obtain ⟨⟨pending, action⟩, hup, hL⟩ := bind_eq_ok.1 h
    rw [← pure_eq_ok.1 hL]
    exact .of_upvote hup
  · rw [← pure_eq_ok.1 h]
    exact .of_alarm

end Slot

/-! ### The whole message -/

/-- The effect of an M4: each slot is voted on at most once, as its recorded action says, and only
the counters of bundles change. -/
structure Balloted (cfg : UInt8) (L L' : MessageLoop) : Prop where
  frame : SameFrame cfg L.state L'.state
  derivedProposals : L'.derivedProposals = L.derivedProposals
  slot (slot : UInt8) : slotState L'.state cfg slot =
    { slotState L.state cfg slot with
      pendingWithdrawals := (slotState L'.state cfg slot).pendingWithdrawals }
  voted (slot : UInt8) : Voted L'.effectiveM4Actions[slot]?
    (slotState L.state cfg slot).pendingWithdrawals (slotState L'.state cfg slot).pendingWithdrawals
  action (slot : UInt8) (a : DrivechainM4Action) : L'.effectiveM4Actions[slot]? = some a →
    a.WellFormed ∧ (slotState L.state cfg slot).activeProposalHash ≠ 0

/-- A ballot that has not reached the slots outside `done`. -/
structure BallotedUpTo (cfg : UInt8) (L : MessageLoop) (done : List UInt8) (L' : MessageLoop) :
    Prop extends Balloted cfg L L' where
  untouched (slot : UInt8) : slot ∉ done → L'.effectiveM4Actions[slot]? = none ∧
    slotState L'.state cfg slot = slotState L.state cfg slot

theorem BallotedUpTo.nil (h : L.effectiveM4Actions = ∅) :
    BallotedUpTo cfg L [] L where
  frame := .refl _
  derivedProposals := rfl
  slot _ := rfl
  voted _ := .refl _ _
  action slot a ha := by simp [h] at ha
  untouched slot _ := by simp [h]

theorem effectiveM4Actions_recordVote {slot s : UInt8} {M : MessageLoop}
    {action : DrivechainM4Action} {effective : Bool} (h : M.effectiveM4Actions[slot]? = none) :
    (M.recordVote cfg slot pending action effective).effectiveM4Actions[s]? =
      if s = slot then (if effective = true then some action else none)
      else M.effectiveM4Actions[s]? := by
  have hmem : slot ∉ M.effectiveM4Actions := by
    rw [Std.ExtTreeMap.mem_iff_isSome_getElem?, h]; simp
  unfold MessageLoop.recordVote
  by_cases hs : s = slot
  · subst hs
    cases effective
    · simpa using h
    · simp only [if_true, Std.ExtTreeMap.getElem?_insertIfNew]
      simp [hmem]
  · have hs' : ¬slot = s := fun he => hs he.symm
    cases effective <;> simp [hs, hs', Std.ExtTreeMap.getElem?_insertIfNew]

theorem BallotedUpTo.step {slot : UInt8} {M M' : MessageLoop} {done : List UInt8}
    (h : BallotedUpTo cfg L done M) (hslot : slot ∉ done) (hv : SlotVoted cfg slot M M')
    (hactive : (slotState M.state cfg slot).activeProposalHash ≠ 0) :
    BallotedUpTo cfg L (done ++ [slot]) M' := by
  obtain ⟨hnone, hdata⟩ := h.untouched slot hslot
  rcases hv with rfl | ⟨pending, action, effective, hwf, hvoted, rfl⟩
  · refine { h.toBalloted with untouched := fun s hs => h.untouched s fun hd => hs ?_ }
    exact List.mem_append_left _ hd
  · have hframe : SameFrame cfg M.state (M.recordVote cfg slot pending action effective).state := by
      rw [M.state_recordVote]; exact .updateSlot
    have hsame : ∀ s, s ≠ slot →
        slotState (M.recordVote cfg slot pending action effective).state cfg s =
          slotState M.state cfg s := fun s hs => slotState_updateSlot_of_ne hs
    have hself : slotState (M.recordVote cfg slot pending action effective).state cfg slot =
        { slotState L.state cfg slot with pendingWithdrawals := pending } := by
      rw [← hdata]; exact slotState_updateSlot_self
    rw [hdata] at hvoted hactive
    refine
      { frame := h.frame.trans hframe
        derivedProposals := h.derivedProposals
        slot := fun s => ?_
        voted := fun s => ?_
        action := fun s a ha => ?_
        untouched := fun s hs => ?_ }
    · by_cases hs : s = slot
      · subst hs; rw [hself]
      · rw [hsame s hs]; exact h.slot s
    · rw [effectiveM4Actions_recordVote hnone]
      by_cases hs : s = slot
      · subst hs; rw [hself, if_pos rfl]; exact hvoted
      · rw [hsame s hs, if_neg hs]; exact h.voted s
    · rw [effectiveM4Actions_recordVote hnone] at ha
      split_ifs at ha with hs heff
      · subst hs
        rw [← Option.some_inj.1 ha]
        exact ⟨hwf heff, hactive⟩
      · exact h.action s a ha
    · rw [List.mem_append, List.mem_singleton, not_or] at hs
      rw [effectiveM4Actions_recordVote hnone, if_neg hs.2, hsame s hs.2]
      exact h.untouched s hs.1

theorem balloted_of_foldlM {β : Type} {L' : MessageLoop} {l : List β}
    {vote : MessageLoop → β → Except String MessageLoop} (slotOf : β → UInt8)
    (hL : L.effectiveM4Actions = ∅) (hnodup : (l.map slotOf).Nodup)
    (hvote : ∀ M b M', b ∈ l → Balloted cfg L M → vote M b = .ok M' →
      (slotState M.state cfg (slotOf b)).activeProposalHash ≠ 0 ∧ SlotVoted cfg (slotOf b) M M')
    (h : l.foldlM vote L = .ok L') : Balloted cfg L L' := by
  refine (foldlM_induction
    (motive := fun done M => BallotedUpTo cfg L (done.map slotOf) M) h (.nil hL) ?_).toBalloted
  intro done b M M' hpre hM hstep
  obtain ⟨hactive, hvoted⟩ := hvote M b M' (hpre.subset (by simp)) hM.toBalloted hstep
  have hnew : slotOf b ∉ done.map slotOf := by
    have hd := hnodup.sublist ((hpre.sublist).map slotOf)
    rw [List.map_append, List.map_singleton] at hd
    exact fun hmem => (List.nodup_append.1 hd).2.2 _ hmem _ (by simp) rfl
  simpa using hM.step hnew hvoted hactive

/-- **Every accepted M4 is a ballot**, in whichever encoding. -/
theorem applyWithdrawalAck_balloted {L' : MessageLoop} {message : DrivechainParentMessage}
    (hcfg : cfg ∉ L.state.otherSlots) (hL : L.effectiveM4Actions = ∅)
    (h : applyWithdrawalAck cfg L message = .ok L') : Balloted cfg L L' := by
  have hactive : ∀ M slot, slot ∈ activeDrivechainSlots L.state cfg → Balloted cfg L M →
      (slotState M.state cfg slot).activeProposalHash ≠ 0 := by
    intro M slot hslot hM
    rw [hM.slot slot]
    exact (mem_activeDrivechainSlots hcfg).1 hslot
  simp only [applyWithdrawalAck] at h
  split at h
  · exact absurd h throw_ne_ok
  · simp only [bind_eq_ok, rejectIf_eq_ok] at h
    obtain ⟨_, hlen, h⟩ := h
    have hmap : ((activeDrivechainSlots L.state cfg).zip message.m4Votes).map Prod.fst =
        activeDrivechainSlots L.state cfg := by
      rw [List.map_fst_zip]; omega
    refine balloted_of_foldlM Prod.fst hL (by rw [hmap]; exact nodup_activeDrivechainSlots hcfg)
      (fun M b M' hb hM hstep => ⟨hactive M _ ?_ hM, applyExplicitVote_slotVoted hstep⟩) h
    rw [← hmap]
    exact List.mem_map_of_mem hb
  · refine balloted_of_foldlM id hL (by simpa using nodup_activeDrivechainSlots hcfg)
      (fun M b M' hb hM hstep => ⟨hactive M b hb hM, applyLeadingVote_slotVoted hstep⟩) h
  · refine balloted_of_foldlM Prod.fst hL ?_
      (fun M b M' hb hM hstep => applyRepeatedVote_slotVoted hstep) h
    rw [Std.ExtTreeMap.map_fst_toList_eq_keys]
    exact Std.ExtTreeMap.nodup_keys

end ElementsDrivechain
