import WgSocket.Basic

namespace wireguard

/-- Where the thread running `PolyfilledWskSendMessages` is: at buffer `i` of
    the list (`Buf` is `NULL` once `i` is the list's length), done with buffer
    `i` before `Buf = Buf->Next`, past a final `InterlockedDecrement` that
    reached zero, or returned. -/
inductive LoopPc
  | next (i : Nat)
  | advance (i : Nat)
  | completing
  | done
deriving DecidableEq, Repr

/-- The reference `WriteNoFence(RefCount, 1)` gave the loop, until its final decrement. -/
def LoopPc.held : LoopPc → Nat
  | .next _ | .advance _ => 1
  | _ => 0

/-- Whether the loop's final decrement reached zero and it has yet to complete
    the original IRP. -/
def LoopPc.zeroed : LoopPc → Nat
  | .completing => 1
  | _ => 0

/-- How far the loop got: a context is allocated at most once per buffer passed. -/
def LoopPc.Passed (allocated BufferCount : Nat) : LoopPc → Prop
  | .next i => allocated ≤ i ∧ i ≤ BufferCount
  | .advance i => allocated ≤ i + 1 ∧ i < BufferCount
  | _ => allocated ≤ BufferCount

theorem LoopPc.Passed.le {allocated BufferCount : Nat} :
    ∀ {pc : LoopPc}, pc.Passed allocated BufferCount → allocated ≤ BufferCount
  | .next _, h | .advance _, h => Nat.le_trans h.1 h.2
  | .completing, h | .done, h => h

theorem ofNat_add_one (k : Nat) : BitVec.ofNat 32 k + 1 = BitVec.ofNat 32 (k + 1) := by
  rw [BitVec.ofNat_add]; rfl

theorem ofNat_sub_one {k : Nat} (hk : 0 < k) : BitVec.ofNat 32 k - 1 = BitVec.ofNat 32 (k - 1) := by
  obtain ⟨j, rfl⟩ : ∃ j, k = j + 1 := ⟨k - 1, by omega⟩
  rw [← ofNat_add_one, BitVec.add_sub_cancel]; rfl

theorem ofNat_eq_zero_iff {k : Nat} (hk : k < 2 ^ 32) : BitVec.ofNat 32 k = 0#32 ↔ k = 0 := by
  rw [BitVec.toNat_eq, BitVec.toNat_ofNat, Nat.mod_eq_of_lt hk]
  exact Iff.rfl

/-- One call of `PolyfilledWskSendMessages` whose `RefCount` was allocated,
    with the `PolyfilledSendComplete` callbacks of the IRPs it handed to
    `WskSendTo`. The callbacks all run the same code on the same counter, so
    they are counted by phase: IRPs the provider has not completed yet, and
    callbacks whose decrement reached zero. The other fields count what the
    code did: contexts allocated and freed, calls of the original IRP's
    completion routine, frees of `RefCount`, and accesses to the buffer list
    or to `RefCount` after they were freed. -/
structure Polyfill where
  BufferCount : Nat
  loop : LoopPc
  RefCount : BitVec 32
  pending : Nat
  completing : Nat
  allocated : Nat
  ctxFrees : Nat
  completions : Nat
  refCountFrees : Nat
  listUseAfterFree : Bool
  refCountUseAfterFree : Bool
deriving DecidableEq, Repr

/-- A step of one thread: the loop's iterations and its final decrement, or
    the provider completing one of the IRPs it was handed. -/
inductive PolyfillAction
  /-- Lines 121-130 with `MemAllocate` succeeding: increment, then `WskSendTo`. -/
  | issue
  /-- Lines 121-123 with `MemAllocate` failing. -/
  | skip
  /-- `Buf = Buf->Next`. -/
  | advance
  /-- Line 132: the loop's `InterlockedDecrement`. -/
  | leave
  /-- Lines 134-137: the original completion routine, then `MemFree(RefCount)`. -/
  | finish
  /-- The provider completes a pending IRP: lines 93 and 100 of `PolyfilledSendComplete`. -/
  | complete
  /-- Lines 95-98 and 100 for a callback whose decrement reached zero. -/
  | callbackFinish
deriving DecidableEq, Repr

namespace Polyfill

/-- `SendComplete`, the original IRP's completion routine, frees the NBL chain
    and with it the `WSK_BUF_LIST`, which lives in the chain's `NET_BUFFER`s. -/
def listFreed (s : Polyfill) : Bool := s.completions != 0

def refCountFreed (s : Polyfill) : Bool := s.refCountFrees != 0

/-- Lines 115-119 once `MemAllocate` returned `RefCount`. -/
def init (BufferCount : Nat) : Polyfill :=
  ⟨BufferCount, .next 0, 1#32, 0, 0, 0, 0, 0, 0, false, false⟩

def step (s : Polyfill) : PolyfillAction → Option Polyfill
  | .issue =>
    match s.loop with
    | .next i =>
      if i < s.BufferCount then
        some { s with loop := .advance i, RefCount := s.RefCount + 1, pending := s.pending + 1,
                      allocated := s.allocated + 1,
                      listUseAfterFree := s.listUseAfterFree || s.listFreed,
                      refCountUseAfterFree := s.refCountUseAfterFree || s.refCountFreed }
      else none
    | _ => none
  | .skip =>
    match s.loop with
    | .next i => if i < s.BufferCount then some { s with loop := .advance i } else none
    | _ => none
  | .advance =>
    match s.loop with
    | .advance i =>
      some { s with loop := .next (i + 1), listUseAfterFree := s.listUseAfterFree || s.listFreed }
    | _ => none
  | .leave =>
    match s.loop with
    | .next i =>
      if i = s.BufferCount then
        some { s with loop := if s.RefCount - 1 = 0#32 then .completing else .done,
                      RefCount := s.RefCount - 1,
                      refCountUseAfterFree := s.refCountUseAfterFree || s.refCountFreed }
      else none
    | _ => none
  | .finish =>
    match s.loop with
    | .completing =>
      some { s with loop := .done, completions := s.completions + 1,
                    refCountFrees := s.refCountFrees + 1 }
    | _ => none
  | .complete =>
    if 0 < s.pending then
      some { s with pending := s.pending - 1, RefCount := s.RefCount - 1,
                    completing := if s.RefCount - 1 = 0#32 then s.completing + 1 else s.completing,
                    ctxFrees := if s.RefCount - 1 = 0#32 then s.ctxFrees else s.ctxFrees + 1,
                    refCountUseAfterFree := s.refCountUseAfterFree || s.refCountFreed }
    else none
  | .callbackFinish =>
    if 0 < s.completing then
      some { s with completing := s.completing - 1, completions := s.completions + 1,
                    refCountFrees := s.refCountFrees + 1, ctxFrees := s.ctxFrees + 1 }
    else none

/-- The states of a call over a list of `BufferCount` buffers, under any
    pattern of allocation failures and any order of completions. -/
inductive Reachable (BufferCount : Nat) : Polyfill → Prop
  | init : Reachable BufferCount (init BufferCount)
  | step {s s' : Polyfill} (a : PolyfillAction) :
      Reachable BufferCount s → s.step a = some s' → Reachable BufferCount s'

/-- The loop has returned and the provider has completed every IRP it was handed. -/
def Quiescent (s : Polyfill) : Prop := s.loop = .done ∧ s.pending = 0 ∧ s.completing = 0

instance (s : Polyfill) : Decidable (Quiescent s) := inferInstanceAs (Decidable (_ ∧ _))

/-! ## What each action can do -/

section Inversion

variable {s s' : Polyfill}

theorem step_issue (h : s.step .issue = some s') : ∃ i, s.loop = .next i ∧ i < s.BufferCount ∧
    s' = { s with loop := .advance i, RefCount := s.RefCount + 1, pending := s.pending + 1,
                  allocated := s.allocated + 1,
                  listUseAfterFree := s.listUseAfterFree || s.listFreed,
                  refCountUseAfterFree := s.refCountUseAfterFree || s.refCountFreed } := by
  simp only [step] at h
  split at h
  next i hi =>
    split at h
    · exact ⟨i, hi, ‹_›, (Option.some.inj h).symm⟩
    · cases h
  · cases h

theorem step_skip (h : s.step .skip = some s') :
    ∃ i, s.loop = .next i ∧ i < s.BufferCount ∧ s' = { s with loop := .advance i } := by
  simp only [step] at h
  split at h
  next i hi =>
    split at h
    · exact ⟨i, hi, ‹_›, (Option.some.inj h).symm⟩
    · cases h
  · cases h

theorem step_advance (h : s.step .advance = some s') : ∃ i, s.loop = .advance i ∧
    s' = { s with loop := .next (i + 1), listUseAfterFree := s.listUseAfterFree || s.listFreed } := by
  simp only [step] at h
  split at h
  next i hi => exact ⟨i, hi, (Option.some.inj h).symm⟩
  · cases h

theorem step_leave (h : s.step .leave = some s') : s.loop = .next s.BufferCount ∧
    s' = { s with loop := if s.RefCount - 1 = 0#32 then .completing else .done,
                  RefCount := s.RefCount - 1,
                  refCountUseAfterFree := s.refCountUseAfterFree || s.refCountFreed } := by
  simp only [step] at h
  split at h
  next i hi =>
    split at h
    next heq => exact ⟨heq ▸ hi, (Option.some.inj h).symm⟩
    · cases h
  · cases h

theorem step_finish (h : s.step .finish = some s') : s.loop = .completing ∧
    s' = { s with loop := .done, completions := s.completions + 1,
                  refCountFrees := s.refCountFrees + 1 } := by
  simp only [step] at h
  split at h
  next hi => exact ⟨hi, (Option.some.inj h).symm⟩
  · cases h

theorem step_complete (h : s.step .complete = some s') : 0 < s.pending ∧
    s' = { s with pending := s.pending - 1, RefCount := s.RefCount - 1,
                  completing := if s.RefCount - 1 = 0#32 then s.completing + 1 else s.completing,
                  ctxFrees := if s.RefCount - 1 = 0#32 then s.ctxFrees else s.ctxFrees + 1,
                  refCountUseAfterFree := s.refCountUseAfterFree || s.refCountFreed } := by
  simp only [step] at h
  split at h
  next hp => exact ⟨hp, (Option.some.inj h).symm⟩
  · cases h

theorem step_callbackFinish (h : s.step .callbackFinish = some s') : 0 < s.completing ∧
    s' = { s with completing := s.completing - 1, completions := s.completions + 1,
                  refCountFrees := s.refCountFrees + 1, ctxFrees := s.ctxFrees + 1 } := by
  simp only [step] at h
  split at h
  next hc => exact ⟨hc, (Option.some.inj h).symm⟩
  · cases h

theorem step_bufferCount {a : PolyfillAction} (h : s.step a = some s') : s'.BufferCount = s.BufferCount := by
  cases a
  · obtain ⟨_, _, _, rfl⟩ := step_issue h; rfl
  · obtain ⟨_, _, _, rfl⟩ := step_skip h; rfl
  · obtain ⟨_, _, rfl⟩ := step_advance h; rfl
  · obtain ⟨_, rfl⟩ := step_leave h; rfl
  · obtain ⟨_, rfl⟩ := step_finish h; rfl
  · obtain ⟨_, rfl⟩ := step_complete h; rfl
  · obtain ⟨_, rfl⟩ := step_callbackFinish h; rfl

end Inversion

theorem Reachable.bufferCount {n : Nat} {s : Polyfill} (h : Reachable n s) : s.BufferCount = n := by
  induction h with
  | init => rfl
  | step _ _ hs ih => rw [step_bufferCount hs, ih]

/-! ## The reference count -/

/-- The references to `RefCount` not yet dropped: the loop's own until its
    final decrement, and one for each IRP the provider has not completed. -/
def holders (s : Polyfill) : Nat := s.loop.held + s.pending

/-- The threads past a decrement that reached zero and not yet through the
    completion routine. -/
def completers (s : Polyfill) : Nat := s.loop.zeroed + s.completing

/-- While the list has fewer than `2^32` buffers: `RefCount` counts the
    references not yet dropped, so it reaches zero exactly when the last one is
    dropped; then a single thread completes the original IRP and frees
    `RefCount`; and no one touches the list or the counter after that. -/
structure Inv (s : Polyfill) : Prop where
  passed : s.loop.Passed s.allocated s.BufferCount
  refCount : s.RefCount = BitVec.ofNat 32 (holders s)
  live : 0 < holders s → completers s = 0 ∧ s.completions = 0
  last : holders s = 0 → completers s + s.completions = 1
  frees : s.refCountFrees = s.completions
  ctx : s.ctxFrees + s.pending + s.completing = s.allocated
  listSafe : s.listUseAfterFree = false
  refCountSafe : s.refCountUseAfterFree = false

theorem inv_init (n : Nat) : Inv (init n) :=
  ⟨⟨Nat.le_refl 0, Nat.zero_le n⟩, rfl, fun _ => ⟨rfl, rfl⟩,
    fun h => absurd h (Nat.succ_ne_zero 0), rfl, rfl, rfl, rfl⟩

/-- The decrement of a thread that holds a reference: the counter now counts
    one reference less, and is zero exactly when no reference is left. -/
theorem Inv.decrement {s : Polyfill} (hi : Inv s) (hn : s.BufferCount < 2 ^ 32) (hh : 0 < holders s) :
    s.RefCount - 1 = BitVec.ofNat 32 (holders s - 1) ∧ (s.RefCount - 1 = 0#32 ↔ holders s = 1) := by
  have hle : holders s - 1 < 2 ^ 32 := by
    have := hi.passed.le
    have := hi.ctx
    have : s.loop.held ≤ 1 := by cases s.loop <;> simp [LoopPc.held]
    unfold holders
    omega
  rw [hi.refCount, ofNat_sub_one hh, ofNat_eq_zero_iff hle]
  exact ⟨rfl, by omega⟩

/-- While a reference is held, neither the list nor `RefCount` has been
    freed, so a thread that touches them touches live memory. -/
theorem Inv.not_freed {s : Polyfill} (hi : Inv s) (hh : 0 < holders s) :
    (s.listUseAfterFree || s.listFreed) = false ∧ (s.refCountUseAfterFree || s.refCountFreed) = false := by
  have hcomp := (hi.live hh).2
  simp [listFreed, refCountFreed, hi.listSafe, hi.refCountSafe, hi.frees, hcomp]

section Step

variable {s s' : Polyfill} (hi : Inv s)
include hi

theorem Inv.issue (h : s.step .issue = some s') : Inv s' := by
  obtain ⟨i, hloop, hlt, rfl⟩ := step_issue h
  have hfree := hi.not_freed (by simp only [holders, hloop, LoopPc.held]; omega)
  obtain ⟨hpassed, href, hlive, -, hfrees, hctx, -, -⟩ := hi
  simp only [holders, completers, hloop, LoopPc.held, LoopPc.zeroed, LoopPc.Passed] at hpassed href hlive
  obtain ⟨hc, hcomp⟩ := hlive (by omega)
  refine ⟨?_, ?_, ?_, ?_, hfrees, ?_, hfree.1, hfree.2⟩ <;>
    simp only [holders, completers, LoopPc.held, LoopPc.zeroed, LoopPc.Passed]
  · omega
  · rw [href, ofNat_add_one, Nat.add_assoc]
  · exact fun _ => ⟨by omega, hcomp⟩
  · omega
  · omega

theorem Inv.skip (h : s.step .skip = some s') : Inv s' := by
  obtain ⟨i, hloop, hlt, rfl⟩ := step_skip h
  obtain ⟨hpassed, href, hlive, hlast, hfrees, hctx, hlist, hrc⟩ := hi
  simp only [holders, completers, hloop, LoopPc.held, LoopPc.zeroed, LoopPc.Passed] at hpassed href hlive hlast
  refine ⟨?_, href, hlive, hlast, hfrees, hctx, hlist, hrc⟩
  simp only [LoopPc.Passed]
  omega

theorem Inv.advance (h : s.step .advance = some s') : Inv s' := by
  obtain ⟨i, hloop, rfl⟩ := step_advance h
  have hfree := hi.not_freed (by simp only [holders, hloop, LoopPc.held]; omega)
  obtain ⟨hpassed, href, hlive, hlast, hfrees, hctx, -, hrc⟩ := hi
  simp only [holders, completers, hloop, LoopPc.held, LoopPc.zeroed, LoopPc.Passed] at hpassed href hlive hlast
  refine ⟨?_, href, hlive, hlast, hfrees, hctx, hfree.1, hrc⟩
  simp only [LoopPc.Passed]
  omega

theorem Inv.leave (hn : s.BufferCount < 2 ^ 32) (h : s.step .leave = some s') : Inv s' := by
  obtain ⟨hloop, rfl⟩ := step_leave h
  have hheld : 0 < holders s := by simp only [holders, hloop, LoopPc.held]; omega
  obtain ⟨hdec, hzero⟩ := hi.decrement hn hheld
  have hfree := hi.not_freed hheld
  obtain ⟨hpassed, -, hlive, -, hfrees, hctx, hlist, -⟩ := hi
  simp only [holders, completers, hloop, LoopPc.held, LoopPc.zeroed, LoopPc.Passed, Nat.zero_add,
    Nat.add_sub_cancel_left] at hpassed hlive hdec hzero
  obtain ⟨hc, hcomp⟩ := hlive (by omega)
  by_cases hz : s.RefCount - 1 = 0#32
  · have hp : s.pending = 0 := by have := hzero.mp hz; omega
    refine ⟨?_, ?_, ?_, ?_, hfrees, hctx, hlist, hfree.2⟩ <;>
      simp only [holders, completers, hz, if_true, LoopPc.held, LoopPc.zeroed, LoopPc.Passed, hp]
    · exact hpassed.1
    all_goals omega
  · have hp : s.pending ≠ 0 := fun hp => hz (hzero.mpr (by omega))
    refine ⟨?_, ?_, ?_, ?_, hfrees, hctx, hlist, hfree.2⟩ <;>
      simp only [holders, completers, hz, if_false, LoopPc.held, LoopPc.zeroed, LoopPc.Passed, Nat.zero_add]
    · exact hpassed.1
    · exact hdec
    · exact fun _ => ⟨hc, hcomp⟩
    · exact fun h => absurd h hp

theorem Inv.finish (h : s.step .finish = some s') : Inv s' := by
  obtain ⟨hloop, rfl⟩ := step_finish h
  obtain ⟨hpassed, href, hlive, hlast, hfrees, hctx, hlist, hrc⟩ := hi
  simp only [holders, completers, hloop, LoopPc.held, LoopPc.zeroed, LoopPc.Passed, Nat.zero_add] at *
  have hp : s.pending = 0 := Nat.eq_zero_of_not_pos fun hp => by have := (hlive hp).1; omega
  have := hlast hp
  refine ⟨hpassed, ?_, ?_, ?_, ?_, hctx, hlist, hrc⟩ <;>
    simp only [holders, completers, LoopPc.held, LoopPc.zeroed, Nat.zero_add]
  · exact href
  all_goals omega

theorem Inv.complete (hn : s.BufferCount < 2 ^ 32) (h : s.step .complete = some s') : Inv s' := by
  obtain ⟨hp, rfl⟩ := step_complete h
  have hheld : 0 < holders s := by simp only [holders]; omega
  obtain ⟨hdec, hzero⟩ := hi.decrement hn hheld
  have hfree := hi.not_freed hheld
  obtain ⟨hpassed, -, hlive, -, hfrees, hctx, hlist, -⟩ := hi
  obtain ⟨hc, hcomp⟩ := hlive hheld
  simp only [holders, completers] at hdec hzero hc
  by_cases hz : s.RefCount - 1 = 0#32
  · have hh : s.loop.held + s.pending = 1 := hzero.mp hz
    refine ⟨hpassed, ?_, ?_, ?_, hfrees, ?_, hlist, hfree.2⟩ <;>
      simp only [holders, completers, hz, if_true]
    · rw [show s.loop.held + (s.pending - 1) = 0 by omega]
    all_goals omega
  · have hh : s.loop.held + s.pending ≠ 1 := fun hh => hz (hzero.mpr hh)
    refine ⟨hpassed, ?_, ?_, ?_, hfrees, ?_, hlist, hfree.2⟩ <;>
      simp only [holders, completers, hz, if_false]
    · rw [hdec]
      congr 1
      omega
    · exact fun _ => ⟨hc, hcomp⟩
    all_goals omega

theorem Inv.callbackFinish (h : s.step .callbackFinish = some s') : Inv s' := by
  obtain ⟨hc, rfl⟩ := step_callbackFinish h
  obtain ⟨hpassed, href, hlive, hlast, hfrees, hctx, hlist, hrc⟩ := hi
  simp only [holders, completers] at *
  have hh : s.loop.held + s.pending = 0 := Nat.eq_zero_of_not_pos fun hh => by have := (hlive hh).1; omega
  have := hlast hh
  refine ⟨hpassed, href, ?_, ?_, ?_, ?_, hlist, hrc⟩ <;> simp only [holders, completers]
  all_goals omega

/-- Each action keeps the invariant. -/
theorem Inv.step (hn : s.BufferCount < 2 ^ 32) : ∀ {a : PolyfillAction}, s.step a = some s' → Inv s'
  | .issue, h => hi.issue h
  | .skip, h => hi.skip h
  | .advance, h => hi.advance h
  | .leave, h => hi.leave hn h
  | .finish, h => hi.finish h
  | .complete, h => hi.complete hn h
  | .callbackFinish, h => hi.callbackFinish h

end Step

theorem Reachable.inv {n : Nat} {s : Polyfill} (hn : n < 2 ^ 32) (h : Reachable n s) : Inv s := by
  induction h with
  | init => exact inv_init n
  | step _ hr hs ih => exact ih.step (hr.bufferCount ▸ hn) hs

/-- From every state of the run some thread can move, until the loop has
    returned and every IRP has been completed. -/
theorem Inv.progress {s : Polyfill} (hi : Inv s) : Quiescent s ∨ ∃ a, (s.step a).isSome := by
  have hpassed := hi.passed
  cases hloop : s.loop with
  | next i =>
    rw [hloop] at hpassed
    by_cases hlt : i < s.BufferCount
    · exact .inr ⟨.skip, by simp [Polyfill.step, hloop, hlt]⟩
    · have heq : i = s.BufferCount := by simp only [LoopPc.Passed] at hpassed; omega
      exact .inr ⟨.leave, by simp [Polyfill.step, hloop, heq]⟩
  | advance i => exact .inr ⟨.advance, by simp [Polyfill.step, hloop]⟩
  | completing => exact .inr ⟨.finish, by simp [Polyfill.step, hloop]⟩
  | done =>
    by_cases hp : 0 < s.pending
    · exact .inr ⟨.complete, by simp [Polyfill.step, hp]⟩
    by_cases hc : 0 < s.completing
    · exact .inr ⟨.callbackFinish, by simp [Polyfill.step, hc]⟩
    · exact .inl ⟨hloop, by omega, by omega⟩

end Polyfill

open Polyfill in
/-- What `PolyfilledWskSendMessages` promises in every state of its run: the
    original IRP is completed at most once, and only once the loop has left
    the list; `RefCount` is freed at most once and never touched after; no
    context is freed that was not allocated; once the loop has returned and the
    provider has completed every IRP, the original IRP has been completed,
    `RefCount` freed and every context freed, each exactly once; and until then
    some thread can move. -/
structure PolyfillSafe (s : Polyfill) : Prop where
  completions_le : s.completions ≤ 1
  completes_after_loop : s.completions = 1 → s.loop.held = 0
  refCount_frees_le : s.refCountFrees ≤ 1
  list_safe : s.listUseAfterFree = false
  refCount_safe : s.refCountUseAfterFree = false
  ctx_frees_le : s.ctxFrees ≤ s.allocated
  quiescent : Quiescent s → s.completions = 1 ∧ s.refCountFrees = 1 ∧ s.ctxFrees = s.allocated
  progress : Quiescent s ∨ ∃ a, (s.step a).isSome

namespace Polyfill

/-- The steps in order; `none` once one is not enabled. -/
def run (s : Polyfill) : List PolyfillAction → Option Polyfill
  | [] => some s
  | a :: as => (s.step a).bind fun s' => s'.run as

theorem Reachable.run {n : Nat} {s s' : Polyfill} {as : List PolyfillAction} (h : Reachable n s)
    (hrun : s.run as = some s') : Reachable n s' := by
  induction as generalizing s with
  | nil => cases hrun; exact h
  | cons a as ih =>
    obtain ⟨s₁, hs, hrun⟩ := Option.bind_eq_some.mp hrun
    exact ih (.step a h hs) hrun

theorem Inv.polyfillSafe {s : Polyfill} (hi : Inv s) : PolyfillSafe s := by
  have hlive := hi.live
  have hlast := hi.last
  have hctx := hi.ctx
  simp only [holders, completers] at hlive hlast
  have hcomp : s.completions ≤ 1 := by
    by_cases hh : 0 < s.loop.held + s.pending
    · have := (hlive hh).2; omega
    · have := hlast (by omega); omega
  refine ⟨hcomp, fun h1 => ?_, hi.frees ▸ hcomp, hi.listSafe, hi.refCountSafe, by omega,
    fun ⟨hdone, hp, hc⟩ => ?_, hi.progress⟩
  · exact Nat.eq_zero_of_not_pos fun hheld => by have := (hlive (by omega)).2; omega
  · have := hlast (by simp only [hdone, hp, LoopPc.held])
    simp only [hdone, hc, LoopPc.zeroed] at this
    exact ⟨by omega, by rw [hi.frees]; omega, by omega⟩

end Polyfill

/-- Over a list of fewer than `2^32` buffers, under every pattern of context
    allocation failures and every interleaving of the completions with the
    loop and with each other, the polyfill keeps its promise in every state of
    its run. -/
theorem polyfillSafe_of_reachable {n : Nat} {s : Polyfill} (hn : n < 2 ^ 32)
    (h : Polyfill.Reachable n s) : PolyfillSafe s :=
  (h.inv hn).polyfillSafe

/-- Three buffers, the second context not allocated: the provider completes
    the first IRP while the loop runs on, and the loop has sent the third. -/
theorem polyfillSafe_with_completion_during_loop :
    3 < 2 ^ 32 ∧ ∃ s, (Polyfill.init 3).run [.issue, .advance, .complete, .skip, .advance, .issue, .advance] = some s ∧
      (s.loop, s.pending, s.allocated, s.ctxFrees) = (.next 3, 1, 2, 1) ∧ PolyfillSafe s := by
  have hv : ((Polyfill.init 3).run [.issue, .advance, .complete, .skip, .advance, .issue, .advance]).map
      (fun s => (s.loop, s.pending, s.allocated, s.ctxFrees)) = some (.next 3, 1, 2, 1) := by
    decide
  obtain ⟨s, hrun, hs⟩ := Option.map_eq_some'.mp hv
  exact ⟨by decide, s, hrun, hs, polyfillSafe_of_reachable (by decide) (Polyfill.Reachable.init.run hrun)⟩

/-! ## Every run ends -/

/-- The steps the loop has left: four for each buffer it has yet to pass
    (an `issue` or `skip`, an `advance`, and the two completion steps of an
    IRP it may hand over), then its final decrement and completion. -/
def LoopPc.cost (BufferCount : Nat) : LoopPc → Nat
  | .next i => 4 * (BufferCount - i) + 2
  | .advance i => 4 * (BufferCount - i) - 1
  | .completing => 1
  | .done => 0

namespace Polyfill

/-- An upper bound on the steps left to a run: the loop's, two for each IRP
    the provider has not completed, one for each callback still finishing. -/
def stepsLeft (s : Polyfill) : Nat := s.loop.cost s.BufferCount + 2 * s.pending + s.completing

theorem stepsLeft_step {s s' : Polyfill} {a : PolyfillAction} (hi : Inv s) (h : s.step a = some s') :
    stepsLeft s' < stepsLeft s := by
  have hpassed := hi.passed
  cases a with
  | issue =>
    obtain ⟨i, hl, hlt, rfl⟩ := step_issue h
    simp only [stepsLeft, LoopPc.cost, hl]
    omega
  | skip =>
    obtain ⟨i, hl, hlt, rfl⟩ := step_skip h
    simp only [stepsLeft, LoopPc.cost, hl]
    omega
  | advance =>
    obtain ⟨i, hl, rfl⟩ := step_advance h
    rw [hl] at hpassed
    simp only [stepsLeft, LoopPc.cost, hl]
    have := hpassed.2
    omega
  | leave =>
    obtain ⟨hl, rfl⟩ := step_leave h
    have hc : (if s.RefCount - 1 = 0#32 then LoopPc.completing else LoopPc.done).cost s.BufferCount ≤ 1 := by
      split <;> simp [LoopPc.cost]
    simp only [stepsLeft, hl, LoopPc.cost] at hc ⊢
    omega
  | finish =>
    obtain ⟨hl, rfl⟩ := step_finish h
    simp only [stepsLeft, LoopPc.cost, hl]
    omega
  | complete =>
    obtain ⟨hp, rfl⟩ := step_complete h
    simp only [stepsLeft]
    split <;> omega
  | callbackFinish =>
    obtain ⟨hc, rfl⟩ := step_callbackFinish h
    simp only [stepsLeft]
    omega

/-- Along a run from a reachable state, each step uses up at least one of
    the steps left. -/
theorem run_length_add_stepsLeft {n : Nat} (hn : n < 2 ^ 32) {s s' : Polyfill} (h : Reachable n s) :
    ∀ {as : List PolyfillAction}, s.run as = some s' → as.length + stepsLeft s' ≤ stepsLeft s
  | [], hrun => by cases hrun; simp
  | a :: as, hrun => by
    obtain ⟨s₁, hs, hrun⟩ := Option.bind_eq_some.mp hrun
    have hlt := stepsLeft_step (h.inv hn) hs
    have := run_length_add_stepsLeft hn (.step a h hs) hrun
    simp only [List.length_cons]
    omega

end Polyfill

/-- Over a list of fewer than `2^32` buffers, every interleaving of the
    polyfill's loop with the provider's completions ends: it takes at most
    four steps per buffer and two more, and once no thread can move the loop
    has returned, every IRP has been completed and the original IRP has been
    completed exactly once. -/
theorem polyfill_runs_end {n : Nat} (hn : n < 2 ^ 32) {as : List PolyfillAction} {s : Polyfill}
    (h : (Polyfill.init n).run as = some s) :
    as.length ≤ 4 * n + 2 ∧ ((∀ a, s.step a = none) → Polyfill.Quiescent s ∧ s.completions = 1) := by
  have hbound := Polyfill.run_length_add_stepsLeft hn .init h
  have hinv := (Polyfill.Reachable.init.run h).inv hn
  refine ⟨by simp only [Polyfill.stepsLeft, Polyfill.init, LoopPc.cost] at hbound; omega,
    fun hstuck => ?_⟩
  have hq : Polyfill.Quiescent s := by
    rcases hinv.progress with hq | ⟨a, ha⟩
    · exact hq
    · rw [hstuck a] at ha
      cases ha
  exact ⟨hq, (hinv.polyfillSafe.quiescent hq).1⟩

/-- One buffer, handed over, its IRP completed after the loop returned. -/
theorem polyfill_runs_end_one_buffer :
    ∃ s, (Polyfill.init 1).run [.issue, .advance, .leave, .complete, .callbackFinish] = some s ∧
      [PolyfillAction.issue, .advance, .leave, .complete, .callbackFinish].length ≤ 4 * 1 + 2 ∧
      ((∀ a, s.step a = none) → Polyfill.Quiescent s ∧ s.completions = 1) := by
  obtain ⟨s, h⟩ : ∃ s, (Polyfill.init 1).run [.issue, .advance, .leave, .complete, .callbackFinish] = some s :=
    ⟨_, rfl⟩
  exact ⟨s, h, polyfill_runs_end (by decide) h⟩

end wireguard
