import WgSocket.Basic
import Mathlib.Logic.Function.Basic

namespace wireguard

/-- What the teardown of a `SOCKET` turns on: whether
    `ExWaitForRundownProtectionRelease(&Socket->ItemsInFlight)` has begun, the
    rundown references held (one for each receive wrapper `Receive` chained),
    whether the provider has closed its socket (it makes no `Receive` call on
    it after that), and whether `MemFree(Socket)` has run. -/
structure SocketLife where
  RundownStarted : Bool
  ItemsInFlight : Nat
  Closed : Bool
  Freed : Bool
deriving DecidableEq, Repr

def SocketLife.fresh : SocketLife := ⟨false, 0, false, false⟩

/-- A thread in `SendAsync`: outside its RCU read section, or inside it with
    the `SOCKET` it read from `Wg->Sock4` or `Wg->Sock6` (`NULL` if none). -/
inductive SenderPc
  | idle
  | reading (Socket : Option Nat)
deriving DecidableEq, Repr

def SenderPc.inSection : SenderPc → Bool
  | .idle => false
  | .reading _ => true

/-- A call of `SocketReinit` past its swap: not running; in `RcuSynchronize`,
    waiting for the read sections that had begun by the swap; or in
    `CloseSocket` on the old sockets still to close, in order, the first of
    them with its rundown begun or not, or closed and to be given to
    `MemFree`. Only the swap holds `Wg->SocketUpdateLock`, so calls overlap
    from `RcuSynchronize` on. -/
inductive ReinitPc
  | idle
  | synchronizing (Old Waiting : List Nat)
  | closing (Old : List Nat) (RundownStarted : Bool)
  | freeing (Old : List Nat)
deriving DecidableEq, Repr

/-- The old sockets a call has still to free. -/
def ReinitPc.old : ReinitPc → List Nat
  | .idle => []
  | .synchronizing Old _ => Old
  | .closing Old _ => Old
  | .freeing Old => Old

/-- A device's two socket slots, the `SOCKET`s created so far (numbered in
    creation order), the threads that may send, and the calls of
    `SocketReinit`, numbered. Three ghost flags record a use of a freed
    `SOCKET`: by `SendAsync`, by the release of a receive wrapper, and by a
    `Receive` call of the provider. -/
structure SwapSys where
  Sock4 : Option Nat
  Sock6 : Option Nat
  created : Nat
  sockets : Nat → SocketLife
  threads : Nat
  senders : Nat → SenderPc
  reinit : Nat → ReinitPc
  sendUseAfterFree : Bool
  releaseUseAfterFree : Bool
  receiveUseAfterFree : Bool

def SwapSys.init (threads : Nat) : SwapSys :=
  ⟨none, none, 0, fun _ => .fresh, threads, fun _ => .idle, fun _ => .idle, false, false, false⟩

/-- The steps of the system; each is atomic with respect to the others. -/
inductive SwapAction
  /-- Lines 159-163: `RcuReadLock`, then the socket of the endpoint's family. -/
  | enter (t : Nat) (Family : ADDRESS_FAMILY)
  /-- Lines 164-195: the send through `Socket->Sock`, if any, then `RcuReadUnlock`. -/
  | send (t : Nat)
  /-- A `Receive` call of the provider on socket `x` (lines 597-627); `Keep`:
      the indication passed the length, allocation and `IsUp` checks. -/
  | receive (x : Nat) (Keep : Bool)
  /-- A receive wrapper of socket `x` is released: `ExReleaseRundownProtection`. -/
  | release (x : Nat)
  /-- Lines 842-849: call `c` swaps, under `SocketUpdateLock`, to sockets just
      created by `CreateAndBindSocket` or to `NULL`. -/
  | reinit (c : Nat) (New4 New6 : Bool)
  /-- Line 850: `RcuSynchronize` of call `c` returns. -/
  | synchronize (c : Nat)
  /-- Line 646: `ExWaitForRundownProtectionRelease` begins on call `c`'s next
      old socket. -/
  | rundown (c : Nat)
  /-- Lines 647-663, once the rundown is over: `WskCloseSocket` on call `c`'s
      next old socket, waited for, if `IoAllocateIrp` succeeds. -/
  | close (c : Nat) (IrpAllocate : Bool)
  /-- Line 665: `MemFree` of that socket. -/
  | free (c : Nat)

namespace SwapSys

/-- `RcuDereference` of `Wg->Sock4` or `Wg->Sock6` by the endpoint's family. -/
def socketFor (s : SwapSys) (Family : ADDRESS_FAMILY) : Option Nat :=
  if Family == AF_INET then s.Sock4 else if Family == AF_INET6 then s.Sock6 else none

/-- Whether a `SOCKET` pointer, if not `NULL`, points to freed memory. -/
def freed (s : SwapSys) : Option Nat → Bool
  | some x => (s.sockets x).Freed
  | none => false

/-- The threads inside a read section. -/
def readers (s : SwapSys) : List Nat := (List.range s.threads).filter fun t => (s.senders t).inSection

def Published (s : SwapSys) (x : Nat) : Prop := s.Sock4 = some x ∨ s.Sock6 = some x

end SwapSys

/-- A sender leaving its read section is no longer waited for. -/
def ReinitPc.leave (t : Nat) : ReinitPc → ReinitPc
  | .synchronizing Old Waiting => .synchronizing Old (Waiting.erase t)
  | r => r

def SwapSys.step (s : SwapSys) : SwapAction → Option SwapSys
  | .enter t Family =>
    if t < s.threads ∧ s.senders t = .idle then
      some { s with senders := Function.update s.senders t (.reading (s.socketFor Family)) }
    else none
  | .send t =>
    match s.senders t with
    | .reading Socket =>
      some { s with senders := Function.update s.senders t .idle, reinit := fun c => (s.reinit c).leave t,
                    sendUseAfterFree := s.sendUseAfterFree || s.freed Socket }
    | .idle => none
  | .receive x Keep =>
    if x < s.created ∧ (s.sockets x).Closed = false then
      some { s with
        sockets := Function.update s.sockets x
          (if Keep && !(s.sockets x).RundownStarted then
            { s.sockets x with ItemsInFlight := (s.sockets x).ItemsInFlight + 1 }
          else s.sockets x),
        receiveUseAfterFree := s.receiveUseAfterFree || (s.sockets x).Freed }
    else none
  | .release x =>
    if 0 < (s.sockets x).ItemsInFlight then
      some { s with
        sockets := Function.update s.sockets x
          { s.sockets x with ItemsInFlight := (s.sockets x).ItemsInFlight - 1 },
        releaseUseAfterFree := s.releaseUseAfterFree || (s.sockets x).Freed }
    else none
  | .reinit c New4 New6 =>
    match s.reinit c with
    | .idle =>
      some { s with
        Sock4 := if New4 then some s.created else none
        Sock6 := if New6 then some (s.created + if New4 then 1 else 0) else none
        created := s.created + (if New4 then 1 else 0) + (if New6 then 1 else 0)
        reinit := Function.update s.reinit c (.synchronizing ([s.Sock4, s.Sock6].filterMap id) s.readers) }
    | _ => none
  | .synchronize c =>
    match s.reinit c with
    | .synchronizing Old [] =>
      some { s with reinit := Function.update s.reinit c (if Old.isEmpty then .idle else .closing Old false) }
    | _ => none
  | .rundown c =>
    match s.reinit c with
    | .closing (x :: rest) false =>
      some { s with sockets := Function.update s.sockets x { s.sockets x with RundownStarted := true },
                    reinit := Function.update s.reinit c (.closing (x :: rest) true) }
    | _ => none
  | .close c IrpAllocate =>
    match s.reinit c with
    | .closing (x :: rest) true =>
      if (s.sockets x).ItemsInFlight = 0 then
        some { s with
          sockets := Function.update s.sockets x { s.sockets x with Closed := IrpAllocate },
          reinit := Function.update s.reinit c (.freeing (x :: rest)) }
      else none
    | _ => none
  | .free c =>
    match s.reinit c with
    | .freeing (x :: rest) =>
      some { s with
        sockets := Function.update s.sockets x { s.sockets x with Freed := true },
        reinit := Function.update s.reinit c (if rest.isEmpty then .idle else .closing rest false) }
    | _ => none

/-- The states reached from `init` by steps that `ok` allows. -/
inductive SwapSys.Reachable (threads : Nat) (ok : SwapAction → Prop) : SwapSys → Prop
  | init : Reachable threads ok (SwapSys.init threads)
  | step {s s' : SwapSys} (a : SwapAction) : ok a → Reachable threads ok s → s.step a = some s' →
      Reachable threads ok s'

/-- The steps in order; `none` once one is not enabled. -/
def SwapSys.run (s : SwapSys) : List SwapAction → Option SwapSys
  | [] => some s
  | a :: as => (s.step a).bind fun s' => s'.run as

theorem SwapSys.Reachable.run {threads : Nat} {ok : SwapAction → Prop} {s s' : SwapSys}
    (h : s.Reachable threads ok) {as : List SwapAction} (hok : ∀ a ∈ as, ok a) (hr : s.run as = some s') :
    s'.Reachable threads ok := by
  induction as generalizing s with
  | nil =>
    cases hr
    exact h
  | cons a as ih =>
    cases hs : s.step a with
    | none =>
      simp only [SwapSys.run, hs, Option.bind_none] at hr
      cases hr
    | some s₁ =>
      simp only [SwapSys.run, hs, Option.bind_some] at hr
      exact ih (.step a (hok a (List.mem_cons_self a as)) h hs) (fun b hb => hok b (List.mem_cons_of_mem a hb)) hr

namespace SwapSys

variable {s s' : SwapSys}

section Inversion

theorem step_enter {t : Nat} {Family : ADDRESS_FAMILY} (h : s.step (.enter t Family) = some s') :
    t < s.threads ∧ s.senders t = .idle ∧
      s' = { s with senders := Function.update s.senders t (.reading (s.socketFor Family)) } := by
  simp only [step] at h
  split at h
  next hg => exact ⟨hg.1, hg.2, (Option.some.inj h).symm⟩
  · cases h

theorem step_send {t : Nat} (h : s.step (.send t) = some s') :
    ∃ Socket, s.senders t = .reading Socket ∧
      s' = { s with senders := Function.update s.senders t .idle, reinit := fun c => (s.reinit c).leave t,
                    sendUseAfterFree := s.sendUseAfterFree || s.freed Socket } := by
  simp only [step] at h
  split at h
  next Socket hs => exact ⟨Socket, hs, (Option.some.inj h).symm⟩
  · cases h

theorem step_receive {x : Nat} {Keep : Bool} (h : s.step (.receive x Keep) = some s') :
    x < s.created ∧ (s.sockets x).Closed = false ∧
      s' = { s with
        sockets := Function.update s.sockets x
          (if Keep && !(s.sockets x).RundownStarted then
            { s.sockets x with ItemsInFlight := (s.sockets x).ItemsInFlight + 1 }
          else s.sockets x),
        receiveUseAfterFree := s.receiveUseAfterFree || (s.sockets x).Freed } := by
  simp only [step] at h
  split at h
  next hg => exact ⟨hg.1, hg.2, (Option.some.inj h).symm⟩
  · cases h

theorem step_release {x : Nat} (h : s.step (.release x) = some s') :
    0 < (s.sockets x).ItemsInFlight ∧
      s' = { s with
        sockets := Function.update s.sockets x
          { s.sockets x with ItemsInFlight := (s.sockets x).ItemsInFlight - 1 },
        releaseUseAfterFree := s.releaseUseAfterFree || (s.sockets x).Freed } := by
  simp only [step] at h
  split at h
  next hg => exact ⟨hg, (Option.some.inj h).symm⟩
  · cases h

theorem step_reinit {c : Nat} {New4 New6 : Bool} (h : s.step (.reinit c New4 New6) = some s') :
    s.reinit c = .idle ∧
      s' = { s with
        Sock4 := if New4 then some s.created else none
        Sock6 := if New6 then some (s.created + if New4 then 1 else 0) else none
        created := s.created + (if New4 then 1 else 0) + (if New6 then 1 else 0)
        reinit := Function.update s.reinit c (.synchronizing ([s.Sock4, s.Sock6].filterMap id) s.readers) } := by
  simp only [step] at h
  split at h
  next hr => exact ⟨hr, (Option.some.inj h).symm⟩
  · cases h

theorem step_synchronize {c : Nat} (h : s.step (.synchronize c) = some s') :
    ∃ Old, s.reinit c = .synchronizing Old [] ∧
      s' = { s with reinit := Function.update s.reinit c (if Old.isEmpty then .idle else .closing Old false) } := by
  simp only [step] at h
  split at h
  next Old hr => exact ⟨Old, hr, (Option.some.inj h).symm⟩
  · cases h

theorem step_rundown {c : Nat} (h : s.step (.rundown c) = some s') :
    ∃ x rest, s.reinit c = .closing (x :: rest) false ∧
      s' = { s with sockets := Function.update s.sockets x { s.sockets x with RundownStarted := true },
                    reinit := Function.update s.reinit c (.closing (x :: rest) true) } := by
  simp only [step] at h
  split at h
  next x rest hr => exact ⟨x, rest, hr, (Option.some.inj h).symm⟩
  · cases h

theorem step_close {c : Nat} {IrpAllocate : Bool} (h : s.step (.close c IrpAllocate) = some s') :
    ∃ x rest, s.reinit c = .closing (x :: rest) true ∧ (s.sockets x).ItemsInFlight = 0 ∧
      s' = { s with
        sockets := Function.update s.sockets x { s.sockets x with Closed := IrpAllocate },
        reinit := Function.update s.reinit c (.freeing (x :: rest)) } := by
  simp only [step] at h
  split at h
  next x rest hr =>
    split at h
    next hz => exact ⟨x, rest, hr, hz, (Option.some.inj h).symm⟩
    · cases h
  · cases h

theorem step_free {c : Nat} (h : s.step (.free c) = some s') :
    ∃ x rest, s.reinit c = .freeing (x :: rest) ∧
      s' = { s with
        sockets := Function.update s.sockets x { s.sockets x with Freed := true },
        reinit := Function.update s.reinit c (if rest.isEmpty then .idle else .closing rest false) } := by
  simp only [step] at h
  split at h
  next x rest hr => exact ⟨x, rest, hr, (Option.some.inj h).symm⟩
  · cases h

end Inversion

theorem socketFor_published {Family : ADDRESS_FAMILY} {x : Nat} (h : s.socketFor Family = some x) :
    s.Published x := by
  unfold socketFor at h
  split at h
  · exact .inl h
  · split at h
    · exact .inr h
    · cases h

/-- What the life `l` of socket `x` says against the parts of the state it
    depends on: a socket not yet created is fresh; a published one is not
    being run down; and a freed one was run down to no reference. -/
structure SocketOk (created : Nat) (Sock4 Sock6 : Option Nat) (x : Nat) (l : SocketLife) : Prop where
  fresh : created ≤ x → l = .fresh
  published : Sock4 = some x ∨ Sock6 = some x → x < created ∧ l.RundownStarted = false
  freed : l.Freed = true → l.RundownStarted = true ∧ l.ItemsInFlight = 0

theorem SocketOk.not_freed {created : Nat} {Sock4 Sock6 : Option Nat} {x : Nat} {l : SocketLife}
    (o : SocketOk created Sock4 Sock6 x l) (h : l.RundownStarted = false) : l.Freed = false := by
  cases hf : l.Freed
  · rfl
  · rw [(o.freed hf).1] at h
    cases h

theorem mem_slots {a b : Option Nat} {x : Nat} : x ∈ [a, b].filterMap id ↔ a = some x ∨ b = some x := by
  cases a <;> cases b <;> simp [eq_comm]

theorem nodup_slots {a b : Option Nat} (h : ∀ x, a = some x → b ≠ some x) : ([a, b].filterMap id).Nodup := by
  cases a <;> cases b <;> simp_all [eq_comm]

/-- The sockets `SocketReinit` publishes are the ones just created. -/
theorem reinit_slot {c x : Nat} {New4 New6 : Bool}
    (h : (if New4 then some c else none) = some x ∨
      (if New6 then some (c + if New4 then 1 else 0) else none) = some x) :
    c ≤ x ∧ x < c + (if New4 then 1 else 0) + (if New6 then 1 else 0) := by
  cases New4 <;> cases New6 <;> simp at h ⊢ <;> omega

theorem reinit_distinct {c x : Nat} {New4 New6 : Bool} (h : (if New4 then some c else none) = some x) :
    (if New6 then some (c + if New4 then 1 else 0) else none) ≠ some x := by
  cases New4
  · cases h
  · cases h
    cases New6 <;> simp

end SwapSys

section Calls

theorem ReinitPc.leave_eq_freeing {t : Nat} {r : ReinitPc} {Old : List Nat} :
    r.leave t = .freeing Old ↔ r = .freeing Old := by
  cases r <;> simp [ReinitPc.leave]

@[simp] theorem ReinitPc.old_leave (t : Nat) (r : ReinitPc) : (r.leave t).old = r.old := by
  cases r <;> rfl

/-- Updating one socket's life without touching the field `p` leaves `p`
    of every socket as it was. -/
theorem update_field_eq {f : Nat → SocketLife} {x : Nat} {l : SocketLife} {α : Type} {p : SocketLife → α}
    (h : p l = p (f x)) (y : Nat) : p (Function.update f x l y) = p (f y) := by
  by_cases hy : y = x
  · subst hy
    rw [Function.update_same, h]
  · rw [Function.update_noteq hy]

/-- An update of one socket's life that keeps its receive wrappers drained
    once its rundown has begun keeps every socket's so. -/
theorem update_inFlight {f : Nat → SocketLife} {x : Nat} {l : SocketLife}
    (h : (f x).ItemsInFlight = 0 → (f x).RundownStarted = true → l.ItemsInFlight = 0) (y : Nat)
    (h0 : (f y).ItemsInFlight = 0) (hs : (f y).RundownStarted = true) : (Function.update f x l y).ItemsInFlight = 0 := by
  by_cases hy : y = x
  · subst hy
    rw [Function.update_same]
    exact h h0 hs
  · rw [Function.update_noteq hy]
    exact h0

/-- Reader `t`, which holds `x`, is waited for by the `RcuSynchronize` of a
    call that has `x` among its old sockets. -/
def WaitedFor (reinit : Nat → ReinitPc) (t x : Nat) : Prop :=
  ∃ c Old W, reinit c = .synchronizing Old W ∧ x ∈ Old ∧ t ∈ W

theorem WaitedFor.update {f : Nat → ReinitPc} {c t x : Nat} {r : ReinitPc} (h : WaitedFor f t x)
    (hc : ∀ Old W, f c = .synchronizing Old W → x ∈ Old → t ∈ W → False) :
    WaitedFor (Function.update f c r) t x := by
  obtain ⟨c', Old, W, hs, hx, ht⟩ := h
  refine ⟨c', Old, W, ?_, hx, ht⟩
  by_cases e : c' = c
  · subst e
    exact (hc Old W hs hx ht).elim
  · rw [Function.update_noteq e]
    exact hs

theorem WaitedFor.leave {f : Nat → ReinitPc} {t t' x : Nat} (h : WaitedFor f t' x) (hne : t' ≠ t) :
    WaitedFor (fun c => (f c).leave t) t' x := by
  obtain ⟨c, Old, W, hs, hx, ht⟩ := h
  exact ⟨c, Old, W.erase t, by simp only [hs, ReinitPc.leave], hx, (List.mem_erase_of_ne hne).mpr ht⟩

/-- Each old socket belongs to one call. -/
def Owned (reinit : Nat → ReinitPc) : Prop :=
  ∀ c c' x, x ∈ (reinit c).old → x ∈ (reinit c').old → c = c'

/-- Moving call `c` to old sockets that no other call has keeps them owned. -/
theorem Owned.update {f : Nat → ReinitPc} {c : Nat} {r : ReinitPc} (h : Owned f)
    (hr : ∀ x ∈ r.old, ∀ c', x ∈ (f c').old → c' = c) : Owned (Function.update f c r) := by
  intro c₁ c₂ x h₁ h₂
  by_cases e₁ : c₁ = c <;> by_cases e₂ : c₂ = c
  · exact e₁.trans e₂.symm
  · subst e₁
    rw [Function.update_same] at h₁
    rw [Function.update_noteq e₂] at h₂
    exact (hr x h₁ c₂ h₂).symm
  · subst e₂
    rw [Function.update_same] at h₂
    rw [Function.update_noteq e₁] at h₁
    exact hr x h₂ c₁ h₁
  · rw [Function.update_noteq e₁] at h₁
    rw [Function.update_noteq e₂] at h₂
    exact h c₁ c₂ x h₁ h₂

/-- The old sockets of a call waiting in `RcuSynchronize`: distinct,
    unpublished, created, and none run down. -/
structure SyncOk (created : Nat) (Sock4 Sock6 : Option Nat) (sockets : Nat → SocketLife) (Old : List Nat) :
    Prop where
  nodup : Old.Nodup
  old : ∀ x ∈ Old, ¬(Sock4 = some x ∨ Sock6 = some x) ∧ x < created ∧ (sockets x).RundownStarted = false

/-- The old sockets a call is closing: distinct, unpublished, created, not
    freed and held by no reader; all but the first not run down, the first
    as `RundownStarted` says. -/
structure CloseOk (created : Nat) (Sock4 Sock6 : Option Nat) (sockets : Nat → SocketLife)
    (senders : Nat → SenderPc) (Old : List Nat) (RundownStarted : Bool) : Prop where
  ne_nil : Old ≠ []
  nodup : Old.Nodup
  old : ∀ x ∈ Old, ¬(Sock4 = some x ∨ Sock6 = some x) ∧ x < created ∧ (sockets x).Freed = false ∧
    ∀ t, senders t ≠ .reading (some x)
  tail : ∀ x ∈ Old.tail, (sockets x).RundownStarted = false
  head : ∀ x ∈ Old.head?, (sockets x).RundownStarted = RundownStarted

/-- What a call of `SocketReinit` at `r` says against the rest of the state;
    a call in `MemFree` has closed its first old socket once its rundown was
    over, and no receive wrapper can be taken on it since. -/
def CallOk (created : Nat) (Sock4 Sock6 : Option Nat) (sockets : Nat → SocketLife)
    (senders : Nat → SenderPc) : ReinitPc → Prop
  | .idle => True
  | .synchronizing Old _ => SyncOk created Sock4 Sock6 sockets Old
  | .closing Old b => CloseOk created Sock4 Sock6 sockets senders Old b
  | .freeing Old =>
    CloseOk created Sock4 Sock6 sockets senders Old true ∧ ∀ x ∈ Old.head?, (sockets x).ItemsInFlight = 0

variable {created created' : Nat} {Sock4 Sock6 Sock4' Sock6' : Option Nat} {sockets sockets' : Nat → SocketLife}
  {senders senders' : Nat → SenderPc}

theorem CallOk.old_facts {r : ReinitPc} (h : CallOk created Sock4 Sock6 sockets senders r) {x : Nat}
    (hx : x ∈ r.old) : ¬(Sock4 = some x ∨ Sock6 = some x) ∧ x < created := by
  cases r with
  | idle => cases hx
  | synchronizing Old W =>
    have h : SyncOk created Sock4 Sock6 sockets Old := h
    exact ⟨(h.old x hx).1, (h.old x hx).2.1⟩
  | closing Old b =>
    have h : CloseOk created Sock4 Sock6 sockets senders Old b := h
    exact ⟨(h.old x hx).1, (h.old x hx).2.1⟩
  | freeing Old => exact ⟨(h.1.old x hx).1, (h.1.old x hx).2.1⟩

@[simp] theorem callOk_leave {t : Nat} {r : ReinitPc} :
    CallOk created Sock4 Sock6 sockets senders (r.leave t) ↔ CallOk created Sock4 Sock6 sockets senders r := by
  cases r <;> exact Iff.rfl

theorem CloseOk.transfer {Old : List Nat} {b : Bool} (h : CloseOk created Sock4 Sock6 sockets senders Old b)
    (hpub : ∀ x ∈ Old, Sock4' = some x ∨ Sock6' = some x → Sock4 = some x ∨ Sock6 = some x)
    (hcr : created ≤ created')
    (hrs : ∀ x ∈ Old, (sockets' x).RundownStarted = (sockets x).RundownStarted)
    (hf : ∀ x ∈ Old, (sockets' x).Freed = (sockets x).Freed)
    (hsend : ∀ x ∈ Old, ∀ t, senders' t = .reading (some x) → senders t = .reading (some x)) :
    CloseOk created' Sock4' Sock6' sockets' senders' Old b := by
  refine ⟨h.ne_nil, h.nodup, fun x hx => ?_, fun x hx => (hrs x (List.mem_of_mem_tail hx)).trans (h.tail x hx),
    fun x hx => (hrs x (List.mem_of_mem_head? hx)).trans (h.head x hx)⟩
  obtain ⟨hnp, hlt, hnf, hnr⟩ := h.old x hx
  exact ⟨fun hp => hnp (hpub x hx hp), Nat.lt_of_lt_of_le hlt hcr, (hf x hx).trans hnf,
    fun t ht => hnr t (hsend x hx t ht)⟩

/-- A call stays consistent with a state that publishes none of its old
    sockets anew, creates more sockets, keeps its old sockets' rundown and
    freeing as they were and their drained wrappers drained, and gives no
    reader one of them. -/
theorem CallOk.transfer {r : ReinitPc} (h : CallOk created Sock4 Sock6 sockets senders r)
    (hpub : ∀ x ∈ r.old, Sock4' = some x ∨ Sock6' = some x → Sock4 = some x ∨ Sock6 = some x)
    (hcr : created ≤ created')
    (hrs : ∀ x ∈ r.old, (sockets' x).RundownStarted = (sockets x).RundownStarted)
    (hf : ∀ x ∈ r.old, (sockets' x).Freed = (sockets x).Freed)
    (hif : ∀ x ∈ r.old, (sockets x).ItemsInFlight = 0 → (sockets x).RundownStarted = true →
      (sockets' x).ItemsInFlight = 0)
    (hsend : ∀ x ∈ r.old, ∀ t, senders' t = .reading (some x) → senders t = .reading (some x)) :
    CallOk created' Sock4' Sock6' sockets' senders' r := by
  cases r with
  | idle => trivial
  | synchronizing Old W =>
    have h : SyncOk created Sock4 Sock6 sockets Old := h
    exact ⟨h.nodup, fun x hx => ⟨fun hp => (h.old x hx).1 (hpub x hx hp),
      Nat.lt_of_lt_of_le (h.old x hx).2.1 hcr, (hrs x hx).trans (h.old x hx).2.2⟩⟩
  | closing Old b => exact CloseOk.transfer h hpub hcr hrs hf hsend
  | freeing Old =>
    obtain ⟨hc, hz⟩ := h
    exact ⟨hc.transfer hpub hcr hrs hf hsend,
      fun x hx => hif x (List.mem_of_mem_head? hx) (hz x hx) (hc.head x hx)⟩

end Calls

/-- RCU and the rundown protection at work. A thread in a read section holds
    a published socket, or an old one that the `RcuSynchronize` of the call
    that swapped it out waits for it to let go of. Each call's old sockets
    are its own; they wait unpublished, not run down, for the grace period,
    and then, no reader holding them, are closed one by one. -/
structure SwapInv (s : SwapSys) : Prop where
  sockets : ∀ x, SwapSys.SocketOk s.created s.Sock4 s.Sock6 x (s.sockets x)
  distinct : ∀ x, s.Sock4 = some x → s.Sock6 ≠ some x
  reader : ∀ t x, s.senders t = .reading (some x) → s.Published x ∨ WaitedFor s.reinit t x
  readerThread : ∀ t, (s.senders t).inSection = true → t < s.threads
  calls : ∀ c, CallOk s.created s.Sock4 s.Sock6 s.sockets s.senders (s.reinit c)
  owned : Owned s.reinit
  sendSafe : s.sendUseAfterFree = false
  releaseSafe : s.releaseUseAfterFree = false

namespace SwapInv

variable {s s' : SwapSys}

theorem init (threads : Nat) : SwapInv (SwapSys.init threads) :=
  ⟨fun _ => ⟨fun _ => rfl, fun h => (by rcases h with h | h <;> cases h), fun h => (by cases h)⟩,
    fun _ h => (by cases h), fun _ _ h => (by cases h), fun _ h => (by cases h), fun _ => trivial,
    fun _ _ _ h => (by cases h), rfl, rfl⟩

section Step

variable (hi : SwapInv s)
include hi

theorem syncOk {c : Nat} {Old W : List Nat} (hs : s.reinit c = .synchronizing Old W) :
    SyncOk s.created s.Sock4 s.Sock6 s.sockets Old := by
  have h := hi.calls c
  rwa [hs] at h

theorem closeOk {c : Nat} {Old : List Nat} {b : Bool} (hc : s.reinit c = .closing Old b) :
    CloseOk s.created s.Sock4 s.Sock6 s.sockets s.senders Old b := by
  have h := hi.calls c
  rwa [hc] at h

theorem freeOk {c : Nat} {Old : List Nat} (hc : s.reinit c = .freeing Old) :
    CloseOk s.created s.Sock4 s.Sock6 s.sockets s.senders Old true ∧
      ∀ x ∈ Old.head?, (s.sockets x).ItemsInFlight = 0 := by
  have h := hi.calls c
  rwa [hc] at h

/-- An old socket of one call is no old socket of another. -/
theorem ne_of_owned {c c' x y : Nat} (hx : x ∈ (s.reinit c).old) (hne : c' ≠ c) (hy : y ∈ (s.reinit c').old) :
    y ≠ x :=
  fun hyx => hne (hi.owned c' c y hy (hyx ▸ hx))

/-- Moving thread `t` keeps every thread in a read section one of the
    device's threads, if `t` is one when it enters. -/
theorem readerThread_update {t : Nat} {v : SenderPc} (hv : v.inSection = true → t < s.threads) (t' : Nat)
    (ht' : (Function.update s.senders t v t').inSection = true) : t' < s.threads := by
  by_cases heq : t' = t
  · subst heq
    rw [Function.update_same] at ht'
    exact hv ht'
  · rw [Function.update_noteq heq] at ht'
    exact hi.readerThread t' ht'

/-- A thread in a read section holds a socket that is not freed. -/
theorem reader_not_freed {t x : Nat} (hr : s.senders t = .reading (some x)) : (s.sockets x).Freed = false := by
  apply (hi.sockets x).not_freed
  rcases hi.reader t x hr with hp | ⟨c, Old, W, hs, hx, -⟩
  · exact ((hi.sockets x).published hp).2
  · exact ((hi.syncOk hs).old x hx).2.2

theorem enter {t : Nat} {Family : ADDRESS_FAMILY} (h : s.step (.enter t Family) = some s') : SwapInv s' := by
  obtain ⟨ht, -, rfl⟩ := SwapSys.step_enter h
  have hread : ∀ t' x, Function.update s.senders t (.reading (s.socketFor Family)) t' = .reading (some x) →
      s.Published x ∨ s.senders t' = .reading (some x) := fun t' x hr => by
    by_cases heq : t' = t
    · subst heq
      simp only [Function.update_same, SenderPc.reading.injEq] at hr
      exact .inl (SwapSys.socketFor_published hr)
    · rw [Function.update_noteq heq] at hr
      exact .inr hr
  exact ⟨hi.sockets, hi.distinct, fun t' x hr => (hread t' x hr).elim .inl (hi.reader t' x),
    hi.readerThread_update fun _ => ht,
    fun c => (hi.calls c).transfer (fun _ _ => id) (Nat.le_refl _) (fun _ _ => rfl) (fun _ _ => rfl)
      (fun _ _ h _ => h) fun x hx t' hr => (hread t' x hr).resolve_left ((hi.calls c).old_facts hx).1,
    hi.owned, hi.sendSafe, hi.releaseSafe⟩

theorem send {t : Nat} (h : s.step (.send t) = some s') : SwapInv s' := by
  obtain ⟨Socket, hr, rfl⟩ := SwapSys.step_send h
  have hsafe : s.freed Socket = false := by
    cases Socket with
    | none => rfl
    | some x => exact hi.reader_not_freed hr
  have hread : ∀ t' x, Function.update s.senders t .idle t' = .reading (some x) →
      t' ≠ t ∧ s.senders t' = .reading (some x) := fun t' x hr' => by
    by_cases heq : t' = t
    · subst heq
      rw [Function.update_same] at hr'
      cases hr'
    · exact ⟨heq, (Function.update_noteq heq _ _).symm.trans hr'⟩
  refine ⟨hi.sockets, hi.distinct, fun t' x hr' => ?_, hi.readerThread_update fun h => absurd h Bool.false_ne_true,
    fun c => callOk_leave.mpr ((hi.calls c).transfer (fun _ _ => id) (Nat.le_refl _) (fun _ _ => rfl) (fun _ _ => rfl)
      (fun _ _ h _ => h) fun x _ t' hr' => (hread t' x hr').2),
    fun c c' x hx hx' => hi.owned c c' x (by simpa only [ReinitPc.old_leave] using hx)
      (by simpa only [ReinitPc.old_leave] using hx'),
    by simp only [hi.sendSafe, hsafe, Bool.or_self], hi.releaseSafe⟩
  obtain ⟨hne, hr'⟩ := hread t' x hr'
  exact (hi.reader t' x hr').imp id fun w => w.leave hne

/-- A step that changes one socket's life, but neither whether it is being
    run down nor whether it is freed, and takes no receive wrapper on it once
    it is run down, keeps the invariant if that life is consistent. -/
theorem update_socket {x : Nat} {l : SocketLife}
    (ho : SwapSys.SocketOk s.created s.Sock4 s.Sock6 x l)
    (hrs : l.RundownStarted = (s.sockets x).RundownStarted) (hf : l.Freed = (s.sockets x).Freed)
    (hif : (s.sockets x).ItemsInFlight = 0 → (s.sockets x).RundownStarted = true → l.ItemsInFlight = 0)
    {rel rcv : Bool} (hrel : rel = false) :
    SwapInv { s with sockets := Function.update s.sockets x l, releaseUseAfterFree := rel,
                     receiveUseAfterFree := rcv } :=
  ⟨(Function.forall_update_iff s.sockets
      fun y l => SwapSys.SocketOk s.created s.Sock4 s.Sock6 y l).mpr ⟨ho, fun y _ => hi.sockets y⟩,
    hi.distinct, hi.reader, hi.readerThread,
    fun c => (hi.calls c).transfer (fun _ _ => id) (Nat.le_refl _) (fun y _ => update_field_eq hrs y)
      (fun y _ => update_field_eq hf y) (fun y _ => update_inFlight hif y) (fun _ _ _ => id),
    hi.owned, hi.sendSafe, hrel⟩

theorem receive {x : Nat} {Keep : Bool} (h : s.step (.receive x Keep) = some s') : SwapInv s' := by
  obtain ⟨hx, -, rfl⟩ := SwapSys.step_receive h
  have o := hi.sockets x
  refine hi.update_socket ?_ (by split <;> rfl) (by split <;> rfl) (fun h0 hs => by simp [hs, h0])
    hi.releaseSafe
  split
  next hk =>
    have hrs : (s.sockets x).RundownStarted = false := by
      simp only [Bool.and_eq_true, Bool.not_eq_true'] at hk
      exact hk.2
    exact ⟨fun h => absurd h (by omega), fun _ => ⟨hx, hrs⟩,
      fun hf => absurd (o.freed hf).1 (by rw [hrs]; exact Bool.false_ne_true)⟩
  · exact o

theorem release {x : Nat} (h : s.step (.release x) = some s') : SwapInv s' := by
  obtain ⟨hpos, rfl⟩ := SwapSys.step_release h
  have o := hi.sockets x
  have hnf : (s.sockets x).Freed = false := by
    cases hf : (s.sockets x).Freed
    · rfl
    · have := (o.freed hf).2
      omega
  have hx : x < s.created := by
    refine Nat.lt_of_not_le fun hle => ?_
    rw [o.fresh hle] at hpos
    cases hpos
  refine hi.update_socket ?_ ?_ ?_ (fun h0 _ => absurd h0 (Nat.pos_iff_ne_zero.mp hpos)) ?_
  · exact ⟨fun h => absurd h (by omega), fun hp => o.published hp, fun hf => absurd (hnf ▸ hf) Bool.false_ne_true⟩
  · rfl
  · rfl
  · rw [hi.releaseSafe, hnf]
    rfl

theorem reinit {c : Nat} {New4 New6 : Bool} (h : s.step (.reinit c New4 New6) = some s') : SwapInv s' := by
  obtain ⟨hidle, rfl⟩ := SwapSys.step_reinit h
  refine ⟨fun x => ?_, fun x h4 => SwapSys.reinit_distinct h4, fun t x hr => ?_, hi.readerThread,
    (Function.forall_update_iff _ fun _ r => CallOk _ _ _ _ _ r).mpr
      ⟨⟨SwapSys.nodup_slots hi.distinct, fun x hx => ?_⟩, fun c' _ => ?_⟩,
    hi.owned.update fun x hx c' hx' => absurd (SwapSys.mem_slots.mp hx) ((hi.calls c').old_facts hx').1,
    hi.sendSafe, hi.releaseSafe⟩
  · have o := hi.sockets x
    refine ⟨fun hx => o.fresh (Nat.le_of_add_right_le (Nat.le_of_add_right_le hx)), fun hp => ?_, o.freed⟩
    have hle := SwapSys.reinit_slot hp
    exact ⟨hle.2, by rw [o.fresh hle.1]; rfl⟩
  · rcases hi.reader t x hr with hp | hw
    · have hin : (s.senders t).inSection = true := by rw [hr]; rfl
      exact .inr ⟨c, _, _, Function.update_same _ _ _, SwapSys.mem_slots.mpr hp,
        List.mem_filter.mpr ⟨List.mem_range.mpr (hi.readerThread t hin), hin⟩⟩
    · refine .inr (hw.update fun Old W hs => ?_)
      rw [hidle] at hs
      cases hs
  · have ⟨hlt, hrs⟩ := (hi.sockets x).published (SwapSys.mem_slots.mp hx)
    refine ⟨fun hp => absurd (SwapSys.reinit_slot hp).1 (by omega), ?_, hrs⟩
    show x < s.created + _ + _
    omega
  · exact (hi.calls c').transfer
      (fun x hx hp => absurd (SwapSys.reinit_slot hp).1 (Nat.not_le_of_lt ((hi.calls c').old_facts hx).2))
      (Nat.le_trans (Nat.le_add_right _ _) (Nat.le_add_right _ _)) (fun _ _ => rfl) (fun _ _ => rfl)
      (fun _ _ h _ => h) (fun _ _ _ => id)

theorem synchronize {c : Nat} (h : s.step (.synchronize c) = some s') : SwapInv s' := by
  obtain ⟨Old, hs, rfl⟩ := SwapSys.step_synchronize h
  generalize hr : (if Old.isEmpty then ReinitPc.idle else .closing Old false) = r
  have hsync := hi.syncOk hs
  have hfree : ∀ x ∈ Old, ∀ t, s.senders t ≠ .reading (some x) := fun x hx t hrd => by
    rcases hi.reader t x hrd with hp | ⟨c', Old', W, hs', hx', ht⟩
    · exact (hsync.old x hx).1 hp
    · obtain rfl : c = c' := hi.owned c c' x (by rw [hs]; exact hx) (by rw [hs']; exact hx')
      rw [hs] at hs'
      cases hs'
      exact List.not_mem_nil t ht
  have hcall : CallOk s.created s.Sock4 s.Sock6 s.sockets s.senders r := by
    rw [← hr]
    split
    · trivial
    next hne =>
      exact ⟨fun h => hne (by rw [h]; rfl), hsync.nodup,
        fun x hx => ⟨(hsync.old x hx).1, (hsync.old x hx).2.1, (hi.sockets x).not_freed (hsync.old x hx).2.2,
          hfree x hx⟩,
        fun x hx => (hsync.old x (List.mem_of_mem_tail hx)).2.2,
        fun x hx => (hsync.old x (List.mem_of_mem_head? hx)).2.2⟩
  have hold : ∀ x ∈ r.old, x ∈ (s.reinit c).old := fun x hx => by
    rw [hs, ← hr] at *
    split at hx
    · cases hx
    · exact hx
  have hwait : ∀ t x, WaitedFor s.reinit t x → WaitedFor (Function.update s.reinit c r) t x :=
    fun t x w => w.update fun Old' W hs' _ ht => by
      rw [hs] at hs'
      cases hs'
      exact List.not_mem_nil t ht
  exact ⟨hi.sockets, hi.distinct, fun t x hrd => (hi.reader t x hrd).imp id (hwait t x), hi.readerThread,
    (Function.forall_update_iff _ fun _ r => CallOk _ _ _ _ _ r).mpr ⟨hcall, fun c' _ => hi.calls c'⟩,
    hi.owned.update fun x hx c' hx' => hi.owned c' c x hx' (hold x hx), hi.sendSafe, hi.releaseSafe⟩

theorem rundown {c : Nat} (h : s.step (.rundown c) = some s') : SwapInv s' := by
  obtain ⟨x, rest, hc, rfl⟩ := SwapSys.step_rundown h
  have hcl := hi.closeOk hc
  obtain ⟨hnp, hlt, hnf, -⟩ := hcl.old x (List.mem_cons_self x rest)
  have hx : x ∉ rest := (List.nodup_cons.mp hcl.nodup).1
  have hxc : x ∈ (s.reinit c).old := by
    rw [hc]
    exact List.mem_cons_self x rest
  have hF := @update_field_eq s.sockets x { s.sockets x with RundownStarted := true } Bool SocketLife.Freed rfl
  have hI := @update_field_eq s.sockets x { s.sockets x with RundownStarted := true } Nat SocketLife.ItemsInFlight rfl
  have hsock : SwapSys.SocketOk s.created s.Sock4 s.Sock6 x { s.sockets x with RundownStarted := true } :=
    ⟨fun hle => (Nat.not_le_of_lt hlt hle).elim, fun hp => absurd hp hnp, fun hf => absurd (hnf ▸ hf) Bool.false_ne_true⟩
  have hcall : CloseOk s.created s.Sock4 s.Sock6 (Function.update s.sockets x { s.sockets x with RundownStarted := true })
      s.senders (x :: rest) true := by
    refine ⟨List.cons_ne_nil x rest, hcl.nodup, fun y hy => ?_, fun y hy => ?_, fun y hy => ?_⟩
    · obtain ⟨hnp', hlt', hnf', hnr'⟩ := hcl.old y hy
      exact ⟨hnp', hlt', (hF y).trans hnf', hnr'⟩
    · have hne : y ≠ x := fun h => hx (h ▸ hy)
      rw [Function.update_noteq hne]
      exact hcl.tail y hy
    · cases hy
      rw [Function.update_same]
  exact ⟨(Function.forall_update_iff _ fun y l => SwapSys.SocketOk _ _ _ y l).mpr ⟨hsock, fun y _ => hi.sockets y⟩,
    hi.distinct, fun t y hr => (hi.reader t y hr).imp id fun w => w.update fun Old W hs => (by rw [hc] at hs; cases hs),
    hi.readerThread, (Function.forall_update_iff _ fun _ r => CallOk _ _ _ _ _ r).mpr ⟨hcall,
      fun c' hc' => (hi.calls c').transfer (fun _ _ => id) (Nat.le_refl _)
        (fun y hy => congrArg SocketLife.RundownStarted (Function.update_noteq (hi.ne_of_owned hxc hc' hy) _ _))
        (fun y _ => hF y) (fun y _ h _ => (hI y).trans h) (fun _ _ _ => id)⟩,
    hi.owned.update fun y hy c' hy' => hi.owned c' c y hy' (by rw [hc]; exact hy), hi.sendSafe, hi.releaseSafe⟩

/-- `WskCloseSocket` changes nothing the invariant reads of the socket, and
    the call moves on to `MemFree` with the socket drained. -/
theorem close {c : Nat} {IrpAllocate : Bool} (h : s.step (.close c IrpAllocate) = some s') : SwapInv s' := by
  obtain ⟨x, rest, hc, hz, rfl⟩ := SwapSys.step_close h
  have hcl := hi.closeOk hc
  have hlt := (hcl.old x (List.mem_cons_self x rest)).2.1
  have o := hi.sockets x
  have hR := @update_field_eq s.sockets x { s.sockets x with Closed := IrpAllocate } Bool SocketLife.RundownStarted rfl
  have hF := @update_field_eq s.sockets x { s.sockets x with Closed := IrpAllocate } Bool SocketLife.Freed rfl
  have hI := @update_field_eq s.sockets x { s.sockets x with Closed := IrpAllocate } Nat SocketLife.ItemsInFlight rfl
  have hcall : CallOk s.created s.Sock4 s.Sock6 (Function.update s.sockets x { s.sockets x with Closed := IrpAllocate })
      s.senders (.freeing (x :: rest)) :=
    ⟨hcl.transfer (fun _ _ => id) (Nat.le_refl _) (fun y _ => hR y) (fun y _ => hF y) (fun _ _ _ => id),
      fun y hy => by cases hy; exact (hI x).trans hz⟩
  exact ⟨(Function.forall_update_iff _ fun y l => SwapSys.SocketOk _ _ _ y l).mpr
      ⟨⟨fun hle => absurd hlt (Nat.not_lt_of_le hle), o.published, o.freed⟩, fun y _ => hi.sockets y⟩,
    hi.distinct, fun t y hrd => (hi.reader t y hrd).imp id fun w => w.update fun Old W hs => (by rw [hc] at hs; cases hs),
    hi.readerThread, (Function.forall_update_iff _ fun _ r => CallOk _ _ _ _ _ r).mpr ⟨hcall,
      fun c' _ => (hi.calls c').transfer (fun _ _ => id) (Nat.le_refl _) (fun y _ => hR y) (fun y _ => hF y)
        (fun y _ h _ => (hI y).trans h) (fun _ _ _ => id)⟩,
    hi.owned.update fun y hy c' hy' => hi.owned c' c y hy' (by rw [hc]; exact hy), hi.sendSafe, hi.releaseSafe⟩

/-- `MemFree` of a call's first old socket: run down, drained and held by no
    reader, it is freed; the call goes on to its next old socket. -/
theorem free {c : Nat} (h : s.step (.free c) = some s') : SwapInv s' := by
  obtain ⟨x, rest, hc, rfl⟩ := SwapSys.step_free h
  generalize hr : (if rest.isEmpty then ReinitPc.idle else .closing rest false) = r
  obtain ⟨hcl, hz⟩ := hi.freeOk hc
  obtain ⟨hnp, hlt, -, -⟩ := hcl.old x (List.mem_cons_self x rest)
  have hne : ∀ y ∈ rest, y ≠ x := fun y hy h => (List.nodup_cons.mp hcl.nodup).1 (h ▸ hy)
  have hxc : x ∈ (s.reinit c).old := by
    rw [hc]
    exact List.mem_cons_self x rest
  have hsock : SwapSys.SocketOk s.created s.Sock4 s.Sock6 x { s.sockets x with Freed := true } :=
    ⟨fun hle => (Nat.not_le_of_lt hlt hle).elim, fun hp => absurd hp hnp, fun _ => ⟨hcl.head x rfl, hz x rfl⟩⟩
  have hcall : CallOk s.created s.Sock4 s.Sock6
      (Function.update s.sockets x { s.sockets x with Freed := true }) s.senders r := by
    rw [← hr]
    split
    · trivial
    next hnil =>
      refine ⟨fun h => hnil (by rw [h]; rfl), (List.nodup_cons.mp hcl.nodup).2, fun y hy => ?_,
        fun y hy => ?_, fun y hy => ?_⟩
      · rw [Function.update_noteq (hne y hy)]
        exact hcl.old y (List.mem_cons_of_mem x hy)
      · have hy := List.mem_of_mem_tail hy
        rw [Function.update_noteq (hne y hy)]
        exact hcl.tail y hy
      · have hy := List.mem_of_mem_head? hy
        rw [Function.update_noteq (hne y hy)]
        exact hcl.tail y hy
  have hold : ∀ y ∈ r.old, y ∈ (s.reinit c).old := fun y hy => by
    rw [hc]
    rw [← hr] at hy
    split at hy
    · cases hy
    · exact List.mem_cons_of_mem x hy
  have hupd : ∀ c' y, c' ≠ c → y ∈ (s.reinit c').old →
      Function.update s.sockets x { s.sockets x with Freed := true } y = s.sockets y :=
    fun c' y hc' hy => Function.update_noteq (hi.ne_of_owned hxc hc' hy) _ _
  exact ⟨(Function.forall_update_iff _ fun y l => SwapSys.SocketOk _ _ _ y l).mpr ⟨hsock, fun y _ => hi.sockets y⟩,
    hi.distinct, fun t y hrd => (hi.reader t y hrd).imp id fun w => w.update fun Old W hs => (by rw [hc] at hs; cases hs),
    hi.readerThread, (Function.forall_update_iff _ fun _ r => CallOk _ _ _ _ _ r).mpr ⟨hcall,
      fun c' hc' => (hi.calls c').transfer (fun _ _ => id) (Nat.le_refl _)
        (fun y hy => congrArg SocketLife.RundownStarted (hupd c' y hc' hy))
        (fun y hy => congrArg SocketLife.Freed (hupd c' y hc' hy))
        (fun y hy h _ => (congrArg SocketLife.ItemsInFlight (hupd c' y hc' hy)).trans h) (fun _ _ _ => id)⟩,
    hi.owned.update fun y hy c' hy' => hi.owned c' c y hy' (hold y hy), hi.sendSafe, hi.releaseSafe⟩

theorem step {a : SwapAction} (h : s.step a = some s') : SwapInv s' := by
  cases a with
  | enter t Family => exact hi.enter h
  | send t => exact hi.send h
  | receive x Keep => exact hi.receive h
  | release x => exact hi.release h
  | reinit c New4 New6 => exact hi.reinit h
  | synchronize c => exact hi.synchronize h
  | rundown c => exact hi.rundown h
  | close c IrpAllocate => exact hi.close h
  | free c => exact hi.free h

end Step

end SwapInv

theorem SwapSys.Reachable.inv {threads : Nat} {ok : SwapAction → Prop} {s : SwapSys}
    (h : s.Reachable threads ok) : SwapInv s := by
  induction h with
  | init => exact SwapInv.init threads
  | step _ _ _ hs ih => exact ih.step hs

/-- Under any interleaving of sends, receives, releases of receive wrappers
    and overlapping calls of `SocketReinit`, `SendAsync` never uses a `SOCKET`
    that `SocketReinit` has freed, and no receive wrapper is released on one:
    RCU keeps a socket a reader holds from being closed, and the rundown
    protection keeps one with a wrapper in flight from being freed. -/
theorem socketReinit_send_and_release_safe {threads : Nat} {ok : SwapAction → Prop} {s : SwapSys}
    (h : s.Reachable threads ok) : s.sendUseAfterFree = false ∧ s.releaseUseAfterFree = false :=
  ⟨h.inv.sendSafe, h.inv.releaseSafe⟩

/-- A sender holds the IPv4 socket while a second call swaps it out. -/
theorem socketReinit_send_and_release_safe_while_sender_holds :
    ∃ s, (SwapSys.init 1).run [.reinit 0 true false, .synchronize 0, .enter 0 AF_INET, .reinit 1 false false] = some s ∧
      s.sendUseAfterFree = false ∧ s.releaseUseAfterFree = false := by
  obtain ⟨s, hr⟩ : ∃ s, (SwapSys.init 1).run
      [.reinit 0 true false, .synchronize 0, .enter 0 AF_INET, .reinit 1 false false] = some s := ⟨_, rfl⟩
  have hreach : s.Reachable 1 fun _ => True := SwapSys.Reachable.init.run (fun _ _ => trivial) hr
  exact ⟨s, hr, socketReinit_send_and_release_safe hreach⟩

/-- The sockets in `Wg->Sock4` and `Wg->Sock6` are live: created, not being
    run down, and not freed. -/
theorem socketReinit_published_live {threads : Nat} {ok : SwapAction → Prop} {s : SwapSys}
    (h : s.Reachable threads ok) {x : Nat} (hp : s.Published x) :
    x < s.created ∧ (s.sockets x).RundownStarted = false ∧ (s.sockets x).Freed = false := by
  obtain ⟨hlt, hrs⟩ := (h.inv.sockets x).published hp
  exact ⟨hlt, hrs, (h.inv.sockets x).not_freed hrs⟩

theorem socketReinit_published_live_after_swaps :
    ∃ s, (SwapSys.init 0).run [.reinit 0 true false, .synchronize 0, .reinit 0 true true] = some s ∧
      s.Published 2 ∧ 2 < s.created ∧ (s.sockets 2).RundownStarted = false ∧ (s.sockets 2).Freed = false := by
  obtain ⟨s, hr⟩ : ∃ s, (SwapSys.init 0).run [.reinit 0 true false, .synchronize 0, .reinit 0 true true] = some s :=
    ⟨_, rfl⟩
  have hp : s.Published 2 := by
    simp only [SwapSys.run, SwapSys.step, Option.bind] at hr
    cases hr
    exact .inr rfl
  have hreach : s.Reachable 0 fun _ => True := SwapSys.Reachable.init.run (fun _ _ => trivial) hr
  exact ⟨s, hr, hp, socketReinit_published_live hreach hp⟩

/-- `MemFree` in `CloseSocket` of `SocketReinit` frees only a socket that is
    not yet freed, no longer published, held by no sender and with no receive
    wrapper in flight, and frees nothing else: no socket is freed twice. -/
theorem socketReinit_close_frees_retired {threads : Nat} {ok : SwapAction → Prop} {s s' : SwapSys}
    (h : s.Reachable threads ok) {c : Nat} (hs : s.step (.free c) = some s') :
    ∃ x, (s.sockets x).Freed = false ∧ ¬s.Published x ∧ (∀ t, s.senders t ≠ .reading (some x)) ∧
      (s.sockets x).ItemsInFlight = 0 ∧
      s'.sockets = Function.update s.sockets x { s.sockets x with Freed := true } := by
  obtain ⟨x, rest, hr, rfl⟩ := SwapSys.step_free hs
  obtain ⟨hcl, hz⟩ := h.inv.freeOk hr
  obtain ⟨hnp, -, hnf, hnr⟩ := hcl.old x (List.mem_cons_self x rest)
  exact ⟨x, hnf, hnp, hnr, hz x rfl, rfl⟩

theorem socketReinit_close_frees_retired_after_swap :
    ∃ s s', (SwapSys.init 0).run [.reinit 0 true false, .synchronize 0, .reinit 0 false false, .synchronize 0,
        .rundown 0, .close 0 true] = some s ∧ s.step (.free 0) = some s' ∧
      ∃ x, (s.sockets x).Freed = false ∧ ¬s.Published x ∧ (∀ t, s.senders t ≠ .reading (some x)) ∧
        (s.sockets x).ItemsInFlight = 0 ∧
        s'.sockets = Function.update s.sockets x { s.sockets x with Freed := true } := by
  obtain ⟨s, hr⟩ : ∃ s, (SwapSys.init 0).run [.reinit 0 true false, .synchronize 0, .reinit 0 false false,
      .synchronize 0, .rundown 0, .close 0 true] = some s := ⟨_, rfl⟩
  obtain ⟨s', hs⟩ : ∃ s', s.step (.free 0) = some s' := by
    simp only [SwapSys.run, SwapSys.step, Option.bind] at hr
    cases hr
    exact ⟨_, rfl⟩
  have hreach : s.Reachable 0 fun _ => True := SwapSys.Reachable.init.run (fun _ _ => trivial) hr
  exact ⟨s, s', hr, hs, socketReinit_close_frees_retired hreach hs⟩

/-- The provider's side: `CloseSocket` closes the provider socket before it
    frees the `SOCKET`, and the provider makes no `Receive` call on a closed
    socket, so none reaches a freed `SOCKET`. This holds only while
    `CloseSocket`'s `IoAllocateIrp` succeeds. -/
structure ReceiveInv (s : SwapSys) : Prop where
  freeing : ∀ c x rest, s.reinit c = .freeing (x :: rest) → (s.sockets x).Closed = true
  closed : ∀ x, (s.sockets x).Freed = true → (s.sockets x).Closed = true
  receiveSafe : s.receiveUseAfterFree = false

theorem freeing_of_update {f : Nat → ReinitPc} {c c' : Nat} {r : ReinitPc} {Old : List Nat}
    (hr : ∀ Old, r ≠ .freeing Old) (h : Function.update f c r c' = .freeing Old) : f c' = .freeing Old := by
  by_cases e : c' = c
  · subst e
    rw [Function.update_same] at h
    exact absurd h (hr Old)
  · rwa [Function.update_noteq e] at h

namespace ReceiveInv

variable {s s' : SwapSys}

/-- A step that closes no provider socket, frees no `SOCKET` and moves no
    call into `MemFree` keeps the invariant, if it makes no `Receive` call
    on a freed `SOCKET`. -/
theorem frame (hi : ReceiveInv s) (hc : ∀ x, (s'.sockets x).Closed = (s.sockets x).Closed)
    (hf : ∀ x, (s'.sockets x).Freed = (s.sockets x).Freed)
    (hr : ∀ c x rest, s'.reinit c = .freeing (x :: rest) → s.reinit c = .freeing (x :: rest))
    (hu : s'.receiveUseAfterFree = false) : ReceiveInv s' :=
  ⟨fun c x rest h => (hc x).trans (hi.freeing c x rest (hr c x rest h)),
    fun x h => (hc x).trans (hi.closed x ((hf x).symm.trans h)), hu⟩

theorem step {a : SwapAction} (hi : ReceiveInv s) (ha : ∀ c, a ≠ .close c false) (h : s.step a = some s') :
    ReceiveInv s' := by
  cases a with
  | enter t Family =>
    obtain ⟨-, -, rfl⟩ := SwapSys.step_enter h
    exact hi.frame (fun _ => rfl) (fun _ => rfl) (fun _ _ _ => id) hi.receiveSafe
  | send t =>
    obtain ⟨-, -, rfl⟩ := SwapSys.step_send h
    exact hi.frame (fun _ => rfl) (fun _ => rfl) (fun _ _ _ => ReinitPc.leave_eq_freeing.mp) hi.receiveSafe
  | receive x Keep =>
    obtain ⟨-, hc, rfl⟩ := SwapSys.step_receive h
    have hf : (s.sockets x).Freed = false := by
      cases hf : (s.sockets x).Freed
      · rfl
      · rw [hi.closed x hf] at hc
        cases hc
    refine hi.frame (update_field_eq (by split <;> rfl)) (update_field_eq (by split <;> rfl)) (fun _ _ _ => id) ?_
    simp only [hi.receiveSafe, hf, Bool.or_self]
  | release x =>
    obtain ⟨-, rfl⟩ := SwapSys.step_release h
    exact hi.frame (update_field_eq rfl) (update_field_eq rfl) (fun _ _ _ => id) hi.receiveSafe
  | reinit c New4 New6 =>
    obtain ⟨-, rfl⟩ := SwapSys.step_reinit h
    exact hi.frame (fun _ => rfl) (fun _ => rfl) (fun _ _ _ => freeing_of_update fun _ h => by cases h)
      hi.receiveSafe
  | synchronize c =>
    obtain ⟨_, -, rfl⟩ := SwapSys.step_synchronize h
    exact hi.frame (fun _ => rfl) (fun _ => rfl)
      (fun _ _ _ => freeing_of_update fun _ h => by split at h <;> cases h) hi.receiveSafe
  | rundown c =>
    obtain ⟨x, _, -, rfl⟩ := SwapSys.step_rundown h
    exact hi.frame (update_field_eq rfl) (update_field_eq rfl) (fun _ _ _ => freeing_of_update fun _ h => by cases h)
      hi.receiveSafe
  | close c IrpAllocate =>
    obtain ⟨x, rest, -, -, rfl⟩ := SwapSys.step_close h
    obtain rfl : IrpAllocate = true := (Bool.eq_false_or_eq_true IrpAllocate).resolve_right fun e => ha c (by rw [e])
    have hc : ∀ y, (s.sockets y).Closed = true →
        (Function.update s.sockets x { s.sockets x with Closed := true } y).Closed = true := fun y hy => by
      by_cases e : y = x
      · subst e
        rw [Function.update_same]
      · rwa [Function.update_noteq e]
    refine ⟨fun c' y rest' h' => ?_, fun y hy => hc y (hi.closed y
      ((@update_field_eq s.sockets x { s.sockets x with Closed := true } Bool SocketLife.Freed rfl y).symm.trans hy)),
      hi.receiveSafe⟩
    by_cases e : c' = c
    · subst e
      simp only [Function.update_same, ReinitPc.freeing.injEq, List.cons.injEq] at h'
      obtain ⟨rfl, -⟩ := h'
      simp
    · simp only [Function.update_noteq e] at h'
      exact hc y (hi.freeing c' y rest' h')
  | free c =>
    obtain ⟨x, rest, hr, rfl⟩ := SwapSys.step_free h
    have hc := @update_field_eq s.sockets x { s.sockets x with Freed := true } Bool SocketLife.Closed rfl
    refine ⟨fun c' y rest' h' => (hc y).trans (hi.freeing c' y rest' (freeing_of_update
      (fun _ h => by split at h <;> cases h) h')), fun y hy => (hc y).trans ?_, hi.receiveSafe⟩
    by_cases e : y = x
    · subst e
      exact hi.freeing c y rest hr
    · exact hi.closed y (by simpa [Function.update_noteq e] using hy)

end ReceiveInv

theorem SwapSys.Reachable.receiveInv {threads : Nat} {ok : SwapAction → Prop} {s : SwapSys}
    (h : s.Reachable threads ok) (hok : ∀ a, ok a → ∀ c, a ≠ .close c false) : ReceiveInv s := by
  induction h with
  | init => exact ⟨fun _ _ _ h => (by cases h), fun _ h => (by cases h), rfl⟩
  | step a ha _ hs ih => exact ih.step (hok a ha) hs

/-- When every `IoAllocateIrp` of `CloseSocket` succeeds, the provider never
    calls `Receive` on a freed `SOCKET`. -/
theorem socketReinit_receive_safe_of_irps {threads : Nat} {ok : SwapAction → Prop} {s : SwapSys}
    (h : s.Reachable threads ok) (hok : ∀ a, ok a → ∀ c, a ≠ .close c false) : s.receiveUseAfterFree = false :=
  (h.receiveInv hok).receiveSafe

/-- A swap to a new IPv4 socket and then to none, with a datagram kept just
    before the rundown; the old socket is closed with its IRP allocated once
    the wrapper is released, and then freed. -/
theorem socketReinit_receive_safe_after_close :
    ∃ s, (SwapSys.init 0).run [.reinit 0 true false, .synchronize 0, .reinit 0 false false, .receive 0 true,
        .synchronize 0, .rundown 0, .release 0, .close 0 true, .free 0] = some s ∧
      s.receiveUseAfterFree = false := by
  obtain ⟨s, hr⟩ : ∃ s, (SwapSys.init 0).run [.reinit 0 true false, .synchronize 0, .reinit 0 false false,
      .receive 0 true, .synchronize 0, .rundown 0, .release 0, .close 0 true, .free 0] = some s := ⟨_, rfl⟩
  have hreach : s.Reachable 0 fun a => ∀ c, a ≠ .close c false := SwapSys.Reachable.init.run (by simp) hr
  exact ⟨s, hr, socketReinit_receive_safe_of_irps hreach fun _ ha => ha⟩

/-- A swap to a new IPv4 socket, then to none, whose `CloseSocket` of the old
    socket fails to allocate its IRP: the socket is freed with its provider
    socket still open, and the next datagram calls `Receive` on it. -/
def irpFailureRun : List SwapAction :=
  [.reinit 0 true false, .synchronize 0, .reinit 0 false false, .synchronize 0, .rundown 0, .close 0 false,
    .free 0, .receive 0 false]

theorem receive_after_free_of_irp_failure :
    ∃ s : SwapSys, s.Reachable 0 (fun _ => True) ∧ s.receiveUseAfterFree = true := by
  obtain ⟨s, hr, hu⟩ : ∃ s : SwapSys, (SwapSys.init 0).run irpFailureRun = some s ∧ s.receiveUseAfterFree = true :=
    ⟨_, rfl, rfl⟩
  exact ⟨s, SwapSys.Reachable.init.run (fun _ _ => trivial) hr, hu⟩

end wireguard
