import Mathlib.Logic.Function.Basic
import WgSocket.Resolve.Interleaving

namespace wireguard

/-- Each buffer obtained is given back exactly once: as many releases of it
    as acquisitions. -/
def Balanced (events : List ResolveEvent) : Prop :=
  ∀ b, events.count (.acquire b) = events.count (.release b)

/-- A call that returned: its thread, its status, whether it returned holding
    `EndpointLock` shared (its IRQL raised), and the buffer events of all its
    attempts. -/
structure ResolveReturn where
  Thread : Nat
  Status : NTSTATUS
  Holding : Bool
  Events : List ResolveEvent
deriving DecidableEq, Repr

/-- `ResolverSys` with two ghost fields: the buffer events of each thread's
    call so far, over all its attempts, and the calls that returned. -/
structure CallSys where
  sys : ResolverSys
  Pending : Nat → List ResolveEvent
  Returns : List ResolveReturn

namespace CallSys

def init (Endpoint : ENDPOINT) (n : Nat) : CallSys := ⟨ResolverSys.init Endpoint n, fun _ => [], []⟩

/-- An attempt of thread `t` ends in a retry or goes on past its commit: its
    events join its call's. -/
def log (c : CallSys) (s' : ResolverSys) (t : Nat) (events : List ResolveEvent) : CallSys :=
  ⟨s', Function.update c.Pending t (c.Pending t ++ events), c.Returns⟩

/-- The call of thread `t` returns, its last attempt's events with it; it
    holds `EndpointLock` shared when the thread's pc after the step says so. -/
def ret (c : CallSys) (s' : ResolverSys) (t : Nat) (Status : NTSTATUS) (events : List ResolveEvent) :
    CallSys :=
  ⟨s', Function.update c.Pending t [],
    c.Returns ++ [⟨t, Status, (s'.threads[t]?).any (·.pc.holding), c.Pending t ++ events⟩]⟩

/-- The ghost fields after a step of the system to `s'`, at the return points
    of `SocketResolvePeerEndpointSrc`: the fast path (lines 239-244), the
    unlocked returns (lines 252, 259, 292), the return for want of an
    interface (lines 321-322) and the slow path's (line 329). -/
def observe (c : CallSys) (s' : ResolverSys) : ResolverAction → CallSys
  | .start t _ =>
    match s'.threads[t]? with
    | some ⟨.holdingFast, _, _⟩ => c.ret s' t STATUS_SUCCESS []
    | _ => { c with sys := s' }
  | .leave t =>
    match c.sys.threads[t]? with
    | some ⟨.unlocked _ (.pure ⟨.ret Status, events⟩), _, _⟩ => c.ret s' t Status events
    | _ => { c with sys := s' }
  | .commit t =>
    match c.sys.threads[t]? with
    | some ⟨.unlocked _ (.pure ⟨.commit _ _, events⟩), _, _⟩ =>
      match s'.threads[t]? with
      | some ⟨.idle, _, _⟩ => c.ret s' t STATUS_BAD_NETWORK_PATH events
      | _ => c.log s' t events
    | _ => { c with sys := s' }
  | .verify t =>
    match s'.threads[t]? with
    | some ⟨.holdingSlow _, _, _⟩ => c.ret s' t STATUS_SUCCESS []
    | _ => { c with sys := s' }
  | _ => { c with sys := s' }

def step (DeviceLuid : BitVec 64) (c : CallSys) (a : ResolverAction) : Option CallSys :=
  (c.sys.step DeviceLuid a).map (c.observe · a)

inductive Reachable (DeviceLuid : BitVec 64) : CallSys → Prop
  | init (Endpoint : ENDPOINT) (n : Nat) : Reachable DeviceLuid (CallSys.init Endpoint n)
  | step {c c' : CallSys} (a : ResolverAction) :
      Reachable DeviceLuid c → c.step DeviceLuid a = some c' → Reachable DeviceLuid c'

def run (DeviceLuid : BitVec 64) : CallSys → List ResolverAction → Option CallSys
  | c, [] => some c
  | c, a :: as => (c.step DeviceLuid a).bind (run DeviceLuid · as)

end CallSys

/-! ## Every return -/

/-- Every value a computation of the unlocked part can end in satisfies `P`,
    whatever the reads of `Endpoint->Addr` return. -/
inductive Reads.All {α : Type} (P : α → Prop) : Reads α → Prop
  | pure {a : α} : P a → Reads.All P (.pure a)
  | read {k : SOCKADDR_INET → Reads α} : (∀ x, Reads.All P (k x)) → Reads.All P (.read k)

theorem Reads.All.bind {α β : Type} {P : β → Prop} {f : α → Reads β} (hf : ∀ a, (f a).All P) :
    ∀ x : Reads α, (x.bind f).All P
  | .pure a => hf a
  | .read k => .read fun x => Reads.All.bind hf (k x)

@[simp] theorem balanced_nil : Balanced [] := fun _ => rfl

theorem Balanced.append {e e' : List ResolveEvent} (h : Balanced e) (h' : Balanced e') : Balanced (e ++ e') :=
  fun b => by simp only [List.count_append, h b, h' b]

/-- An attempt that got past `MemAllocate` frees the interface row, then the
    table. -/
theorem balanced_freed :
    Balanced [.acquire .ForwardTable, .acquire .InterfaceRow, .release .InterfaceRow, .release .ForwardTable] := by
  intro b
  cases b <;> decide

/-- How an attempt's unlocked part can end: a return from it carries a
    failing status; and its buffers are given back, or it ran out of memory
    for the interface row with the forwarding table still held. -/
def UnlockedOk (u : Unlocked) : Prop :=
  (∀ Status, u.result = .ret Status → NT_SUCCESS Status = false) ∧
  (Balanced u.events ∨ (u.result = .ret STATUS_INSUFFICIENT_RESOURCES ∧ u.events = [.acquire .ForwardTable]))

theorem resolveUnlocked_all (DeviceLuid : BitVec 64) (o : ResolveOracle) :
    (ResolveUnlocked DeviceLuid o).All UnlockedOk := by
  refine .read fun Addr => ?_
  simp only
  split
  · next hS => exact .pure ⟨fun _ h => (by cases h; simpa using hS), .inl balanced_nil⟩
  split
  · exact .pure ⟨fun _ h => (by cases h; rfl), .inr ⟨rfl, rfl⟩⟩
  refine Reads.All.bind (fun Best => ?_) _
  split
  · refine .read fun Addr' => ?_
    split
    · next hS => exact .pure ⟨fun _ h => (by cases h; simpa using hS), .inl balanced_freed⟩
    · exact .pure ⟨fun _ h => (by cases h), .inl balanced_freed⟩
  · exact .pure ⟨fun _ h => (by cases h), .inl balanced_freed⟩

/-- What a return says: the call holds `EndpointLock` shared exactly when its
    status passes `NT_SUCCESS`, and that status is then `STATUS_SUCCESS`, so a
    caller that bails out on `!NT_SUCCESS` has no lock to drop; and every
    buffer obtained was given back, except the forwarding table of a last
    attempt that ran out of memory for the interface row. -/
def ReturnOk (R : ResolveReturn) : Prop :=
  R.Holding = NT_SUCCESS R.Status ∧ (NT_SUCCESS R.Status = true → R.Status = STATUS_SUCCESS) ∧
  (Balanced R.Events ∨
    R.Status = STATUS_INSUFFICIENT_RESOURCES ∧ ∃ e, Balanced e ∧ R.Events = e ++ [.acquire .ForwardTable])

theorem returnOk_success {t : Nat} {e : List ResolveEvent} (h : Balanced e) :
    ReturnOk ⟨t, STATUS_SUCCESS, true, e ++ []⟩ :=
  ⟨nt_success_STATUS_SUCCESS.symm, fun _ => rfl, .inl ((List.append_nil e).symm ▸ h)⟩

theorem returnOk_failure {t : Nat} {Status : NTSTATUS} {e : List ResolveEvent} (hS : NT_SUCCESS Status = false)
    (h : Balanced e ∨
      Status = STATUS_INSUFFICIENT_RESOURCES ∧ ∃ e', Balanced e' ∧ e = e' ++ [.acquire .ForwardTable]) :
    ReturnOk ⟨t, Status, false, e⟩ :=
  ⟨hS.symm, fun h' => by simp [hS] at h', h⟩

/-- A thread in its unlocked part ends that part well, whatever it reads. -/
def PcOk : ResolverPc → Prop
  | .unlocked _ p => p.All UnlockedOk
  | _ => True

theorem ResolverSys.getElem?_setThread_self {s : ResolverSys} {t : Nat} {r : Resolver}
    (h : t < s.threads.length) : (s.setThread t r).threads[t]? = some r :=
  List.getElem?_set_self h

theorem ResolverSys.getElem?_setThread_of_some {s : ResolverSys} {t : Nat} {r₀ r : Resolver}
    (h : s.threads[t]? = some r₀) : (s.setThread t r).threads[t]? = some r :=
  ResolverSys.getElem?_setThread_self (List.getElem?_eq_some_iff.mp h).1

@[simp] theorem ResolverSys.endpoint_setThread (s : ResolverSys) (t : Nat) (r : Resolver) :
    (s.setThread t r).Endpoint = s.Endpoint := rfl

theorem ResolverSys.length_write (s : ResolverSys) (e : ENDPOINT) :
    (s.write e).threads.length = s.threads.length := by
  unfold ResolverSys.write
  split <;> simp

theorem ResolverSys.forall_write {s : ResolverSys} {e : ENDPOINT} {P : ResolverPc → Prop}
    (h : ∀ r ∈ s.threads, P r.pc) : ∀ r ∈ (s.write e).threads, P r.pc := by
  unfold ResolverSys.write
  split
  · exact h
  · simp only [List.mem_map]
    rintro _ ⟨r, hr, rfl⟩
    split <;> exact h r hr

theorem rawStep_leave_ret {DeviceLuid : BitVec 64} {s s' : ResolverSys} {t : Nat}
    (h : rawStep DeviceLuid s (.leave t) = some s') :
    ∃ Snapshot Status events reads m,
      s.threads[t]? = some ⟨.unlocked Snapshot (.pure ⟨.ret Status, events⟩), reads, m⟩ ∧
      s' = s.setThread t Resolver.idle := by
  simp only [rawStep] at h
  split at h
  next Snapshot Status events reads m heq => exact ⟨_, _, _, _, _, heq, (Option.some.inj h).symm⟩
  next => cases h

/-- The invariant of the ghost fields: each call in progress has given back
    every buffer of its earlier attempts, each thread's unlocked part ends
    well, and every return so far is as `ReturnOk` says. -/
structure CallInv (c : CallSys) : Prop where
  pending : ∀ t, Balanced (c.Pending t)
  threads : ∀ r ∈ c.sys.threads, PcOk r.pc
  returns : ∀ R ∈ c.Returns, ReturnOk R

namespace CallInv

variable {DeviceLuid : BitVec 64} {c : CallSys} {s' : ResolverSys} {t : Nat}

theorem keep (hc : CallInv c) (hs : ∀ r ∈ s'.threads, PcOk r.pc) : CallInv { c with sys := s' } :=
  ⟨hc.pending, hs, hc.returns⟩

theorem log {events : List ResolveEvent} (hc : CallInv c) (hs : ∀ r ∈ s'.threads, PcOk r.pc)
    (he : Balanced events) : CallInv (c.log s' t events) := by
  refine ⟨fun t' => ?_, hs, hc.returns⟩
  by_cases ht : t' = t
  · subst ht
    simpa [CallSys.log] using (hc.pending t').append he
  · simpa [CallSys.log, ht] using hc.pending t'

theorem ret {Status : NTSTATUS} {events : List ResolveEvent} {r : Resolver} (hc : CallInv c)
    (hs : ∀ r ∈ s'.threads, PcOk r.pc) (ht : s'.threads[t]? = some r)
    (hR : ReturnOk ⟨t, Status, r.pc.holding, c.Pending t ++ events⟩) :
    CallInv (c.ret s' t Status events) := by
  refine ⟨fun t' => ?_, hs, fun R hR' => ?_⟩
  · by_cases ht : t' = t
    · simp [CallSys.ret, ht]
    · simpa [CallSys.ret, ht] using hc.pending t'
  · rcases List.mem_append.mp hR' with hR' | hR'
    · exact hc.returns R hR'
    · rw [List.mem_singleton.mp hR', ht]
      exact hR

theorem threads_setThread {r : Resolver} (hc : CallInv c) (hr : PcOk r.pc) :
    ∀ r' ∈ (c.sys.setThread t r).threads, PcOk r'.pc :=
  ResolverSys.forall_setThread hc.threads hr

theorem start {o : ResolveOracle} (hc : CallInv c) (hraw : rawStep DeviceLuid c.sys (.start t o) = some s') :
    CallInv (c.observe s' (.start t o)) := by
  obtain ⟨r, hr, -, -, rfl⟩ := rawStep_start hraw
  have hb : PcOk (c.sys.begin DeviceLuid o).pc := by
    unfold ResolverSys.begin
    split
    · trivial
    · exact resolveUnlocked_all DeviceLuid o
  have hs := hc.threads_setThread (t := t) hb
  have ht := ResolverSys.getElem?_setThread_of_some (r := c.sys.begin DeviceLuid o) hr
  simp only [CallSys.observe, ht]
  generalize c.sys.begin DeviceLuid o = b at hs ht ⊢
  obtain ⟨pc, reads, m⟩ := b
  cases pc with
  | holdingFast => exact hc.ret hs ht (returnOk_success (hc.pending t))
  | _ => exact hc.keep hs

theorem read (hc : CallInv c) (hraw : rawStep DeviceLuid c.sys (.read t) = some s') :
    CallInv (c.observe s' (.read t)) := by
  obtain ⟨Snapshot, k, reads, m, hr, rfl⟩ := rawStep_read hraw
  refine hc.keep (hc.threads_setThread ?_)
  cases hc.threads _ (List.getElem?_mem hr) with
  | read hk => exact hk _

/-- A return from the unlocked part gives back what its attempt obtained,
    or all but the forwarding table. -/
theorem leave (hc : CallInv c) (hraw : rawStep DeviceLuid c.sys (.leave t) = some s') :
    CallInv (c.observe s' (.leave t)) := by
  obtain ⟨Snapshot, Status, events, reads, m, hr, rfl⟩ := rawStep_leave_ret hraw
  simp only [CallSys.observe, hr]
  cases hc.threads _ (List.getElem?_mem hr) with
  | pure hu =>
    refine hc.ret (hc.threads_setThread trivial)
      (ResolverSys.getElem?_setThread_of_some hr) (returnOk_failure (hu.1 _ rfl) ?_)
    rcases hu.2 with hb | ⟨hret, rfl⟩
    · exact .inl ((hc.pending t).append hb)
    · cases hret
      exact .inr ⟨rfl, _, hc.pending t, rfl⟩

/-- A commit logs its balanced attempt, and returns `STATUS_BAD_NETWORK_PATH`
    with it when no interface was found. -/
theorem commit (hc : CallInv c) (hraw : rawStep DeviceLuid c.sys (.commit t) = some s') :
    CallInv (c.observe s' (.commit t)) := by
  obtain ⟨Snapshot, BestIndex, SrcAddr, events, reads, m, hr, -, hs'⟩ := rawStep_commit hraw
  have hlt := (List.getElem?_eq_some_iff.mp hr).1
  have hb : Balanced events := by
    cases hc.threads _ (List.getElem?_mem hr) with
    | pure hu => exact hu.2.resolve_right fun ⟨hret, _⟩ => by cases hret
  rcases hs' with ⟨-, rfl⟩ | ⟨-, rfl⟩
  · simp only [CallSys.observe, hr, ResolverSys.getElem?_setThread_self hlt]
    exact hc.log (hc.threads_setThread trivial) hb
  · generalize CommitSrc c.sys.Endpoint c.sys.RoutingGenerationV4 c.sys.RoutingGenerationV6 SrcAddr BestIndex = cs
    have hs := ResolverSys.forall_setThread (P := fun r => PcOk r.pc) (t := t)
      (ResolverSys.forall_write (e := cs.1) hc.threads)
      (show PcOk (if cs.2 == 0 then Resolver.idle else ⟨.verify (Snapshot + 1) cs.1, [], 0⟩).pc by
        split <;> trivial)
    have ht := ResolverSys.getElem?_setThread_self
      (r := if cs.2 == 0 then Resolver.idle else ⟨.verify (Snapshot + 1) cs.1, [], 0⟩)
      ((ResolverSys.length_write c.sys cs.1).symm ▸ hlt)
    simp only [CallSys.observe, hr, ht]
    split
    · next ht' => exact hc.ret hs (ht.trans ht') (returnOk_failure (by decide) (.inl ((hc.pending t).append hb)))
    · exact hc.log hs hb

theorem verify (hc : CallInv c) (hraw : rawStep DeviceLuid c.sys (.verify t) = some s') :
    CallInv (c.observe s' (.verify t)) := by
  obtain ⟨g, cm, reads, m, hr, ⟨-, rfl⟩ | ⟨-, rfl⟩⟩ := rawStep_verify hraw
  · simp only [CallSys.observe, ResolverSys.getElem?_setThread_of_some hr]
    exact hc.keep (hc.threads_setThread trivial)
  · have ht := ResolverSys.getElem?_setThread_of_some (r := ⟨.holdingSlow cm, [], 0⟩) hr
    simp only [CallSys.observe, ht]
    exact hc.ret (hc.threads_setThread trivial) ht (returnOk_success (hc.pending t))

/-- Every step keeps the invariant: the thread's own steps by the lemmas
    above, the writers' steps because they move no thread into its unlocked
    part. -/
theorem step {a : ResolverAction} (hc : CallInv c) (h : c.sys.step DeviceLuid a = some s') :
    CallInv (c.observe s' a) := by
  have hraw := (Option.filter_eq_some.mp h).1
  cases a with
  | start t o => exact hc.start hraw
  | read t => exact hc.read hraw
  | leave t => exact hc.leave hraw
  | commit t => exact hc.commit hraw
  | verify t => exact hc.verify hraw
  | release t =>
    obtain ⟨r, -, rfl⟩ := rawStep_release hraw
    exact hc.keep (hc.threads_setThread trivial)
  | setPeerEndpoint E =>
    obtain ⟨-, rfl⟩ := rawStep_setPeerEndpoint hraw
    exact hc.keep (ResolverSys.forall_write hc.threads)
  | clearPeerEndpointSrc =>
    obtain ⟨-, rfl⟩ := rawStep_clearPeerEndpointSrc hraw
    exact hc.keep (ResolverSys.forall_write hc.threads)
  | routeNotification Family =>
    exact hc.keep ((rawStep_routeNotification hraw).1 ▸ hc.threads)

end CallInv

theorem CallSys.observe_sys (c : CallSys) (s' : ResolverSys) (a : ResolverAction) : (c.observe s' a).sys = s' := by
  unfold CallSys.observe
  repeat' split
  all_goals rfl

/-- The ghost fields are ghost: the system they ride on runs as `ResolverSys`. -/
theorem CallSys.Reachable.sys {DeviceLuid : BitVec 64} {c : CallSys} (h : c.Reachable DeviceLuid) :
    c.sys.Reachable DeviceLuid := by
  induction h with
  | init Endpoint n => exact .init Endpoint n
  | step a _ hstep ih =>
    obtain ⟨s', hs, rfl⟩ := Option.map_eq_some'.mp hstep
    rw [CallSys.observe_sys]
    exact .step a ih hs

theorem CallSys.Reachable.inv {DeviceLuid : BitVec 64} {c : CallSys} (h : c.Reachable DeviceLuid) :
    CallInv c := by
  induction h with
  | init Endpoint n =>
    refine ⟨fun _ => balanced_nil, fun r hr => ?_, fun _ hR => by cases hR⟩
    rw [CallSys.init, ResolverSys.init, List.mem_replicate] at hr
    rw [hr.2]
    trivial
  | step a _ hstep ih =>
    obtain ⟨s', hs, rfl⟩ := Option.map_eq_some'.mp hstep
    exact ih.step hs

/-- Over every interleaving of resolver threads with the endpoint's writers and
    route changes, and every answer of the routing calls: a call returned
    holding `EndpointLock` exactly when its status passes `NT_SUCCESS`, and
    that status is then `STATUS_SUCCESS`; and every call gave back each buffer
    it obtained exactly once, save the forwarding table of a last attempt that
    ran out of memory for the interface row. -/
theorem CallSys.Reachable.returnOk {DeviceLuid : BitVec 64} {c : CallSys} (h : c.Reachable DeviceLuid) :
    ∀ R ∈ c.Returns, ReturnOk R :=
  h.inv.returns

theorem CallSys.Reachable.run {DeviceLuid : BitVec 64} {c c' : CallSys} {as : List ResolverAction}
    (h : c.Reachable DeviceLuid) (hrun : c.run DeviceLuid as = some c') : c'.Reachable DeviceLuid := by
  induction as generalizing c with
  | nil => cases hrun; exact h
  | cons a as ih =>
    obtain ⟨c₁, hs, hrun⟩ := Option.bind_eq_some.mp hrun
    exact ih (.step a h hs) hrun

/-- A resolve of `192.0.2.10` that runs out of memory for the interface row
    after its forwarding-table query succeeded. -/
theorem resolve_return_ok_out_of_memory :
    let Endpoint : ENDPOINT := ⟨⟨AF_INET, 0x6CCA#16, 0x0A0200C0#32, 0, 0⟩, PKTINFO.zero, cmsghdrV4, 0, 0⟩
    let Default : IP_ADDRESS_PREFIX := ⟨⟨AF_INET, 0, 0, 0, 0⟩, 0#8⟩
    let o : ResolveOracle :=
      ⟨fun _ => (STATUS_SUCCESS, [(⟨1#64, 7#32, Default, 1#32⟩, ⟨some IfOperStatusUp, fun _ => some 1#32⟩)]),
        false, fun _ _ => (STATUS_SUCCESS, ⟨AF_INET, 0, 0x0200000A#32, 0, 0⟩)⟩
    ∃ c, (CallSys.init Endpoint 1).run 99#64 [.start 0 o, .read 0, .leave 0] = some c ∧ ∀ R ∈ c.Returns, ReturnOk R := by
  intro Endpoint Default o
  have hsome : ((CallSys.init Endpoint 1).run 99#64 [.start 0 o, .read 0, .leave 0]).isSome = true := by decide
  obtain ⟨c, hrun⟩ := Option.isSome_iff_exists.mp hsome
  exact ⟨c, hrun, ((CallSys.Reachable.init _ _).run hrun).returnOk⟩

/-- A peer at `192.0.2.10` whose source is not resolved yet; the forwarding
    table query succeeds and `MemAllocate` of the interface row fails. The
    call returns `STATUS_INSUFFICIENT_RESOURCES` (line 259) with the table it
    obtained never given to `FreeMibTable`. -/
theorem resolve_leaks_forward_table_when_allocation_fails :
    let Endpoint : ENDPOINT := ⟨⟨AF_INET, 0x6CCA#16, 0x0A0200C0#32, 0, 0⟩, PKTINFO.zero, cmsghdrV4, 0, 0⟩
    let Default : IP_ADDRESS_PREFIX := ⟨⟨AF_INET, 0, 0, 0, 0⟩, 0#8⟩
    let o : ResolveOracle :=
      ⟨fun _ => (STATUS_SUCCESS, [(⟨1#64, 7#32, Default, 1#32⟩, ⟨some IfOperStatusUp, fun _ => some 1#32⟩)]),
        false, fun _ _ => (STATUS_SUCCESS, ⟨AF_INET, 0, 0x0200000A#32, 0, 0⟩)⟩
    ((CallSys.init Endpoint 1).run 99#64 [.start 0 o, .read 0, .leave 0]).map CallSys.Returns =
      some [⟨0, STATUS_INSUFFICIENT_RESOURCES, false, [.acquire .ForwardTable]⟩] := by
  decide

/-! ## Endpoints of another family -/

section OtherFamily

variable {DeviceLuid : BitVec 64} {c c' : CallSys} {R : ResolveReturn}

/-- Neither `AF_INET` nor `AF_INET6`. -/
def OtherFamily (e : ENDPOINT) : Prop := e.Addr.si_family ≠ AF_INET ∧ e.Addr.si_family ≠ AF_INET6

theorem OtherFamily.not_resolved {e : ENDPOINT} (h : OtherFamily e) : ¬ Resolved e := by
  rintro (⟨hf, -⟩ | ⟨hf, -⟩)
  exacts [h.1 hf, h.2 hf]

/-- The `else` arm of lines 317-318: one more `UpdateGeneration`, and
    `BestIndex` zeroed whatever the scan found. -/
theorem commitSrc_otherFamily {e : ENDPOINT} {g4 g6 : BitVec 32} {SrcAddr : SOCKADDR_INET} {BestIndex : BitVec 32}
    (h : OtherFamily e) :
    CommitSrc e g4 g6 SrcAddr BestIndex = ({ e with UpdateGeneration := e.UpdateGeneration + 1 }, 0) := by
  simp [CommitSrc, h.1, h.2]

theorem CallSys.ret_returns {s' : ResolverSys} {t : Nat} {Status : NTSTATUS} {events : List ResolveEvent}
    (hR : (c.ret s' t Status events).Returns = c.Returns ++ [R]) :
    R = ⟨t, Status, (s'.threads[t]?).any (·.pc.holding), c.Pending t ++ events⟩ :=
  (List.singleton_inj.mp (List.append_cancel_left hR)).symm

/-- Without the lock, and with the endpoint untouched or only its
    `UpdateGeneration` moved, after a `STATUS_BAD_NETWORK_PATH`. -/
def FailsOn (E E' : ENDPOINT) (R : ResolveReturn) : Prop :=
  R.Holding = false ∧
    (E' = E ∨ R.Status = STATUS_BAD_NETWORK_PATH ∧ E' = { E with UpdateGeneration := E.UpdateGeneration + 1 })

/-- A step that returns a call while the endpoint has another family: the
    fast path and the slow path both need a resolved endpoint, so the return
    is from the unlocked part or from the commit's `else` arm. -/
theorem CallSys.step_otherFamily (h : c.sys.Reachable DeviceLuid) {a : ResolverAction}
    (hs : c.step DeviceLuid a = some c') (hR : c'.Returns = c.Returns ++ [R]) (hfam : OtherFamily c.sys.Endpoint) :
    FailsOn c.sys.Endpoint c'.sys.Endpoint R := by
  obtain ⟨s', hss, rfl⟩ := Option.map_eq_some'.mp hs
  have hraw := (Option.filter_eq_some.mp hss).1
  rw [CallSys.observe_sys]
  cases a with
  | start t o =>
    obtain ⟨r, hr, -, -, rfl⟩ := rawStep_start hraw
    have hfp : FastPath c.sys.Endpoint c.sys.RoutingGenerationV4 c.sys.RoutingGenerationV6 = false :=
      Bool.eq_false_iff.mpr fun hf => hfam.not_resolved (fastPath_resolved hf)
    simp [CallSys.observe, ResolverSys.getElem?_setThread_of_some hr, ResolverSys.begin, hfp] at hR
  | leave t =>
    obtain ⟨Snapshot, Status, events, reads, m, hr, rfl⟩ := rawStep_leave_ret hraw
    simp only [CallSys.observe, hr] at hR
    obtain rfl := CallSys.ret_returns hR
    simp [FailsOn, ResolverSys.getElem?_setThread_of_some hr, Resolver.idle, ResolverPc.holding]
  | commit t =>
    obtain ⟨Snapshot, BestIndex, SrcAddr, events, reads, m, hr, -, ⟨-, rfl⟩ | ⟨-, rfl⟩⟩ := rawStep_commit hraw
    · simp [CallSys.observe, hr, ResolverSys.getElem?_setThread_of_some hr, CallSys.log] at hR
    · have hlt := (List.getElem?_eq_some_iff.mp hr).1
      simp only [commitSrc_otherFamily hfam, beq_self_eq_true, if_true, CallSys.observe, hr,
        ResolverSys.getElem?_setThread_self ((ResolverSys.length_write _ _).symm ▸ hlt)] at hR ⊢
      obtain rfl := CallSys.ret_returns hR
      simp [FailsOn, ResolverSys.getElem?_setThread_self ((ResolverSys.length_write _ _).symm ▸ hlt),
        Resolver.idle, ResolverPc.holding]
  | verify t =>
    obtain ⟨g, cm, reads, m, hr, ⟨-, rfl⟩ | ⟨hg, rfl⟩⟩ := rawStep_verify hraw
    · simp [CallSys.observe, ResolverSys.getElem?_setThread_of_some hr] at hR
    · have hT : ThreadInv c.sys.Endpoint ⟨.verify g cm, reads, m⟩ := h.inv.threads _ (List.getElem?_mem hr)
      have hm : m < 2 ^ 32 := ResolverSys.bounded_iff.mp h.inv.bounded _ (List.getElem?_mem hr)
      obtain ⟨hgen, hcm, hres⟩ := hT
      have h0 : m = 0 := mutations_eq_zero hm (hg ▸ hgen)
      exact absurd (hcm h0 ▸ hres) hfam.not_resolved
  | _ => simp [CallSys.observe] at hR

/-- While the peer's endpoint has a family other than `AF_INET` and
    `AF_INET6`, under any interleaving and whatever the routing calls answer,
    a call that returns fails and holds no lock, and either leaves the
    endpoint as it was (a failing routing call, or `MemAllocate`) or returns
    `STATUS_BAD_NETWORK_PATH` with only `UpdateGeneration` moved, by one. -/
theorem resolve_other_family_fails (h : c.Reachable DeviceLuid) {a : ResolverAction}
    (hs : c.step DeviceLuid a = some c') (hR : c'.Returns = c.Returns ++ [R]) (hfam : OtherFamily c.sys.Endpoint) :
    NT_SUCCESS R.Status = false ∧ R.Holding = false ∧
      (c'.sys.Endpoint = c.sys.Endpoint ∨
        R.Status = STATUS_BAD_NETWORK_PATH ∧
          c'.sys.Endpoint = { c.sys.Endpoint with UpdateGeneration := c.sys.Endpoint.UpdateGeneration + 1 }) := by
  have hok : ReturnOk R := (h.step a hs).inv.returns R (hR ▸ List.mem_append_right _ (List.mem_singleton_self R))
  have hf := CallSys.step_otherFamily h.sys hs hR hfam
  exact ⟨hok.1.symm.trans hf.1, hf⟩

/-- The zeroed endpoint's first call, returning from its commit. -/
theorem resolve_unset_endpoint_fails_at_commit :
    let Default : IP_ADDRESS_PREFIX := ⟨⟨AF_INET, 0, 0, 0, 0⟩, 0#8⟩
    let o : ResolveOracle :=
      ⟨fun _ => (STATUS_SUCCESS, [(⟨1#64, 7#32, Default, 1#32⟩, ⟨some IfOperStatusUp, fun _ => none⟩)]),
        true, fun _ _ => (STATUS_SUCCESS, SOCKADDR_INET.zero)⟩
    let R : ResolveReturn := ⟨0, STATUS_BAD_NETWORK_PATH, false,
      [.acquire .ForwardTable, .acquire .InterfaceRow, .release .InterfaceRow, .release .ForwardTable]⟩
    ∃ c c', (CallSys.init ENDPOINT.zero 1).run 99#64 [.start 0 o, .read 0, .read 0, .read 0, .read 0] = some c ∧
      c.step 99#64 (.commit 0) = some c' ∧ c'.Returns = c.Returns ++ [R] ∧ OtherFamily c.sys.Endpoint ∧
      NT_SUCCESS R.Status = false ∧ R.Holding = false ∧
      (c'.sys.Endpoint = c.sys.Endpoint ∨
        R.Status = STATUS_BAD_NETWORK_PATH ∧
          c'.sys.Endpoint = { c.sys.Endpoint with UpdateGeneration := c.sys.Endpoint.UpdateGeneration + 1 }) := by
  intro Default o R
  have hv : ((CallSys.init ENDPOINT.zero 1).run 99#64 [.start 0 o, .read 0, .read 0, .read 0, .read 0]).bind
      (fun c => (c.step 99#64 (.commit 0)).map fun c' =>
        decide (c'.Returns = c.Returns ++ [R] ∧
          c.sys.Endpoint.Addr.si_family ≠ AF_INET ∧ c.sys.Endpoint.Addr.si_family ≠ AF_INET6)) = some true := by
    decide
  obtain ⟨c, hrun, hc⟩ := Option.bind_eq_some.mp hv
  obtain ⟨c', hs, hd⟩ := Option.map_eq_some'.mp hc
  obtain ⟨hR, hfam⟩ := of_decide_eq_true hd
  exact ⟨c, c', hrun, hs, hR, hfam,
    resolve_other_family_fails ((CallSys.Reachable.init _ _).run hrun) hs hR hfam⟩

end OtherFamily

/-- The zeroed peer endpoint, family `AF_UNSPEC`. `GetIpForwardTable2` for
    that family succeeds with one default route, and `GetIpInterfaceEntry`
    fails for family 0, so the scan finds no interface. The commit takes the
    `else` arm, `BestIndex = 0`, bumps `UpdateGeneration` from 0 to 1, and the
    call returns `STATUS_BAD_NETWORK_PATH`; its `STATUS_INVALID_PARAMETER`
    initialiser was overwritten by the table query's status. -/
theorem resolve_unset_endpoint_returns_bad_network_path :
    let Default : IP_ADDRESS_PREFIX := ⟨⟨AF_INET, 0, 0, 0, 0⟩, 0#8⟩
    let o : ResolveOracle :=
      ⟨fun _ => (STATUS_SUCCESS, [(⟨1#64, 7#32, Default, 1#32⟩, ⟨some IfOperStatusUp, fun _ => none⟩)]),
        true, fun _ _ => (STATUS_SUCCESS, SOCKADDR_INET.zero)⟩
    ((CallSys.init ENDPOINT.zero 1).run 99#64 [.start 0 o, .read 0, .read 0, .read 0, .read 0, .commit 0]).map
      (fun c => (c.Returns.map ResolveReturn.Status, c.sys.Endpoint.UpdateGeneration)) =
      some ([STATUS_BAD_NETWORK_PATH], 1#32) := by
  decide

/-! ## Retries and routing generations -/

section Retry

variable {DeviceLuid : BitVec 64} {s s' : ResolverSys} {t : Nat}

/-- The optimistic check retries only on a real conflict: a thread sent back
    to `retry` by its commit, or by its check after the commit, has seen a
    write change the endpoint since its snapshot, or since its commit. -/
theorem resolve_retries_only_after_endpoint_change (h : s.Reachable DeviceLuid) {a : ResolverAction}
    (ha : a = .commit t ∨ a = .verify t) (hs : s.step DeviceLuid a = some s') {r : Resolver}
    (hr : s.threads[t]? = some r) (hretry : (s'.threads[t]?).map Resolver.pc = some .retry) : 0 < r.mutations := by
  have hT : ThreadInv s.Endpoint r := h.inv.threads r (List.getElem?_mem hr)
  have hlt : t < s.threads.length := (List.getElem?_eq_some_iff.mp hr).1
  obtain ⟨hraw, -⟩ := Option.filter_eq_some.mp hs
  refine Nat.pos_of_ne_zero fun h0 => ?_
  rcases ha with rfl | rfl
  · obtain ⟨Snapshot, BestIndex, SrcAddr, events, reads, m, hr', -, ⟨hg, -⟩ | ⟨-, rfl⟩⟩ := rawStep_commit hraw
    · rw [hr] at hr'
      cases hr'
      have hm : m = 0 := h0
      exact hg (by simpa [hm] using hT.1)
    · rw [ResolverSys.getElem?_setThread_self (by rwa [ResolverSys.length_write])] at hretry
      split at hretry <;> cases hretry
  · obtain ⟨g, c, reads, m, hr', ⟨hg, -⟩ | ⟨-, rfl⟩⟩ := rawStep_verify hraw
    · rw [hr] at hr'
      cases hr'
      have hm : m = 0 := h0
      exact hg (by simpa [hm] using hT.1)
    · rw [ResolverSys.getElem?_setThread_self hlt] at hretry
      cases hretry

/-- A concurrent `SocketSetPeerEndpoint` to `192.0.2.11` lands between the
    unlocked part of a resolve of `192.0.2.10` and its commit. -/
theorem resolve_retries_after_concurrent_set :
    let Endpoint : ENDPOINT := ⟨⟨AF_INET, 0x6CCA#16, 0x0A0200C0#32, 0, 0⟩, PKTINFO.zero, cmsghdrV4, 0, 0⟩
    let Default : IP_ADDRESS_PREFIX := ⟨⟨AF_INET, 0, 0, 0, 0⟩, 0#8⟩
    let o : ResolveOracle :=
      ⟨fun _ => (STATUS_SUCCESS, [(⟨1#64, 7#32, Default, 1#32⟩, ⟨some IfOperStatusUp, fun _ => some 1#32⟩)]),
        true, fun _ _ => (STATUS_SUCCESS, ⟨AF_INET, 0, 0x0200000A#32, 0, 0⟩)⟩
    let E : ENDPOINT := { Endpoint with Addr := ⟨AF_INET, 0x6CCA#16, 0x0B0200C0#32, 0, 0⟩ }
    ∃ s s' r, (ResolverSys.init Endpoint 1).run 99#64
        [.start 0 o, .read 0, .read 0, .read 0, .read 0, .read 0, .read 0, .setPeerEndpoint E] = some s ∧
      s.step 99#64 (.commit 0) = some s' ∧ s.threads[0]? = some r ∧
      (s'.threads[0]?).map Resolver.pc = some .retry ∧ 0 < r.mutations := by
  intro Endpoint Default o E
  have hv : (((ResolverSys.init Endpoint 1).run 99#64
      [.start 0 o, .read 0, .read 0, .read 0, .read 0, .read 0, .read 0, .setPeerEndpoint E]).bind fun s =>
        (s.step 99#64 (.commit 0)).map fun s' => (s, s')).map
      (fun p => (p.2.threads[0]?).map fun r => match r.pc with | .retry => true | _ => false) = some (some true) := by
    decide
  obtain ⟨⟨s, s'⟩, hp, hq⟩ := Option.map_eq_some'.mp hv
  obtain ⟨s₀, hrun, hss⟩ := Option.bind_eq_some.mp hp
  obtain ⟨s₁, hs, he⟩ := Option.map_eq_some'.mp hss
  cases he
  obtain ⟨r', hr', hb⟩ := Option.map_eq_some'.mp hq
  have hretry : (s'.threads[0]?).map Resolver.pc = some .retry := by
    rw [hr']
    split at hb
    · next h => rw [Option.map_some', h]
    · cases hb
  obtain ⟨_, _, _, _, _, m, hr, -⟩ := rawStep_commit (Option.filter_eq_some.mp hs).1
  exact ⟨s, s', _, hrun, hs, hr, hretry, resolve_retries_only_after_endpoint_change
    ((ResolverSys.Reachable.init _ _).run hrun) (.inl rfl) hs hr hretry⟩

/-- Both routing generations are odd: they start at 1 and `RouteNotification`
    adds 2, modulo `2^32`. -/
def GenerationsOdd (s : ResolverSys) : Prop :=
  s.RoutingGenerationV4.toNat % 2 = 1 ∧ s.RoutingGenerationV6.toNat % 2 = 1

theorem generationsOdd_write (s : ResolverSys) (e : ENDPOINT) : GenerationsOdd (s.write e) = GenerationsOdd s := by
  unfold ResolverSys.write
  split <;> rfl

theorem generationsOdd_setThread (s : ResolverSys) (t : Nat) (r : Resolver) :
    GenerationsOdd (s.setThread t r) = GenerationsOdd s := rfl

theorem toNat_add_two_odd {g : BitVec 32} (h : g.toNat % 2 = 1) : (g + 2).toNat % 2 = 1 := by
  rw [BitVec.toNat_add, show (2 : BitVec 32).toNat = 2 from rfl]
  omega

theorem GenerationsOdd.rawStep {a : ResolverAction} (h : GenerationsOdd s) (hs : rawStep DeviceLuid s a = some s') :
    GenerationsOdd s' := by
  cases a with
  | start t o => obtain ⟨_, -, -, -, rfl⟩ := rawStep_start hs; exact h
  | read t => obtain ⟨_, _, _, _, -, rfl⟩ := rawStep_read hs; exact h
  | leave t => obtain ⟨_, -, -, rfl⟩ := rawStep_leave hs; exact h
  | commit t =>
    obtain ⟨_, _, _, _, _, _, -, -, ⟨-, rfl⟩ | ⟨-, rfl⟩⟩ := rawStep_commit hs
    · exact h
    · rw [generationsOdd_setThread, generationsOdd_write]
      exact h
  | verify t => obtain ⟨_, _, _, _, -, ⟨-, rfl⟩ | ⟨-, rfl⟩⟩ := rawStep_verify hs <;> exact h
  | release t => obtain ⟨_, -, rfl⟩ := rawStep_release hs; exact h
  | setPeerEndpoint E =>
    obtain ⟨-, rfl⟩ := rawStep_setPeerEndpoint hs
    rwa [generationsOdd_write]
  | clearPeerEndpointSrc =>
    obtain ⟨-, rfl⟩ := rawStep_clearPeerEndpointSrc hs
    rwa [generationsOdd_write]
  | routeNotification Family =>
    simp only [wireguard.rawStep] at hs
    split at hs
    · cases hs
      exact ⟨toNat_add_two_odd h.1, h.2⟩
    split at hs
    · cases hs
      exact ⟨h.1, toNat_add_two_odd h.2⟩
    · cases hs

theorem ResolverSys.Reachable.generationsOdd (h : s.Reachable DeviceLuid) : GenerationsOdd s := by
  induction h with
  | init => exact ⟨rfl, rfl⟩
  | step a _ hstep ih => exact ih.rawStep (Option.filter_eq_some.mp hstep).1

/-- Under any interleaving of resolves, endpoint writes and route changes,
    both routing generations stay odd, through every wrap of the counters;
    so an endpoint stamped with routing generation 0, as
    `SocketClearPeerEndpointSrc` and the zeroed endpoint leave it, never
    takes the fast path. -/
theorem resolve_generation_zero_never_fast (h : s.Reachable DeviceLuid) :
    GenerationsOdd s ∧
      ∀ e : ENDPOINT, e.RoutingGeneration = 0 → FastPath e s.RoutingGenerationV4 s.RoutingGenerationV6 = false := by
  have hodd := h.generationsOdd
  refine ⟨hodd, fun e he => ?_⟩
  have h4 : 0#32 ≠ s.RoutingGenerationV4 := fun h0 => by simp [GenerationsOdd, ← h0] at hodd
  have h6 : 0#32 ≠ s.RoutingGenerationV6 := fun h0 => by simp [GenerationsOdd, ← h0] at hodd
  simp [FastPath, he, h4, h6]

/-- After a route change of each family. -/
theorem resolve_generation_zero_never_fast_after_route_changes :
    ∃ s, (ResolverSys.init ENDPOINT.zero 1).run 99#64 [.routeNotification AF_INET, .routeNotification AF_INET6] =
        some s ∧ GenerationsOdd s ∧
      ∀ e : ENDPOINT, e.RoutingGeneration = 0 → FastPath e s.RoutingGenerationV4 s.RoutingGenerationV6 = false := by
  obtain ⟨s, hrun⟩ : ∃ s, (ResolverSys.init ENDPOINT.zero 1).run 99#64
      [.routeNotification AF_INET, .routeNotification AF_INET6] = some s := ⟨_, rfl⟩
  exact ⟨s, hrun, resolve_generation_zero_never_fast ((ResolverSys.Reachable.init _ _).run hrun)⟩

end Retry

end wireguard
