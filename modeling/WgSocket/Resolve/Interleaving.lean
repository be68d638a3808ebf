import WgSocket.Resolve.Unlocked

namespace wireguard

/-- Where a thread stands in `SocketResolvePeerEndpointSrc`: outside it; at
    `retry`; in the unlocked part, with its `UpdateGeneration` snapshot and
    what is left of that part; past its commit, about to check the generation
    it wrote; or returned `STATUS_SUCCESS` holding `EndpointLock` shared, from
    the fast path or from the slow path with the endpoint it wrote. -/
inductive ResolverPc
  | idle
  | retry
  | unlocked (Snapshot : BitVec 32) (Prog : Reads Unlocked)
  | verify (UpdateGeneration : BitVec 32) (Committed : ENDPOINT)
  | holdingFast
  | holdingSlow (Committed : ENDPOINT)

def ResolverPc.holding : ResolverPc → Bool
  | holdingFast | holdingSlow _ => true
  | _ => false

def ResolverPc.active : ResolverPc → Bool
  | unlocked _ _ | verify _ _ => true
  | _ => false

/-- A resolver thread. Two ghost fields follow its current attempt: the
    `Endpoint->Addr` values it read without the lock, and the endpoint
    mutations since its snapshot (since its commit, once committed). -/
structure Resolver where
  pc : ResolverPc
  reads : List SOCKADDR_INET
  mutations : Nat

def Resolver.idle : Resolver := ⟨.idle, [], 0⟩

/-- One peer's endpoint, the two global routing generations, and the threads
    that may run the resolver on that peer. -/
structure ResolverSys where
  Endpoint : ENDPOINT
  RoutingGenerationV4 : BitVec 32
  RoutingGenerationV6 : BitVec 32
  threads : List Resolver

/-- `RoutingGenerationV4` and `RoutingGenerationV6` start at 1. -/
def ResolverSys.init (Endpoint : ENDPOINT) (n : Nat) : ResolverSys :=
  ⟨Endpoint, 1, 1, List.replicate n Resolver.idle⟩

/-- The steps of the system. Each `EndpointLock` section is one step; so is
    each unlocked read of `Endpoint->Addr`. -/
inductive ResolverAction
  | start (t : Nat) (o : ResolveOracle)
  | read (t : Nat)
  | leave (t : Nat)
  | commit (t : Nat)
  | verify (t : Nat)
  | release (t : Nat)
  | setPeerEndpoint (Endpoint : ENDPOINT)
  | clearPeerEndpointSrc
  | routeNotification (Family : ADDRESS_FAMILY)

/-- The fast-path test of lines 239-244. -/
def FastPath (e : ENDPOINT) (RoutingGenerationV4 RoutingGenerationV6 : BitVec 32) : Bool :=
  (e.Addr.si_family == AF_INET && e.RoutingGeneration == RoutingGenerationV4 && e.Src4.ipi_ifindex != 0) ||
  (e.Addr.si_family == AF_INET6 && e.RoutingGeneration == RoutingGenerationV6 && e.Src6.ipi6_ifindex != 0)

namespace ResolverSys

def setThread (s : ResolverSys) (t : Nat) (r : Resolver) : ResolverSys :=
  { s with threads := s.threads.set t r }

/-- No thread holds `EndpointLock` shared, so it can be taken exclusively. -/
def exclusiveFree (s : ResolverSys) : Bool := s.threads.all fun r => !r.pc.holding

/-- Every attempt in flight has seen fewer than `2^32` endpoint mutations. -/
def bounded (s : ResolverSys) : Bool := s.threads.all fun r => decide (r.mutations < 2 ^ 32)

/-- An exclusive section leaves `e` behind; a change counts as one more
    mutation for every attempt in flight. -/
def write (s : ResolverSys) (e : ENDPOINT) : ResolverSys :=
  if e = s.Endpoint then s
  else { s with Endpoint := e,
                threads := s.threads.map fun r =>
                  if r.pc.active then { r with mutations := r.mutations + 1 } else r }

@[simp] theorem endpoint_write (s : ResolverSys) (e : ENDPOINT) : (s.write e).Endpoint = e := by
  unfold write
  split
  · next h => exact h.symm
  · rfl

/-- The shared section at `retry` (lines 237-244): the snapshot, then the fast
    path or the start of the unlocked part. -/
def begin (s : ResolverSys) (DeviceLuid : BitVec 64) (o : ResolveOracle) : Resolver :=
  if FastPath s.Endpoint s.RoutingGenerationV4 s.RoutingGenerationV6 then ⟨.holdingFast, [], 0⟩
  else ⟨.unlocked s.Endpoint.UpdateGeneration (ResolveUnlocked DeviceLuid o), [], 0⟩

end ResolverSys

open ResolverSys in
def rawStep (DeviceLuid : BitVec 64) (s : ResolverSys) : ResolverAction → Option ResolverSys
  | .start t o =>
    match s.threads[t]? with
    | some ⟨.idle, _, _⟩ | some ⟨.retry, _, _⟩ => some (s.setThread t (s.begin DeviceLuid o))
    | _ => none
  | .read t =>
    match s.threads[t]? with
    | some ⟨.unlocked Snapshot (.read k), reads, m⟩ =>
      some (s.setThread t ⟨.unlocked Snapshot (k s.Endpoint.Addr), s.Endpoint.Addr :: reads, m⟩)
    | _ => none
  | .leave t =>
    match s.threads[t]? with
    | some ⟨.unlocked _ (.pure ⟨.ret _, _⟩), _, _⟩ => some (s.setThread t Resolver.idle)
    | _ => none
  | .commit t =>
    match s.threads[t]? with
    | some ⟨.unlocked Snapshot (.pure ⟨.commit BestIndex SrcAddr, _⟩), _, _⟩ =>
      if !s.exclusiveFree then none
      else if s.Endpoint.UpdateGeneration != Snapshot then some (s.setThread t ⟨.retry, [], 0⟩)
      else
        let c := CommitSrc s.Endpoint s.RoutingGenerationV4 s.RoutingGenerationV6 SrcAddr BestIndex
        some ((s.write c.1).setThread t
          (if c.2 == 0 then Resolver.idle else ⟨.verify (Snapshot + 1) c.1, [], 0⟩))
    | _ => none
  | .verify t =>
    match s.threads[t]? with
    | some ⟨.verify g c, _, _⟩ =>
      if s.Endpoint.UpdateGeneration != g then some (s.setThread t ⟨.retry, [], 0⟩)
      else some (s.setThread t ⟨.holdingSlow c, [], 0⟩)
    | _ => none
  | .release t =>
    match s.threads[t]? with
    | some ⟨.holdingFast, _, _⟩ | some ⟨.holdingSlow _, _, _⟩ => some (s.setThread t Resolver.idle)
    | _ => none
  | .setPeerEndpoint E =>
    if s.exclusiveFree then some (s.write (SetPeerEndpointLocked s.Endpoint E)) else none
  | .clearPeerEndpointSrc =>
    if s.exclusiveFree then some (s.write (SocketClearPeerEndpointSrc s.Endpoint)) else none
  | .routeNotification Family =>
    if Family == AF_INET then some { s with RoutingGenerationV4 := s.RoutingGenerationV4 + 2 }
    else if Family == AF_INET6 then some { s with RoutingGenerationV6 := s.RoutingGenerationV6 + 2 }
    else none

/-- A step, in the runs where no resolver attempt sees `2^32` endpoint
    mutations. -/
def ResolverSys.step (DeviceLuid : BitVec 64) (s : ResolverSys) (a : ResolverAction) : Option ResolverSys :=
  (rawStep DeviceLuid s a).filter ResolverSys.bounded

inductive ResolverSys.Reachable (DeviceLuid : BitVec 64) : ResolverSys → Prop
  | init (Endpoint : ENDPOINT) (n : Nat) : Reachable DeviceLuid (ResolverSys.init Endpoint n)
  | step {s s' : ResolverSys} (a : ResolverAction) :
      Reachable DeviceLuid s → s.step DeviceLuid a = some s' → Reachable DeviceLuid s'

variable {DeviceLuid : BitVec 64} {s s' : ResolverSys} {t : Nat}

theorem rawStep_start {o : ResolveOracle} (h : rawStep DeviceLuid s (.start t o) = some s') :
    ∃ r, s.threads[t]? = some r ∧ r.pc.active = false ∧ r.pc.holding = false ∧
      s' = s.setThread t (s.begin DeviceLuid o) := by
  simp only [rawStep] at h
  split at h
  next reads m heq => exact ⟨⟨.idle, reads, m⟩, heq, rfl, rfl, (Option.some.inj h).symm⟩
  next reads m heq => exact ⟨⟨.retry, reads, m⟩, heq, rfl, rfl, (Option.some.inj h).symm⟩
  next => cases h

theorem rawStep_read (h : rawStep DeviceLuid s (.read t) = some s') :
    ∃ Snapshot k reads m, s.threads[t]? = some ⟨.unlocked Snapshot (.read k), reads, m⟩ ∧
      s' = s.setThread t ⟨.unlocked Snapshot (k s.Endpoint.Addr), s.Endpoint.Addr :: reads, m⟩ := by
  simp only [rawStep] at h
  split at h
  · exact ⟨_, _, _, _, by assumption, (Option.some.inj h).symm⟩
  · cases h

theorem rawStep_leave (h : rawStep DeviceLuid s (.leave t) = some s') :
    ∃ r, s.threads[t]? = some r ∧ r.pc.holding = false ∧ s' = s.setThread t Resolver.idle := by
  simp only [rawStep] at h
  split at h
  next Snapshot Status events reads m heq =>
    exact ⟨_, heq, rfl, (Option.some.inj h).symm⟩
  next => cases h

/-- The exclusive section of a commit: taken only when no thread holds the
    lock shared; it goes back to `retry` on a moved generation, and otherwise
    writes `CommitSrc`. -/
theorem rawStep_commit (h : rawStep DeviceLuid s (.commit t) = some s') :
    ∃ Snapshot BestIndex SrcAddr events reads m,
      s.threads[t]? = some ⟨.unlocked Snapshot (.pure ⟨.commit BestIndex SrcAddr, events⟩), reads, m⟩ ∧
      s.exclusiveFree = true ∧
      ((s.Endpoint.UpdateGeneration ≠ Snapshot ∧ s' = s.setThread t ⟨.retry, [], 0⟩) ∨
       (s.Endpoint.UpdateGeneration = Snapshot ∧
        let c := CommitSrc s.Endpoint s.RoutingGenerationV4 s.RoutingGenerationV6 SrcAddr BestIndex
        s' = (s.write c.1).setThread t
          (if c.2 == 0 then Resolver.idle else ⟨.verify (Snapshot + 1) c.1, [], 0⟩))) := by
  simp only [rawStep] at h
  split at h
  next Snapshot BestIndex SrcAddr events reads m heq =>
    refine ⟨Snapshot, BestIndex, SrcAddr, events, reads, m, heq, ?_⟩
    by_cases hx : s.exclusiveFree = true
    · simp only [hx, Bool.not_true, Bool.false_eq_true, if_false] at h
      refine ⟨hx, ?_⟩
      by_cases hg : s.Endpoint.UpdateGeneration = Snapshot
      · simp only [hg, bne_self_eq_false, Bool.false_eq_true, if_false] at h
        exact .inr ⟨hg, (Option.some.inj h).symm⟩
      · simp only [bne_iff_ne, ne_eq, hg, not_false_eq_true, if_true] at h
        exact .inl ⟨hg, (Option.some.inj h).symm⟩
    · simp [hx] at h
  next => cases h

theorem rawStep_verify (h : rawStep DeviceLuid s (.verify t) = some s') :
    ∃ g c reads m, s.threads[t]? = some ⟨.verify g c, reads, m⟩ ∧
      ((s.Endpoint.UpdateGeneration ≠ g ∧ s' = s.setThread t ⟨.retry, [], 0⟩) ∨
       (s.Endpoint.UpdateGeneration = g ∧ s' = s.setThread t ⟨.holdingSlow c, [], 0⟩)) := by
  simp only [rawStep] at h
  split at h
  next g c reads m heq =>
    refine ⟨g, c, reads, m, heq, ?_⟩
    by_cases hg : s.Endpoint.UpdateGeneration = g
    · simp only [hg, bne_self_eq_false, Bool.false_eq_true, if_false] at h
      exact .inr ⟨hg, (Option.some.inj h).symm⟩
    · simp only [bne_iff_ne, ne_eq, hg, not_false_eq_true, if_true] at h
      exact .inl ⟨hg, (Option.some.inj h).symm⟩
  next => cases h

theorem rawStep_release (h : rawStep DeviceLuid s (.release t) = some s') :
    ∃ r, s.threads[t]? = some r ∧ s' = s.setThread t Resolver.idle := by
  simp only [rawStep] at h
  split at h
  next reads m heq => exact ⟨_, heq, (Option.some.inj h).symm⟩
  next c reads m heq => exact ⟨_, heq, (Option.some.inj h).symm⟩
  next => cases h

theorem rawStep_setPeerEndpoint {E : ENDPOINT} (h : rawStep DeviceLuid s (.setPeerEndpoint E) = some s') :
    s.exclusiveFree = true ∧ s' = s.write (SetPeerEndpointLocked s.Endpoint E) := by
  simp only [rawStep] at h
  split at h
  next hfree => exact ⟨hfree, (Option.some.inj h).symm⟩
  next => cases h

theorem rawStep_clearPeerEndpointSrc (h : rawStep DeviceLuid s .clearPeerEndpointSrc = some s') :
    s.exclusiveFree = true ∧ s' = s.write (SocketClearPeerEndpointSrc s.Endpoint) := by
  simp only [rawStep] at h
  split at h
  next hfree => exact ⟨hfree, (Option.some.inj h).symm⟩
  next => cases h

/-- A route notification moves a routing generation and nothing a thread reads. -/
theorem rawStep_routeNotification {Family : ADDRESS_FAMILY}
    (h : rawStep DeviceLuid s (.routeNotification Family) = some s') :
    s'.threads = s.threads ∧ s'.Endpoint = s.Endpoint := by
  simp only [rawStep] at h
  split at h
  · cases h; exact ⟨rfl, rfl⟩
  · split at h
    · cases h; exact ⟨rfl, rfl⟩
    · cases h

/-- The endpoint carries a source of its own family with a non-zero
    interface index. -/
def Resolved (e : ENDPOINT) : Prop :=
  (e.Addr.si_family = AF_INET ∧ e.Src4.ipi_ifindex ≠ 0) ∨
    (e.Addr.si_family = AF_INET6 ∧ e.Src6.ipi6_ifindex ≠ 0)

/-- What a thread's progress tells about the shared endpoint. -/
def ThreadInv (e : ENDPOINT) (r : Resolver) : Prop :=
  match r.pc with
  | .idle | .retry => True
  | .unlocked Snapshot _ => e.UpdateGeneration = Snapshot + BitVec.ofNat 32 r.mutations ∧
      (r.mutations = 0 → ∀ a ∈ r.reads, a = e.Addr)
  | .verify g c => e.UpdateGeneration = g + BitVec.ofNat 32 r.mutations ∧ (r.mutations = 0 → e = c) ∧ Resolved c
  | .holdingFast => Resolved e
  | .holdingSlow c => e = c ∧ Resolved c

structure ResolverInv (s : ResolverSys) : Prop where
  bounded : s.bounded = true
  threads : ∀ r ∈ s.threads, ThreadInv s.Endpoint r

theorem fastPath_resolved {e : ENDPOINT} {g4 g6 : BitVec 32} (h : FastPath e g4 g6 = true) : Resolved e := by
  simp only [FastPath, Bool.or_eq_true, Bool.and_eq_true, beq_iff_eq, bne_iff_ne, ne_eq] at h
  rcases h with ⟨⟨hf, -⟩, hi⟩ | ⟨⟨hf, -⟩, hi⟩
  · exact .inl ⟨hf, hi⟩
  · exact .inr ⟨hf, hi⟩

theorem commitSrc_generation (e : ENDPOINT) (g4 g6 : BitVec 32) (SrcAddr : SOCKADDR_INET) (BestIndex : BitVec 32) :
    (CommitSrc e g4 g6 SrcAddr BestIndex).1.UpdateGeneration = e.UpdateGeneration + 1 := by
  unfold CommitSrc
  split
  · rfl
  · split <;> rfl

theorem commitSrc_resolved {e : ENDPOINT} {g4 g6 : BitVec 32} {SrcAddr : SOCKADDR_INET} {BestIndex : BitVec 32}
    (h : (CommitSrc e g4 g6 SrcAddr BestIndex).2 ≠ 0) : Resolved (CommitSrc e g4 g6 SrcAddr BestIndex).1 := by
  unfold CommitSrc at h ⊢
  split
  next h4 => exact .inl ⟨by simpa using h4, by simpa [h4] using h⟩
  next h4 =>
    split
    next h6 =>
      simp only [h4, h6, Bool.false_eq_true, if_false, if_true] at h
      exact .inr ⟨by simpa using h6, h⟩
    next h6 => simp [h4, h6] at h

theorem setPeerEndpointLocked_eq_or_bump (e E : ENDPOINT) :
    SetPeerEndpointLocked e E = e ∨
      (SetPeerEndpointLocked e E).UpdateGeneration = e.UpdateGeneration + 1 := by
  unfold SetPeerEndpointLocked
  split
  · exact .inr rfl
  · split
    · exact .inr rfl
    · exact .inl rfl

theorem ResolverSys.bounded_iff : s.bounded = true ↔ ∀ r ∈ s.threads, r.mutations < 2 ^ 32 := by
  simp [ResolverSys.bounded]

theorem ResolverSys.exclusiveFree_iff : s.exclusiveFree = true ↔ ∀ r ∈ s.threads, r.pc.holding = false := by
  simp [ResolverSys.exclusiveFree]

theorem ResolverSys.forall_setThread {P : Resolver → Prop} {r' : Resolver} (h : ∀ r ∈ s.threads, P r)
    (h' : P r') : ∀ r ∈ (s.setThread t r').threads, P r := by
  intro r hr
  rcases List.mem_or_eq_of_mem_set hr with hr | rfl
  · exact h r hr
  · exact h'

theorem threadInv_bump {e e' : ENDPOINT} (he : e'.UpdateGeneration = e.UpdateGeneration + 1) {r : Resolver}
    (hr : r.pc.holding = false) (h : ThreadInv e r) :
    ThreadInv e' (if r.pc.active then { r with mutations := r.mutations + 1 } else r) := by
  obtain ⟨pc, reads, m⟩ := r
  cases pc with
  | idle | retry => trivial
  | unlocked Snapshot p =>
    show ThreadInv e' ⟨.unlocked Snapshot p, reads, m + 1⟩
    refine ⟨?_, fun h0 => absurd h0 (Nat.succ_ne_zero m)⟩
    simp only [he, h.1, BitVec.ofNat_add, BitVec.add_assoc]
    rfl
  | verify g c =>
    show ThreadInv e' ⟨.verify g c, reads, m + 1⟩
    refine ⟨?_, fun h0 => absurd h0 (Nat.succ_ne_zero m), h.2.2⟩
    simp only [he, h.1, BitVec.ofNat_add, BitVec.add_assoc]
    rfl
  | holdingFast | holdingSlow c => cases hr

theorem ResolverSys.threads_write {e' : ENDPOINT} (h : ∀ r ∈ s.threads, ThreadInv s.Endpoint r)
    (hfree : s.exclusiveFree = true)
    (he : e' = s.Endpoint ∨ e'.UpdateGeneration = s.Endpoint.UpdateGeneration + 1) :
    ∀ r ∈ (s.write e').threads, ThreadInv (s.write e').Endpoint r := by
  unfold ResolverSys.write
  split
  · exact h
  · next hne =>
    have hgen := he.resolve_left hne
    simp only [List.mem_map]
    rintro _ ⟨r, hr, rfl⟩
    exact threadInv_bump hgen ((exclusiveFree_iff.mp hfree) r hr) (h r hr)

/-- A generation that came back to its snapshot after fewer than `2^32`
    mutations saw none. -/
theorem mutations_eq_zero {g : BitVec 32} {m : Nat} (hm : m < 2 ^ 32) (h : g = g + BitVec.ofNat 32 m) :
    m = 0 := by
  have := congrArg BitVec.toNat h
  simp only [BitVec.toNat_add, BitVec.toNat_ofNat] at this
  have hg := g.isLt
  omega

theorem ResolverInv.rawStep {a : ResolverAction} (hinv : ResolverInv s)
    (h : rawStep DeviceLuid s a = some s') (hb : s'.bounded = true) : ResolverInv s' := by
  refine ⟨hb, ?_⟩
  have hT := hinv.threads
  cases a with
  | start t o =>
    obtain ⟨r, -, -, -, rfl⟩ := rawStep_start h
    apply ResolverSys.forall_setThread hT
    unfold ResolverSys.begin
    split
    · exact fastPath_resolved ‹_›
    · exact ⟨by simp, fun _ a ha => by cases ha⟩
  | read t =>
    obtain ⟨Snapshot, k, reads, m, hr, rfl⟩ := rawStep_read h
    have hold : ThreadInv s.Endpoint ⟨_, _, _⟩ := hT _ (List.getElem?_mem hr)
    apply ResolverSys.forall_setThread hT
    refine ⟨hold.1, fun h0 a ha => ?_⟩
    rcases List.mem_cons.mp ha with rfl | ha
    · rfl
    · exact hold.2 h0 a ha
  | leave t =>
    obtain ⟨r, -, -, rfl⟩ := rawStep_leave h
    exact ResolverSys.forall_setThread hT trivial
  | commit t =>
    obtain ⟨Snapshot, BestIndex, SrcAddr, events, reads, m, hr, hfree, ⟨-, rfl⟩ | ⟨hg, rfl⟩⟩ := rawStep_commit h
    · exact ResolverSys.forall_setThread hT trivial
    · have hgen := commitSrc_generation s.Endpoint s.RoutingGenerationV4 s.RoutingGenerationV6 SrcAddr BestIndex
      have hw := ResolverSys.threads_write hT hfree (.inr hgen)
      apply ResolverSys.forall_setThread hw
      split
      · trivial
      · next hbi =>
        rw [ResolverSys.endpoint_write]
        exact ⟨by rw [hgen, hg, BitVec.add_zero], fun _ => rfl, commitSrc_resolved fun h0 => hbi (beq_iff_eq.mpr h0)⟩
  | verify t =>
    obtain ⟨g, c, reads, m, hr, ⟨-, rfl⟩ | ⟨hg, rfl⟩⟩ := rawStep_verify h
    · exact ResolverSys.forall_setThread hT trivial
    · have hold : ThreadInv s.Endpoint ⟨_, _, _⟩ := hT _ (List.getElem?_mem hr)
      have hm := ResolverSys.bounded_iff.mp hinv.bounded _ (List.getElem?_mem hr)
      have h0 : m = 0 := mutations_eq_zero hm (hg.symm.trans hold.1)
      exact ResolverSys.forall_setThread hT ⟨hold.2.1 h0, hold.2.2⟩
  | release t =>
    obtain ⟨r, -, rfl⟩ := rawStep_release h
    exact ResolverSys.forall_setThread hT trivial
  | setPeerEndpoint E =>
    obtain ⟨hfree, rfl⟩ := rawStep_setPeerEndpoint h
    exact ResolverSys.threads_write hT hfree (setPeerEndpointLocked_eq_or_bump _ _)
  | clearPeerEndpointSrc =>
    obtain ⟨hfree, rfl⟩ := rawStep_clearPeerEndpointSrc h
    exact ResolverSys.threads_write hT hfree (.inr rfl)
  | routeNotification Family =>
    obtain ⟨hthreads, hendpoint⟩ := rawStep_routeNotification h
    rw [hthreads, hendpoint]
    exact hT

theorem ResolverSys.Reachable.inv (h : ResolverSys.Reachable DeviceLuid s) : ResolverInv s := by
  induction h with
  | init Endpoint n =>
    refine ⟨by simp [ResolverSys.bounded, ResolverSys.init, Resolver.idle], fun r hr => ?_⟩
    rw [ResolverSys.init, List.mem_replicate] at hr
    rw [hr.2]
    trivial
  | step a _ hstep ih =>
    obtain ⟨hraw, hb⟩ := Option.filter_eq_some.mp hstep
    exact ih.rawStep hraw hb

def ResolverSys.run (DeviceLuid : BitVec 64) : ResolverSys → List ResolverAction → Option ResolverSys
  | s, [] => some s
  | s, a :: as => (s.step DeviceLuid a).bind (ResolverSys.run DeviceLuid · as)

theorem ResolverSys.Reachable.run {as : List ResolverAction} (h : s.Reachable DeviceLuid)
    (hrun : s.run DeviceLuid as = some s') : s'.Reachable DeviceLuid := by
  induction as generalizing s with
  | nil => cases hrun; exact h
  | cons a as ih =>
    simp only [ResolverSys.run] at hrun
    cases hs : s.step DeviceLuid a with
    | none => simp [hs] at hrun
    | some s₁ =>
      rw [hs] at hrun
      exact ih (.step a h hs) hrun

def ResolverAction.exclusive : ResolverAction → Bool
  | .commit _ | .setPeerEndpoint _ | .clearPeerEndpointSrc => true
  | _ => false

/-- While some thread holds `EndpointLock` shared, no exclusive section runs. -/
theorem step_exclusive_blocked {a : ResolverAction} (hx : a.exclusive = true) (hfree : s.exclusiveFree = false) :
    s.step DeviceLuid a = none := by
  cases a <;> simp only [ResolverAction.exclusive, Bool.false_eq_true] at hx <;>
    simp only [ResolverSys.step, wireguard.rawStep, hfree, Bool.not_false, if_true, Bool.false_eq_true,
      if_false, Option.filter_none]
  split <;> rfl

/-- What the resolver guarantees in a state: a thread about to commit whose
    generation check passes has seen no mutation since its snapshot and read
    only the address it commits under; a thread that returned `STATUS_SUCCESS`
    holds the lock shared, so that no exclusive section can run, on an endpoint
    with a source of its own family and a non-zero interface index, exactly
    the one it wrote if it returned from the slow path. -/
def ResolverSafe (DeviceLuid : BitVec 64) (s : ResolverSys) : Prop :=
  ∀ r ∈ s.threads,
    (∀ Snapshot BestIndex SrcAddr events,
      r.pc = .unlocked Snapshot (.pure ⟨.commit BestIndex SrcAddr, events⟩) →
      s.Endpoint.UpdateGeneration = Snapshot → r.mutations = 0 ∧ ∀ a ∈ r.reads, a = s.Endpoint.Addr) ∧
    (r.pc.holding = true → Resolved s.Endpoint ∧
      ∀ a : ResolverAction, a.exclusive = true → s.step DeviceLuid a = none) ∧
    (∀ c, r.pc = .holdingSlow c → s.Endpoint = c)

theorem resolverSafe_of_reachable (h : s.Reachable DeviceLuid) : ResolverSafe DeviceLuid s := by
  have hinv := h.inv
  intro r hr
  have hT : ThreadInv s.Endpoint r := hinv.threads r hr
  have hm := ResolverSys.bounded_iff.mp hinv.bounded r hr
  have hblocked (hh : r.pc.holding = true) (a : ResolverAction) (hx : a.exclusive = true) :
      s.step DeviceLuid a = none := by
    refine step_exclusive_blocked hx (Bool.eq_false_iff.mpr fun hfree => ?_)
    simpa [hh] using ResolverSys.exclusiveFree_iff.mp hfree r hr
  obtain ⟨pc, reads, m⟩ := r
  refine ⟨?_, fun hh => ⟨?_, hblocked hh⟩, ?_⟩
  · rintro Snapshot BestIndex SrcAddr events rfl hg
    have h0 := mutations_eq_zero hm (hg.symm.trans hT.1)
    exact ⟨h0, hT.2 h0⟩
  · cases pc with
    | holdingFast => exact hT
    | holdingSlow c => exact hT.1 ▸ hT.2
    | _ => cases hh
  · rintro c rfl
    exact hT.1

/-- Two threads on a peer at `192.0.2.10`: the first resolves by the slow
    path and returns holding the lock on the endpoint it wrote, then the
    second finds that endpoint current and takes the fast path. -/
theorem resolverSafe_after_slow_then_fast_path :
    let Endpoint : ENDPOINT := ⟨⟨AF_INET, 0x6CCA#16, 0x0A0200C0#32, 0, 0⟩, PKTINFO.zero, cmsghdrV4, 0, 0⟩
    let Default : IP_ADDRESS_PREFIX := ⟨⟨AF_INET, 0, 0, 0, 0⟩, 0#8⟩
    let o : ResolveOracle :=
      ⟨fun _ => (STATUS_SUCCESS, [(⟨1#64, 7#32, Default, 1#32⟩, ⟨some IfOperStatusUp, fun _ => some 1#32⟩)]),
        true, fun _ _ => (STATUS_SUCCESS, ⟨AF_INET, 0, 0x0200000A#32, 0, 0⟩)⟩
    ∃ s, (ResolverSys.init Endpoint 2).run 99#64
        [.start 0 o, .read 0, .read 0, .read 0, .read 0, .read 0, .read 0, .commit 0, .verify 0, .start 1 o] =
          some s ∧
      s.threads.map (fun r => match r.pc with | .holdingSlow _ => 2 | .holdingFast => 1 | _ => 0) = [2, 1] ∧
      ResolverSafe 99#64 s := by
  intro Endpoint Default o
  have hv : ((ResolverSys.init Endpoint 2).run 99#64
      [.start 0 o, .read 0, .read 0, .read 0, .read 0, .read 0, .read 0, .commit 0, .verify 0, .start 1 o]).map
        (fun s => s.threads.map fun r => match r.pc with | .holdingSlow _ => 2 | .holdingFast => 1 | _ => 0) =
      some [2, 1] := by
    decide
  obtain ⟨s, hrun, hpc⟩ := Option.map_eq_some'.mp hv
  exact ⟨s, hrun, hpc, resolverSafe_of_reachable ((ResolverSys.Reachable.init _ _).run hrun)⟩

/-- A slow-path resolve of `192.0.2.10` whose forwarding-table query (the first
    unlocked read) is followed by an IPv4 route change: the commit stamps the
    generation the change produced, so the endpoint passes the fast-path test
    with a source computed from the table read before the change. -/
theorem resolve_stamps_generation_of_later_route_change :
    let Endpoint : ENDPOINT := ⟨⟨AF_INET, 0x6CCA#16, 0x0A0200C0#32, 0, 0⟩, PKTINFO.zero, cmsghdrV4, 0, 0⟩
    let Default : IP_ADDRESS_PREFIX := ⟨⟨AF_INET, 0, 0, 0, 0⟩, 0#8⟩
    let o : ResolveOracle :=
      ⟨fun _ => (STATUS_SUCCESS, [(⟨1#64, 7#32, Default, 1#32⟩, ⟨some IfOperStatusUp, fun _ => some 1#32⟩)]),
        true, fun _ _ => (STATUS_SUCCESS, ⟨AF_INET, 0, 0x0200000A#32, 0, 0⟩)⟩
    ((ResolverSys.init Endpoint 1).run 99#64
      [.start 0 o, .read 0, .routeNotification AF_INET, .read 0, .read 0, .read 0, .read 0, .read 0,
        .commit 0, .verify 0]).map
      (fun s => (s.RoutingGenerationV4, s.Endpoint.RoutingGeneration,
        FastPath s.Endpoint s.RoutingGenerationV4 s.RoutingGenerationV6)) =
    some (3#32, 3#32, true) := by
  decide

end wireguard
