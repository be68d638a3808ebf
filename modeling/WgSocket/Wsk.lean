import Mathlib.Data.List.Basic
import WgSocket.Basic

namespace wireguard

/-- The fields of a `WSK_TRANSPORT` the transport scan reads. -/
structure WSK_TRANSPORT where
  SocketType : BitVec 16
  Protocol : BitVec 32
  AddressFamily : ADDRESS_FAMILY
deriving DecidableEq, Repr

def SOCK_DGRAM : BitVec 16 := 2#16

/-- What the kernel calls of `WskInit`'s body answer: the status of each,
    and for each round of the transport-list loop either a failed
    `MemAllocate` (`none`) or the status of `WSK_TRANSPORT_LIST_QUERY` with
    the transports it wrote. -/
structure WskInitOracle where
  ExInitializeLookasideListEx : NTSTATUS
  WskRegister : NTSTATUS
  WskCaptureProviderNPI : NTSTATUS
  TransportListQuery : List (Option (NTSTATUS × List WSK_TRANSPORT))
  SetStaticEventCallbacks : NTSTATUS
  NotifyRouteChange2V4 : NTSTATUS
  NotifyRouteChange2V6 : NTSTATUS

/-- What `WskInit` obtains and gives back. -/
inductive WskResource
  | LookasideList
  | Registration
  | ProviderNpi
  | TransportList
  | RouteNotifierV4
  | RouteNotifierV6
deriving DecidableEq, Repr

inductive WskEvent
  | acquire (r : WskResource)
  | release (r : WskResource)
deriving DecidableEq, Repr

/-- How the transport-list loop ends: with the transports of a successful
    query, or with a failure status. -/
inductive TransportListEnd
  | ok (Transports : List WSK_TRANSPORT)
  | fail (Status : NTSTATUS)

/-- The loop of lines 895-936, one element of the oracle list per round;
    `none` if the list runs out while the query still overflows. -/
def transportListLoop : List (Option (NTSTATUS × List WSK_TRANSPORT)) → Option (TransportListEnd × List WskEvent)
  | [] => none
  | none :: _ => some (.fail STATUS_INSUFFICIENT_RESOURCES, [])
  | some (Status, Transports) :: rest =>
    let round : List WskEvent := [.acquire .TransportList, .release .TransportList]
    if NT_SUCCESS Status then some (.ok Transports, round)
    else if Status != STATUS_BUFFER_OVERFLOW then some (.fail Status, round)
    else (transportListLoop rest).map fun (e, events) => (e, round ++ events)

/-- Lines 914-928: the UDP datagram transports, of an unspecified family or of
    IPv4 or IPv6, set `WskHasIpv4Transport` and `WskHasIpv6Transport`. -/
def scanTransports (Transports : List WSK_TRANSPORT) (HasIpv4 HasIpv6 : Bool) : Bool × Bool :=
  Transports.foldl (fun (v4, v6) T =>
    if T.SocketType == SOCK_DGRAM && T.Protocol == IPPROTO_UDP then
      if T.AddressFamily == AF_UNSPEC then (true, true)
      else if T.AddressFamily == AF_INET then (true, v6)
      else if T.AddressFamily == AF_INET6 then (v4, true)
      else (v4, v6)
    else (v4, v6)) (HasIpv4, HasIpv6)

/-- A UDP datagram transport usable for `Family`: of that family, or of an
    unspecified one. -/
def udpFor (Family : ADDRESS_FAMILY) (T : WSK_TRANSPORT) : Bool :=
  T.SocketType == SOCK_DGRAM && T.Protocol == IPPROTO_UDP && (T.AddressFamily == AF_UNSPEC || T.AddressFamily == Family)

theorem scanTransports_cons (T : WSK_TRANSPORT) (Transports : List WSK_TRANSPORT) (HasIpv4 HasIpv6 : Bool) :
    scanTransports (T :: Transports) HasIpv4 HasIpv6 =
      scanTransports Transports (HasIpv4 || udpFor AF_INET T) (HasIpv6 || udpFor AF_INET6 T) := by
  have h46 : AF_INET ≠ AF_INET6 := by decide
  have hu4 : AF_UNSPEC ≠ AF_INET := by decide
  have hu6 : AF_UNSPEC ≠ AF_INET6 := by decide
  simp only [scanTransports, List.foldl_cons, udpFor]
  congr 1
  by_cases hd : (T.SocketType == SOCK_DGRAM && T.Protocol == IPPROTO_UDP) = true
  · simp only [hd, if_true, Bool.true_and]
    by_cases hf : T.AddressFamily = AF_UNSPEC
    · simp [hf, hu4, hu6]
    by_cases hf4 : T.AddressFamily = AF_INET
    · simp [hf4, hu4.symm, h46]
    by_cases hf6 : T.AddressFamily = AF_INET6
    · simp [hf6, hu6.symm, h46.symm]
    · simp [hf, hf4, hf6]
  · simp only [Bool.not_eq_true] at hd
    simp [hd]

/-- The transport scan of `WskInit` sets `WskHasIpv4Transport` exactly when
    the list has a UDP datagram transport of IPv4 or of an unspecified
    family, and `WskHasIpv6Transport` likewise for IPv6; a flag already set
    stays set. -/
theorem scanTransports_eq_any (Transports : List WSK_TRANSPORT) (HasIpv4 HasIpv6 : Bool) :
    scanTransports Transports HasIpv4 HasIpv6 =
      (HasIpv4 || Transports.any (udpFor AF_INET), HasIpv6 || Transports.any (udpFor AF_INET6)) := by
  induction Transports generalizing HasIpv4 HasIpv6 with
  | nil => simp [scanTransports]
  | cons T Transports ih =>
    rw [scanTransports_cons, ih]
    simp only [List.any_cons, Bool.or_assoc]

/-- How the body ends: the status it caches, the resources it obtained and
    gave back in order, and the two transport flags. -/
structure InitBody where
  Status : NTSTATUS
  Events : List WskEvent
  HasIpv4 : Bool
  HasIpv6 : Bool

/-- The cleanup from `cleanupWskProviderNPI` down (lines 963-968). -/
def cleanupWskProviderNPI : List WskEvent :=
  [.release .ProviderNpi, .release .Registration, .release .LookasideList]

/-- Lines 883-959 and their cleanup ladder (lines 961-968), run with `WskIsIniting` held and
    `WskInitStatus` still `STATUS_RETRY`; `none` if the transport-list loop has
    not ended within the oracle's rounds. -/
def WskInitBody (o : WskInitOracle) (HasIpv4 HasIpv6 : Bool) : Option InitBody :=
  if !NT_SUCCESS o.ExInitializeLookasideListEx then
    some ⟨o.ExInitializeLookasideListEx, [], HasIpv4, HasIpv6⟩
  else if !NT_SUCCESS o.WskRegister then
    some ⟨o.WskRegister, [.acquire .LookasideList, .release .LookasideList], HasIpv4, HasIpv6⟩
  else if !NT_SUCCESS o.WskCaptureProviderNPI then
    some ⟨o.WskCaptureProviderNPI, [.acquire .LookasideList, .acquire .Registration, .release .Registration,
      .release .LookasideList], HasIpv4, HasIpv6⟩
  else (transportListLoop o.TransportListQuery).map fun (e, events) =>
    let held : List WskEvent := [.acquire .LookasideList, .acquire .Registration, .acquire .ProviderNpi] ++ events
    match e with
    | .fail Status => ⟨Status, held ++ cleanupWskProviderNPI, HasIpv4, HasIpv6⟩
    | .ok Transports =>
      let (v4, v6) := scanTransports Transports HasIpv4 HasIpv6
      if !NT_SUCCESS o.SetStaticEventCallbacks then
        ⟨o.SetStaticEventCallbacks, held ++ cleanupWskProviderNPI, v4, v6⟩
      else if !NT_SUCCESS o.NotifyRouteChange2V4 then
        ⟨o.NotifyRouteChange2V4, held ++ cleanupWskProviderNPI, v4, v6⟩
      else if !NT_SUCCESS o.NotifyRouteChange2V6 then
        ⟨o.NotifyRouteChange2V6, held ++ [.acquire .RouteNotifierV4, .release .RouteNotifierV4] ++
          cleanupWskProviderNPI, v4, v6⟩
      else ⟨STATUS_SUCCESS, held ++ [.acquire .RouteNotifierV4, .acquire .RouteNotifierV6], v4, v6⟩

/-- The releases of `WskUnload` once `WskInitStatus` is `STATUS_SUCCESS`
    (lines 981-985). -/
def WskUnloadEvents : List WskEvent :=
  [.release .RouteNotifierV6, .release .RouteNotifierV4, .release .ProviderNpi, .release .Registration,
    .release .LookasideList]

/-! ## Stack discipline -/

/-- The resources still held after `events`, most recent first, starting from
    `held`; `none` if some release is not of the most recent resource still
    held. -/
def heldAfter : List WskEvent → List WskResource → Option (List WskResource)
  | [], held => some held
  | .acquire r :: events, held => heldAfter events (r :: held)
  | .release r :: events, r' :: held => if r = r' then heldAfter events held else none
  | .release _ :: _, [] => none

theorem heldAfter_append (e e' : List WskEvent) (held : List WskResource) :
    heldAfter (e ++ e') held = (heldAfter e held).bind (heldAfter e') := by
  induction e generalizing held with
  | nil => rfl
  | cons ev e ih =>
    cases ev with
    | acquire r => exact ih _
    | release r =>
      cases held with
      | nil => rfl
      | cons r' held =>
        simp only [List.cons_append, heldAfter]
        split
        · exact ih _
        · rfl

/-- Every round of the transport-list loop frees the buffer it allocated. -/
theorem transportListLoop_neutral {Q : List (Option (NTSTATUS × List WSK_TRANSPORT))}
    {e : TransportListEnd} {events : List WskEvent} (h : transportListLoop Q = some (e, events))
    (held : List WskResource) : heldAfter events held = some held := by
  induction Q generalizing e events with
  | nil => cases h
  | cons q Q ih =>
    rcases q with _ | ⟨Status, Transports⟩
    · cases h; rfl
    · simp only [transportListLoop] at h
      split at h
      · cases h; simp [heldAfter]
      split at h
      · cases h; simp [heldAfter]
      obtain ⟨⟨e', events'⟩, h', he⟩ := Option.map_eq_some'.mp h
      cases he
      simp [heldAfter_append, heldAfter, ih h']

/-- The statuses the calls of the body return: the oracle's answers, those of
    the transport-list queries included. -/
def WskInitOracle.Statuses (o : WskInitOracle) : List NTSTATUS :=
  [o.ExInitializeLookasideListEx, o.WskRegister, o.WskCaptureProviderNPI] ++
    o.TransportListQuery.filterMap (·.map Prod.fst) ++
    [o.SetStaticEventCallbacks, o.NotifyRouteChange2V4, o.NotifyRouteChange2V6]

/-- The statuses of the body's own calls are among the oracle's answers. -/
theorem WskInitOracle.fixed_mem_statuses (o : WskInitOracle) :
    ∀ St ∈ [o.ExInitializeLookasideListEx, o.WskRegister, o.WskCaptureProviderNPI, o.SetStaticEventCallbacks,
      o.NotifyRouteChange2V4, o.NotifyRouteChange2V6], St ∈ o.Statuses := by
  simp only [List.forall_mem_cons, List.not_mem_nil, false_implies, implies_true, and_true]
  simp only [WskInitOracle.Statuses, List.mem_append, List.mem_cons, true_or, or_true, and_self]

theorem transportListLoop_fail {Q : List (Option (NTSTATUS × List WSK_TRANSPORT))} {Status : NTSTATUS}
    {events : List WskEvent} (h : transportListLoop Q = some (.fail Status, events)) :
    NT_SUCCESS Status = false ∧
      (Status = STATUS_INSUFFICIENT_RESOURCES ∨ Status ∈ Q.filterMap (·.map Prod.fst)) := by
  induction Q generalizing events with
  | nil => cases h
  | cons q Q ih =>
    rcases q with _ | ⟨St, Transports⟩
    · cases h; exact ⟨rfl, .inl rfl⟩
    · simp only [transportListLoop] at h
      split at h
      · cases h
      next hs =>
        split at h
        · cases h; exact ⟨by simpa using hs, .inr (List.mem_cons_self _ _)⟩
        obtain ⟨⟨e', events'⟩, h', he⟩ := Option.map_eq_some'.mp h
        cases he
        obtain ⟨hn, hm⟩ := ih h'
        exact ⟨hn, hm.imp_right (List.mem_cons_of_mem _)⟩

/-- How the body ends: `STATUS_SUCCESS` holding the lookaside list, the
    registration, the provider NPI and both route notifiers, most recent
    first; or a failure status returned by one of its calls, or
    `STATUS_INSUFFICIENT_RESOURCES`, with everything it obtained given back,
    each exactly once, in reverse order. -/
theorem wskInitBody_cases {o : WskInitOracle} {HasIpv4 HasIpv6 : Bool} {b : InitBody}
    (h : WskInitBody o HasIpv4 HasIpv6 = some b) :
    (b.Status = STATUS_SUCCESS ∧ heldAfter b.Events [] = some [.RouteNotifierV6, .RouteNotifierV4, .ProviderNpi,
      .Registration, .LookasideList]) ∨
    (NT_SUCCESS b.Status = false ∧ heldAfter b.Events [] = some [] ∧
      (b.Status = STATUS_INSUFFICIENT_RESOURCES ∨ b.Status ∈ o.Statuses)) := by
  have hfail {St : NTSTATUS} {events : List WskEvent} (hs : (!NT_SUCCESS St) = true)
      (hm : St ∈ [o.ExInitializeLookasideListEx, o.WskRegister, o.WskCaptureProviderNPI,
        o.SetStaticEventCallbacks, o.NotifyRouteChange2V4, o.NotifyRouteChange2V6])
      (he : heldAfter events [] = some []) :
      (St = STATUS_SUCCESS ∧ heldAfter events [] = some [.RouteNotifierV6, .RouteNotifierV4, .ProviderNpi,
        .Registration, .LookasideList]) ∨
      (NT_SUCCESS St = false ∧ heldAfter events [] = some [] ∧
        (St = STATUS_INSUFFICIENT_RESOURCES ∨ St ∈ o.Statuses)) :=
    .inr ⟨by simpa using hs, he, .inr (o.fixed_mem_statuses St hm)⟩
  unfold WskInitBody at h
  by_cases h1 : (!NT_SUCCESS o.ExInitializeLookasideListEx) = true
  · rw [if_pos h1] at h; cases h; exact hfail h1 (by simp) rfl
  rw [if_neg h1] at h
  by_cases h2 : (!NT_SUCCESS o.WskRegister) = true
  · rw [if_pos h2] at h; cases h; exact hfail h2 (by simp) rfl
  rw [if_neg h2] at h
  by_cases h3 : (!NT_SUCCESS o.WskCaptureProviderNPI) = true
  · rw [if_pos h3] at h; cases h; exact hfail h3 (by simp) rfl
  rw [if_neg h3] at h
  obtain ⟨⟨e, events⟩, hloop, hb⟩ := Option.map_eq_some'.mp h
  have hheld {e' : List WskEvent} {held : List WskResource}
      (he : heldAfter e' [.ProviderNpi, .Registration, .LookasideList] = some held) :
      heldAfter ([.acquire .LookasideList, .acquire .Registration, .acquire .ProviderNpi] ++ events ++ e') [] =
        some held := by
    rw [heldAfter_append, heldAfter_append]
    simp only [heldAfter, Option.some_bind, transportListLoop_neutral hloop, he]
  cases e with
  | fail Status =>
    cases hb
    obtain ⟨hs, hm⟩ := transportListLoop_fail hloop
    exact .inr ⟨hs, hheld rfl, hm.imp_right fun hm => List.mem_append_left _ (List.mem_append_right _ hm)⟩
  | ok Transports =>
    simp only at hb
    by_cases h4 : (!NT_SUCCESS o.SetStaticEventCallbacks) = true
    · rw [if_pos h4] at hb; cases hb; exact hfail h4 (by simp) (hheld rfl)
    rw [if_neg h4] at hb
    by_cases h5 : (!NT_SUCCESS o.NotifyRouteChange2V4) = true
    · rw [if_pos h5] at hb; cases hb; exact hfail h5 (by simp) (hheld rfl)
    rw [if_neg h5] at hb
    by_cases h6 : (!NT_SUCCESS o.NotifyRouteChange2V6) = true
    · rw [if_pos h6] at hb; cases hb
      exact hfail h6 (by simp) (by rw [List.append_assoc]; exact hheld rfl)
    rw [if_neg h6] at hb; cases hb
    exact .inl ⟨rfl, hheld rfl⟩

/-! ## Concurrent callers -/

/-- Where a thread stands in `WskInit`: outside it, having read
    `STATUS_RETRY` and waiting for `WskIsIniting`, or returned a status. -/
inductive InitPc
  | idle
  | waiting
  | returned (Status : NTSTATUS)
deriving DecidableEq, Repr

/-- The globals of `WskInit` and `WskUnload`, the threads that call
    `WskInit`, and two ghost fields: the log of what was obtained and given
    back, and the number of runs of the body. -/
structure WskSys where
  WskInitStatus : NTSTATUS
  WskHasIpv4Transport : Bool
  WskHasIpv6Transport : Bool
  callers : List InitPc
  log : List WskEvent
  bodyRuns : Nat

/-- `WskInitStatus` starts at `STATUS_RETRY`. -/
def WskSys.init (n : Nat) : WskSys := ⟨STATUS_RETRY, false, false, List.replicate n .idle, [], 0⟩

/-- The steps: the unlocked read at entry (lines 868-870), the section under
    `WskIsIniting` with the answers its calls give (lines 871-972), and
    `WskUnload` (lines 976-987). Each section under the lock is one step; the
    body writes `WskInitStatus` once, at its end, so an unlocked read sees it
    before or after the section. -/
inductive WskAction
  | call (t : Nat)
  | lock (t : Nat) (o : WskInitOracle)
  | unload

namespace WskSys

def setCaller (s : WskSys) (t : Nat) (pc : InitPc) : WskSys := { s with callers := s.callers.set t pc }

def step (s : WskSys) : WskAction → Option WskSys
  | .call t =>
    match s.callers[t]? with
    | some .idle | some (.returned _) =>
      some (s.setCaller t (if s.WskInitStatus != STATUS_RETRY then .returned s.WskInitStatus else .waiting))
    | _ => none
  | .lock t o =>
    match s.callers[t]? with
    | some .waiting =>
      if s.WskInitStatus != STATUS_RETRY then some (s.setCaller t (.returned s.WskInitStatus))
      else (WskInitBody o s.WskHasIpv4Transport s.WskHasIpv6Transport).map fun b =>
        { s with WskInitStatus := b.Status, WskHasIpv4Transport := b.HasIpv4, WskHasIpv6Transport := b.HasIpv6,
                 callers := s.callers.set t (.returned b.Status), log := s.log ++ b.Events,
                 bodyRuns := s.bodyRuns + 1 }
    | _ => none
  | .unload => some (if s.WskInitStatus != STATUS_SUCCESS then s else { s with log := s.log ++ WskUnloadEvents })

def run (s : WskSys) : List WskAction → Option WskSys
  | [] => some s
  | a :: as => (s.step a).bind (run · as)

end WskSys

/-- None of the calls of the body a `lock` step runs returns `STATUS_RETRY`. -/
def WskAction.NoRetry : WskAction → Prop
  | .lock _ o => STATUS_RETRY ∉ o.Statuses
  | _ => True

instance : DecidablePred WskAction.NoRetry
  | .call _ => isTrue trivial
  | .lock _ o => inferInstanceAs (Decidable (STATUS_RETRY ∉ o.Statuses))
  | .unload => isTrue trivial

/-- The resources held once the body succeeded, most recent first. -/
def initHeld : List WskResource :=
  [.RouteNotifierV6, .RouteNotifierV4, .ProviderNpi, .Registration, .LookasideList]

/-- What the state says: a caller that returned returned the cached status,
    which is not `STATUS_RETRY`; until the body ran the status is
    `STATUS_RETRY` and nothing was obtained; after a failed run everything
    obtained was given back, each once, in reverse order; after a successful
    one the log is the body's, holding `initHeld`, followed by the releases of
    the unloads since. -/
structure WskInv (s : WskSys) : Prop where
  callers : ∀ pc ∈ s.callers, ∀ St, pc = .returned St → St = s.WskInitStatus ∧ St ≠ STATUS_RETRY
  retry : s.WskInitStatus = STATUS_RETRY → s.bodyRuns = 0 ∧ s.log = []
  failed : s.WskInitStatus ≠ STATUS_RETRY → s.WskInitStatus ≠ STATUS_SUCCESS →
    s.bodyRuns = 1 ∧ heldAfter s.log [] = some []
  succeeded : s.WskInitStatus = STATUS_SUCCESS → s.bodyRuns = 1 ∧
    ∃ pre k, s.log = pre ++ (List.replicate k WskUnloadEvents).flatten ∧ heldAfter pre [] = some initHeld

theorem WskInv.setCaller {s : WskSys} {t : Nat} {pc : InitPc} (h : WskInv s)
    (hpc : ∀ St, pc = .returned St → St = s.WskInitStatus ∧ St ≠ STATUS_RETRY) : WskInv (s.setCaller t pc) := by
  refine ⟨fun pc' hpc' => ?_, h.retry, h.failed, h.succeeded⟩
  rcases List.mem_or_eq_of_mem_set hpc' with hpc' | rfl
  · exact h.callers pc' hpc'
  · exact hpc

theorem WskInv.call {s s' : WskSys} {t : Nat} (h : WskInv s) (hs : s.step (.call t) = some s') : WskInv s' := by
  simp only [WskSys.step] at hs
  split at hs <;> cases hs
  all_goals
    refine h.setCaller fun St hSt => ?_
    split at hSt
    next hr => cases hSt; exact ⟨rfl, by simpa using hr⟩
    next => cases hSt

/-- With no call of the body answering `STATUS_RETRY`, neither does the body. -/
theorem wskInitBody_status_ne_retry {o : WskInitOracle} {HasIpv4 HasIpv6 : Bool} {b : InitBody}
    (ha : STATUS_RETRY ∉ o.Statuses) (hb : WskInitBody o HasIpv4 HasIpv6 = some b) : b.Status ≠ STATUS_RETRY := by
  rcases wskInitBody_cases hb with ⟨hst, -⟩ | ⟨-, -, hst | hst⟩
  · rw [hst]; decide
  · rw [hst]; decide
  · exact fun he => ha (he ▸ hst)

/-- The run of the body, by the caller that finds `STATUS_RETRY` under
    `WskIsIniting`, caches its status and logs its events. -/
theorem WskInv.body {s : WskSys} {t : Nat} {o : WskInitOracle} {b : InitBody} (h : WskInv s)
    (hr : s.WskInitStatus = STATUS_RETRY) (ha : STATUS_RETRY ∉ o.Statuses)
    (hb : WskInitBody o s.WskHasIpv4Transport s.WskHasIpv6Transport = some b) :
    WskInv { s with
      WskInitStatus := b.Status, WskHasIpv4Transport := b.HasIpv4, WskHasIpv6Transport := b.HasIpv6,
      callers := s.callers.set t (.returned b.Status), log := s.log ++ b.Events, bodyRuns := s.bodyRuns + 1 } := by
  obtain ⟨hruns, hlog⟩ := h.retry hr
  have hbr := wskInitBody_status_ne_retry ha hb
  refine ⟨fun pc hpc St hSt => ?_, fun he => absurd he hbr, fun _ hne => ?_, fun hsucc => ?_⟩
  · rcases List.mem_or_eq_of_mem_set hpc with hpc | rfl
    · obtain ⟨hSt', hne⟩ := h.callers pc hpc St hSt
      exact absurd (hSt'.trans hr) hne
    · cases hSt
      exact ⟨rfl, hbr⟩
  · rcases wskInitBody_cases hb with ⟨hst, -⟩ | ⟨-, hheld, -⟩
    · exact absurd hst hne
    · simpa [hruns, hlog] using hheld
  · rcases wskInitBody_cases hb with ⟨-, hheld⟩ | ⟨hn, -, -⟩
    · exact ⟨by simp [hruns], b.Events, 0, by simp [hlog], hheld⟩
    · rw [show b.Status = STATUS_SUCCESS from hsucc] at hn
      cases hn

theorem WskInv.lock {s s' : WskSys} {t : Nat} {o : WskInitOracle} (h : WskInv s) (ha : STATUS_RETRY ∉ o.Statuses)
    (hs : s.step (.lock t o) = some s') : WskInv s' := by
  simp only [WskSys.step] at hs
  split at hs
  next =>
    split at hs
    next hr =>
      cases hs
      exact h.setCaller fun St hSt => by cases hSt; exact ⟨rfl, by simpa using hr⟩
    next hr =>
      obtain ⟨b, hb, rfl⟩ := Option.map_eq_some'.mp hs
      exact h.body (by simpa using hr) ha hb
  next => cases hs

/-- After a successful run `WskUnload` appends its releases; otherwise it
    changes nothing. -/
theorem WskInv.unload {s s' : WskSys} (h : WskInv s) (hs : s.step .unload = some s') : WskInv s' := by
  simp only [WskSys.step] at hs
  cases hs
  split
  · exact h
  next hsucc =>
    have hsucc : s.WskInitStatus = STATUS_SUCCESS := by simpa using hsucc
    obtain ⟨hruns, pre, k, hlog, hheld⟩ := h.succeeded hsucc
    refine ⟨h.callers, fun he => absurd (hsucc.symm.trans he) (by decide), fun _ hne => absurd hsucc hne,
      fun _ => ⟨hruns, pre, k + 1, ?_, hheld⟩⟩
    rw [hlog, List.replicate_succ', List.flatten_append, List.flatten_singleton, List.append_assoc]

theorem WskInv.step {s s' : WskSys} {a : WskAction} (h : WskInv s) (ha : a.NoRetry) (hs : s.step a = some s') :
    WskInv s' := by
  cases a with
  | call t => exact h.call hs
  | lock t o => exact h.lock ha hs
  | unload => exact h.unload hs

theorem WskInv.run {s s' : WskSys} {as : List WskAction} (h : WskInv s) (hno : ∀ a ∈ as, a.NoRetry)
    (hrun : s.run as = some s') : WskInv s' := by
  induction as generalizing s with
  | nil => cases hrun; exact h
  | cons a as ih =>
    obtain ⟨s₁, hs, hrun⟩ := Option.bind_eq_some.mp hrun
    exact ih (h.step (hno a (List.mem_cons_self _ _)) hs) (fun a' ha' => hno a' (List.mem_cons_of_mem _ ha')) hrun

end wireguard
