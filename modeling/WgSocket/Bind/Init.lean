import WgSocket.Bind.Create
import Mathlib.Data.List.Chain

namespace wireguard

/-- What one pass of `SocketInit`'s retry loop meets: the answers of the
    IPv4 and the IPv6 `CreateAndBindSocket`, and the IRP allocation of
    `CloseSocket(New4)` after an IPv6 failure. -/
structure AttemptOracle where
  V4 : CreateOracle
  V6 : CreateOracle
  Close4IrpAllocate : Bool

/-- One pass: the address each `CreateAndBindSocket` was asked to bind, with
    its result, and what `CloseSocket(New4)` did after an IPv6 failure. -/
structure Attempt where
  V4 : Option (SOCKADDR_INET × CreateResult)
  V6 : Option (SOCKADDR_INET × CreateResult)
  Close4 : List SocketEvent

/-- How `SocketInit` returns: its status, its passes in order, and the
    arguments of the `SocketReinit` it ends with on success. -/
structure InitResult where
  Status : NTSTATUS
  Attempts : List Attempt
  Reinit : Option (Option SOCKET × Option SOCKET × BitVec 16)

/-- Lines 804-835: one pass from the label `retry:`, with `Sa4` and `Sa6` as
    earlier passes left them; `again` goes back to `retry:`, and is `none`
    once `Retries++ < 100` fails. -/
def socketInitPass (Port : BitVec 16) (WskHasIpv4Transport WskHasIpv6Transport : Bool)
    (a : AttemptOracle) (Sa4 : SOCKADDR_IN) (Sa6 : SOCKADDR_IN6)
    (again : Option (SOCKADDR_IN → SOCKADDR_IN6 → InitResult)) : InitResult :=
  if WskHasIpv4Transport then
    let Sa := SOCKADDR_INET.zero.setIpv4 Sa4
    let r := CreateAndBindSocket a.V4 Sa
    if !NT_SUCCESS r.Status then ⟨r.Status, [⟨some (Sa, r), none, []⟩], none⟩
    else socketInitV6 r.Sa.Ipv4 r.RetSocket (some (Sa, r))
  else socketInitV6 Sa4 none none
where
  /-- Lines 812-833, after the IPv4 socket, if any, was bound. -/
  socketInitV6 (Sa4 : SOCKADDR_IN) (New4 : Option SOCKET) (V4 : Option (SOCKADDR_INET × CreateResult)) :
      InitResult :=
    if WskHasIpv6Transport then
      let Sa := SOCKADDR_INET.zero.setIpv6 { Sa6 with sin6_port := Sa4.sin_port }
      let r := CreateAndBindSocket a.V6 Sa
      if !NT_SUCCESS r.Status then
        let this : Attempt := ⟨V4, some (Sa, r), CloseSocket a.Close4IrpAllocate New4⟩
        match again with
        | some k =>
          if r.Status == STATUS_ADDRESS_ALREADY_EXISTS && Port == 0 then
            let rest := k Sa4 r.Sa.Ipv6
            { rest with Attempts := this :: rest.Attempts }
          else ⟨r.Status, [this], none⟩
        | none => ⟨r.Status, [this], none⟩
      else
        ⟨STATUS_SUCCESS, [⟨V4, some (Sa, r), []⟩],
          some (New4, r.RetSocket, if WskHasIpv4Transport then Ntohs Sa4.sin_port else Ntohs r.Sa.Ipv6.sin6_port)⟩
    else ⟨STATUS_SUCCESS, [⟨V4, none, []⟩], some (New4, none, if WskHasIpv4Transport then Ntohs Sa4.sin_port else Port)⟩

/-- The retry loop with `left` more retries allowed, pass `Retries` answered
    by `o Retries`. -/
def socketInitLoop (Port : BitVec 16) (WskHasIpv4Transport WskHasIpv6Transport : Bool)
    (o : Nat → AttemptOracle) : Nat → Nat → SOCKADDR_IN → SOCKADDR_IN6 → InitResult
  | 0, Retries, Sa4, Sa6 =>
    socketInitPass Port WskHasIpv4Transport WskHasIpv6Transport (o Retries) Sa4 Sa6 none
  | left + 1, Retries, Sa4, Sa6 =>
    socketInitPass Port WskHasIpv4Transport WskHasIpv6Transport (o Retries) Sa4 Sa6
      (some (socketInitLoop Port WskHasIpv4Transport WskHasIpv6Transport o left (Retries + 1)))

/-- Lines 796-836: `Sa4` and `Sa6` are set once, before the label `retry:`. -/
def SocketInit (Port : BitVec 16) (WskHasIpv4Transport WskHasIpv6Transport : Bool)
    (o : Nat → AttemptOracle) : InitResult :=
  socketInitLoop Port WskHasIpv4Transport WskHasIpv6Transport o 100 0
    ⟨AF_INET, Htons Port, Htonl 0, 0⟩ ⟨AF_INET6, 0, 0, 0, 0⟩

/-- A pass records one attempt, then at most what going back to `retry:` does. -/
theorem socketInitPass_attempts_length (Port : BitVec 16) (WskHasIpv4Transport WskHasIpv6Transport : Bool)
    (a : AttemptOracle) (Sa4 : SOCKADDR_IN) (Sa6 : SOCKADDR_IN6) (n : Nat)
    (again : Option (SOCKADDR_IN → SOCKADDR_IN6 → InitResult))
    (h : ∀ k ∈ again, ∀ Sa4 Sa6, (k Sa4 Sa6).Attempts.length ≤ n) :
    (socketInitPass Port WskHasIpv4Transport WskHasIpv6Transport a Sa4 Sa6 again).Attempts.length ≤ n + 1 := by
  have hv6 : ∀ Sa4 New4 V4,
      (socketInitPass.socketInitV6 Port WskHasIpv4Transport WskHasIpv6Transport a Sa6 again Sa4 New4 V4).Attempts.length
        ≤ n + 1 := by
    intro Sa4 New4 V4
    unfold socketInitPass.socketInitV6
    dsimp only
    repeat' split
    all_goals first | exact Nat.le_add_left 1 n | exact Nat.succ_le_succ (h _ rfl _ _)
  unfold socketInitPass
  dsimp only
  split
  · split
    · simp
    · exact hv6 _ _ _
  · exact hv6 _ _ _

/-- The loop makes at most `left + 1` passes; `SocketInit`, at most 101. -/
theorem socketInitLoop_attempts_length (Port : BitVec 16) (WskHasIpv4Transport WskHasIpv6Transport : Bool)
    (o : Nat → AttemptOracle) :
    ∀ left Retries Sa4 Sa6,
      (socketInitLoop Port WskHasIpv4Transport WskHasIpv6Transport o left Retries Sa4 Sa6).Attempts.length ≤
        left + 1
  | 0, _, _, _ => socketInitPass_attempts_length _ _ _ _ _ _ 0 none (by simp)
  | left + 1, _, _, _ => socketInitPass_attempts_length _ _ _ _ _ _ (left + 1) (some _)
      fun _ hk => by cases hk; exact socketInitLoop_attempts_length Port _ _ o left _

/-- `SocketInit(Wg, 0)` with both transports, where another process holds
    the IPv6 port `WskGetLocalAddress` reports for the first IPv4 socket,
    51000. The first pass binds the IPv4 socket to port 0 and gets 51000,
    written back into `Sa4`; the IPv6 bind to 51000 finds it taken. Every
    later pass asks to bind the IPv4 socket to 51000 again, not to port 0, so
    no pass tries a fresh ephemeral port, and the loop gives up after 101
    passes. -/
theorem socketInit_retries_with_previous_port :
    let Bound4 : SOCKADDR_INET := SOCKADDR_INET.zero.setIpv4 ⟨AF_INET, Htons 51000#16, 0, 0⟩
    let V4 : CreateOracle := ⟨true, true, (STATUS_SUCCESS, 4), ⟨true, STATUS_SUCCESS⟩, ⟨true, STATUS_SUCCESS⟩,
      STATUS_SUCCESS, (STATUS_SUCCESS, Bound4), true⟩
    let V6 : CreateOracle := ⟨true, true, (STATUS_SUCCESS, 6), ⟨true, STATUS_SUCCESS⟩, ⟨true, STATUS_SUCCESS⟩,
      STATUS_ADDRESS_ALREADY_EXISTS, (STATUS_SUCCESS, SOCKADDR_INET.zero), true⟩
    let r := SocketInit 0 true true fun _ => ⟨V4, V6, true⟩
    r.Status = STATUS_ADDRESS_ALREADY_EXISTS ∧ r.Attempts.length = 101 ∧
      (r.Attempts.map fun a => a.V4.map (·.1.port)) =
        some (Htons 0) :: List.replicate 100 (some (Htons 51000#16)) := by
  decide

/-! ## What the retry loop gives back -/

/-- What a pass did, in order: the IPv4 setup, the IPv6 setup, then
    `CloseSocket(New4)`. -/
def Attempt.events (a : Attempt) : List SocketEvent :=
  (a.V4.elim [] fun v => v.2.Events) ++ (a.V6.elim [] fun v => v.2.Events) ++ a.Close4

/-- Everything `SocketInit` did, pass after pass. -/
def InitResult.events (r : InitResult) : List SocketEvent := r.Attempts.flatMap Attempt.events

/-- The `SOCKET`s `SocketInit` hands to `SocketReinit`. -/
def InitResult.kept (r : InitResult) : List SOCKET :=
  match r.Reinit with
  | some (New4, New6, _) => New4.toList ++ New6.toList
  | none => []

/-- `Events` give back what they set up except the `SOCKET`s `Kept`, each
    holding its provider socket open: every IRP and every other `SOCKET` is
    freed; no provider socket is closed twice or closed while kept, and, when
    `Closes` holds, every one not kept is closed. -/
structure Ledger (Closes : Prop) (Events : List SocketEvent) (Kept : List SOCKET) : Prop where
  irp : Events.count .irpFree = Events.count .irpAllocate
  socket : Events.count .socketFree + Kept.length = Events.count .socketAllocate
  wsk : ∀ s, Events.count (.wskCloseSocket s) + Kept.count ⟨some s⟩ ≤ Events.count (.wskSocket s)
  closed : Closes → ∀ s, Events.count (.wskCloseSocket s) + Kept.count ⟨some s⟩ = Events.count (.wskSocket s)

namespace Ledger

variable {C C' : Prop} {E E' : List SocketEvent} {K K' : List SOCKET}

theorem nil (C : Prop) : Ledger C [] [] := ⟨rfl, rfl, fun _ => Nat.le_refl _, fun _ _ => rfl⟩

theorem append (h : Ledger C E K) (h' : Ledger C E' K') : Ledger C (E ++ E') (K ++ K') := by
  refine ⟨?_, ?_, fun s => ?_, fun hc s => ?_⟩
  · simp only [List.count_append, h.irp, h'.irp]
  · have := h.socket; have := h'.socket
    simp only [List.count_append, List.length_append]; omega
  · have := h.wsk s; have := h'.wsk s
    simp only [List.count_append]; omega
  · have := h.closed hc s; have := h'.closed hc s
    simp only [List.count_append]; omega

theorem mono (h : Ledger C E K) (hC : C' → C) : Ledger C' E K :=
  ⟨h.irp, h.socket, h.wsk, fun hc => h.closed (hC hc)⟩

theorem perm (h : Ledger C E K) (hp : E.Perm E') : Ledger C E' K := by
  refine ⟨?_, ?_, fun s => ?_, fun hc s => ?_⟩
  · rw [← hp.count_eq, ← hp.count_eq]; exact h.irp
  · rw [← hp.count_eq, ← hp.count_eq]; exact h.socket
  · rw [← hp.count_eq, ← hp.count_eq]; exact h.wsk s
  · rw [← hp.count_eq, ← hp.count_eq]; exact h.closed hc s

end Ledger

/-- A `SOCKET` held open is kept by its setup; closed, it is given back,
    its provider socket closed when `CloseSocket` gets its IRP. -/
theorem HeldOpen.ledger {E : List SocketEvent} {Sock : Nat} (h : HeldOpen E (some Sock)) (C : Prop) :
    Ledger C E [⟨some Sock⟩] ∧ ∀ Irp, Ledger (Irp = true) (E ++ CloseSocket Irp (some ⟨some Sock⟩)) [] := by
  have hwsk (s : Nat) : E.count (.wskSocket s) = [(⟨some Sock⟩ : SOCKET)].count ⟨some s⟩ := by
    rw [h.wskSocket s, List.count_singleton']
    simp
  refine ⟨⟨h.irp, by simp [h.socketFree, h.socketAllocate], fun s => ?_, fun _ s => ?_⟩, fun Irp => ?_⟩
  · rw [h.wskCloseSocket, hwsk]; omega
  · rw [h.wskCloseSocket, hwsk]; omega
  obtain ⟨hirp, hsa, hsf, hw⟩ := closeSocket_counts Irp ⟨some Sock⟩
  have hclose (s : Nat) : (E ++ CloseSocket Irp (some ⟨some Sock⟩)).count (.wskCloseSocket s) =
      if Irp && Sock == s then (E ++ CloseSocket Irp (some ⟨some Sock⟩)).count (.wskSocket s) else 0 := by
    rw [List.count_append, List.count_append, h.wskCloseSocket, h.wskSocket, (hw s).1, (hw s).2]
    by_cases hs : Sock = s <;> cases Irp <;> simp [hs]
  refine ⟨?_, ?_, fun s => ?_, fun hI s => ?_⟩
  · simp only [List.count_append, h.irp, hirp]
  · simp only [List.count_append, h.socketFree, h.socketAllocate, hsa, hsf, List.length_nil]
  · rw [hclose]; split <;> simp
  · subst hI
    rw [hclose, List.count_append, h.wskSocket, (hw s).1]
    by_cases hs : Sock = s <;> simp [hs]

/-- A `CreateAndBindSocket` gives back all it set up on a failure, and holds
    its `SOCKET` open on success. -/
theorem createAndBindSocket_ledger (o : CreateOracle) (Sa : SOCKADDR_INET) :
    let r := CreateAndBindSocket o Sa
    (NT_SUCCESS r.Status = false ∧ r.RetSocket = none ∧ Ledger (o.CloseIrpAllocate = true) r.Events []) ∨
    (r.Status = STATUS_SUCCESS ∧ ∃ Sock, r.RetSocket = some ⟨some Sock⟩ ∧ HeldOpen r.Events (some Sock)) := by
  intro r
  cases hs : NT_SUCCESS r.Status
  · obtain ⟨hret, hsock, hwsk⟩ := createAndBindSocket_failure o Sa hs
    refine .inl ⟨rfl, hret, createAndBindSocket_frees_irps o Sa, by simpa using hsock, fun s => ?_, fun hc s => ?_⟩
    · rw [hwsk s]; split <;> simp
    · rw [hwsk s, if_pos hc]; simp
  · obtain ⟨hst, hret, -, hheld⟩ := createAndBindSocket_success o Sa hs
    exact .inr ⟨hst, _, hret, hheld⟩

/-- Whether every `CloseSocket` of a pass gets its IRP. -/
def AttemptOracle.CloseIrps (a : AttemptOracle) : Prop :=
  a.V4.CloseIrpAllocate = true ∧ a.V6.CloseIrpAllocate = true ∧ a.Close4IrpAllocate = true

/-- How a run of the loop ends: it calls `SocketReinit` exactly when it
    returns `STATUS_SUCCESS`, and gives back all it set up but the sockets it
    hands over. -/
def InitOk (Closes : Prop) (r : InitResult) : Prop :=
  (r.Reinit.isSome = true ↔ r.Status = STATUS_SUCCESS) ∧ Ledger Closes r.events r.kept

/-- The IPv4 side of a pass before the IPv6 socket: `New4` is held open by
    its setup, and given back by `CloseSocket(New4)`. -/
def V4Held (V4 : Option (SOCKADDR_INET × CreateResult)) (New4 : Option SOCKET) : Prop :=
  Ledger True (V4.elim [] fun v => v.2.Events) New4.toList ∧
    ∀ Irp, Ledger (Irp = true) ((V4.elim [] fun v => v.2.Events) ++ CloseSocket Irp New4) []

theorem socketInitV6_ok {C : Prop} {Port : BitVec 16} {WskHasIpv4Transport WskHasIpv6Transport : Bool}
    {a : AttemptOracle} {Sa6 : SOCKADDR_IN6} {again : Option (SOCKADDR_IN → SOCKADDR_IN6 → InitResult)}
    {Sa4 : SOCKADDR_IN} {New4 : Option SOCKET} {V4 : Option (SOCKADDR_INET × CreateResult)}
    (hv4 : V4Held V4 New4) (hc : C → a.CloseIrps) (hk : ∀ k ∈ again, ∀ Sa4 Sa6, InitOk C (k Sa4 Sa6)) :
    InitOk C (socketInitPass.socketInitV6 Port WskHasIpv4Transport WskHasIpv6Transport a Sa6 again Sa4 New4 V4) := by
  unfold socketInitPass.socketInitV6
  split
  · dsimp only
    generalize SOCKADDR_INET.zero.setIpv6 { Sa6 with sin6_port := Sa4.sin_port } = Sa
    have h6 := createAndBindSocket_ledger a.V6 Sa
    generalize CreateAndBindSocket a.V6 Sa = r6 at h6 ⊢
    rcases h6 with ⟨hf, -, h6⟩ | ⟨hs, Sock, hret, hheld⟩
    · -- the IPv6 socket failed: the pass gives back all it set up
      have hthis : Ledger C (Attempt.events ⟨V4, some (Sa, r6), CloseSocket a.Close4IrpAllocate New4⟩) [] := by
        refine (((hv4.2 _).mono fun hC => (hc hC).2.2).append (h6.mono fun hC => (hc hC).2.1)).perm ?_
        show List.Perm _ ((V4.elim [] fun v => v.2.Events) ++ r6.Events ++ CloseSocket a.Close4IrpAllocate New4)
        rw [List.append_assoc, List.append_assoc]
        exact List.perm_append_comm.append_left _
      have hne : r6.Status ≠ STATUS_SUCCESS := fun h => by rw [h] at hf; cases hf
      have hstop : InitOk C ⟨r6.Status, [⟨V4, some (Sa, r6), CloseSocket a.Close4IrpAllocate New4⟩], none⟩ :=
        ⟨by simp [hne], by simpa [InitResult.events, InitResult.kept] using hthis⟩
      rw [if_pos (by simp [hf])]
      split
      · split
        · have hrest := hk _ rfl Sa4 r6.Sa.Ipv6
          exact ⟨hrest.1, hthis.append hrest.2⟩
        · exact hstop
      · exact hstop
    · rw [if_neg (by simp [hs, nt_success_STATUS_SUCCESS])]
      refine ⟨by simp, ?_⟩
      have h := (hv4.1.mono fun _ => trivial).append (hheld.ledger C).1
      simpa [InitResult.events, InitResult.kept, Attempt.events, hret] using h
  · refine ⟨by simp, ?_⟩
    simpa [InitResult.events, InitResult.kept, Attempt.events] using hv4.1.mono fun _ => trivial

theorem socketInitPass_ok {C : Prop} {Port : BitVec 16} {WskHasIpv4Transport WskHasIpv6Transport : Bool}
    {a : AttemptOracle} {Sa4 : SOCKADDR_IN} {Sa6 : SOCKADDR_IN6}
    {again : Option (SOCKADDR_IN → SOCKADDR_IN6 → InitResult)} (hc : C → a.CloseIrps)
    (hk : ∀ k ∈ again, ∀ Sa4 Sa6, InitOk C (k Sa4 Sa6)) :
    InitOk C (socketInitPass Port WskHasIpv4Transport WskHasIpv6Transport a Sa4 Sa6 again) := by
  unfold socketInitPass
  split
  · dsimp only
    generalize SOCKADDR_INET.zero.setIpv4 Sa4 = Sa
    have h4 := createAndBindSocket_ledger a.V4 Sa
    generalize CreateAndBindSocket a.V4 Sa = r4 at h4 ⊢
    rcases h4 with ⟨hf, -, h4⟩ | ⟨hs, Sock, hret, hheld⟩
    · have hne : r4.Status ≠ STATUS_SUCCESS := fun h => by rw [h] at hf; cases hf
      have h4' : Ledger C r4.Events [] := h4.mono fun hC => (hc hC).1
      rw [if_pos (by simp [hf])]
      exact ⟨by simp [hne], by simpa [InitResult.events, InitResult.kept, Attempt.events] using h4'⟩
    · rw [if_neg (by simp [hs, nt_success_STATUS_SUCCESS])]
      refine socketInitV6_ok ⟨?_, fun Irp => ?_⟩ hc hk
      · simpa [hret] using (hheld.ledger True).1
      · simpa [hret] using (hheld.ledger True).2 Irp
  · exact socketInitV6_ok ⟨Ledger.nil True, fun Irp => Ledger.nil (Irp = true)⟩ hc hk

theorem socketInitLoop_ok (Port : BitVec 16) (WskHasIpv4Transport WskHasIpv6Transport : Bool)
    (o : Nat → AttemptOracle) {C : Prop} (hc : C → ∀ i, (o i).CloseIrps) :
    ∀ left Retries Sa4 Sa6, InitOk C (socketInitLoop Port WskHasIpv4Transport WskHasIpv6Transport o left Retries Sa4 Sa6)
  | 0, _, _, _ => socketInitPass_ok (fun h => hc h _) (by simp)
  | left + 1, _, _, _ => socketInitPass_ok (fun h => hc h _) fun _ hk => by
      cases hk; exact socketInitLoop_ok Port _ _ o hc left _

/-- For every port, both transport flags and every answer of the calls of
    every pass: `SocketInit` calls `SocketReinit` exactly when it returns
    `STATUS_SUCCESS`. Over all its passes it frees every IRP it allocates,
    and every `SOCKET` but those it hands to `SocketReinit`, each of which
    holds open the provider socket it bound; it never closes a provider
    socket twice, and when every `CloseSocket` gets its IRP it closes every
    provider socket it does not hand over. -/
theorem socketInit_gives_back_all_but_kept (Port : BitVec 16) (WskHasIpv4Transport WskHasIpv6Transport : Bool)
    (o : Nat → AttemptOracle) :
    let r := SocketInit Port WskHasIpv4Transport WskHasIpv6Transport o
    (r.Reinit.isSome = true ↔ r.Status = STATUS_SUCCESS) ∧ Ledger (∀ i, (o i).CloseIrps) r.events r.kept :=
  socketInitLoop_ok Port WskHasIpv4Transport WskHasIpv6Transport o id 100 0 _ _

end wireguard
