import WgSocket.Basic

namespace wireguard

/-- `UDP_NOCHECKSUM`, defined at the top of socket.c. -/
def UDP_NOCHECKSUM : BitVec 32 := 1#32

/-- `IPV6_V6ONLY` of ws2ipdef.h. -/
def IPV6_V6ONLY : BitVec 32 := 27#32

/-- What setting up and closing a socket does with memory and with the
    provider's sockets, each `WSK_SOCKET` by the handle `WskSocket` returned. -/
inductive SocketEvent
  /-- `MemAllocate` of the `SOCKET` -/
  | socketAllocate
  /-- `MemFree` of the `SOCKET` -/
  | socketFree
  /-- `IoAllocateIrp` -/
  | irpAllocate
  /-- `IoFreeIrp` -/
  | irpFree
  /-- `WskSocket` created `Sock` -/
  | wskSocket (Sock : Nat)
  | wskSetOption (Sock : Nat) (Level Option : BitVec 32)
  | wskBind (Sock : Nat) (Sa : SOCKADDR_INET)
  | wskGetLocalAddress (Sock : Nat)
  | wskCloseSocket (Sock : Nat)
deriving DecidableEq, Repr

/-- The part of a `SOCKET` its setup and teardown read: `Sock`, `NULL` until
    `WskSocket` has created it. -/
structure SOCKET where
  Sock : Option Nat
deriving DecidableEq, Repr

/-- Lines 642-665, given whether `IoAllocateIrp` succeeds. -/
def CloseSocket (IrpAllocate : Bool) : Option SOCKET → List SocketEvent
  | none => []
  | some Socket =>
    match Socket.Sock with
    | none => [.socketFree]
    | some Sock =>
      if IrpAllocate then [.irpAllocate, .wskCloseSocket Sock, .irpFree, .socketFree]
      else [.socketFree]

/-- What one `SetSockOpt` meets: whether `IoAllocateIrp` succeeds, and the
    status `WskControlSocket` ends with. -/
structure SetSockOptAnswer where
  IrpAllocate : Bool
  Status : NTSTATUS

/-- Lines 669-691. -/
def SetSockOpt (a : SetSockOptAnswer) (Sock : Nat) (Level Option : BitVec 32) :
    NTSTATUS × List SocketEvent :=
  if !a.IrpAllocate then (STATUS_INSUFFICIENT_RESOURCES, [])
  else (a.Status, [.irpAllocate, .wskSetOption Sock Level Option, .irpFree])

/-- What the calls of one `CreateAndBindSocket` answer: the allocations of
    the `SOCKET` and of its IRP; the status `WskSocket` ends with and the
    socket it returns; the two `SetSockOpt` calls; the status of `WskBind`;
    the status of `WskGetLocalAddress` and the address it writes back; and
    the IRP allocation of `CloseSocket` on a failure. A provider call that
    returns `STATUS_PENDING` is waited for, so each status is the one the
    call ends with. -/
structure CreateOracle where
  SocketAllocate : Bool
  IrpAllocate : Bool
  WskSocket : NTSTATUS × Nat
  FamilyOption : SetSockOptAnswer
  PktinfoOption : SetSockOptAnswer
  WskBind : NTSTATUS
  WskGetLocalAddress : NTSTATUS × SOCKADDR_INET
  CloseIrpAllocate : Bool

/-- How `CreateAndBindSocket` returns: its status, what it did, `*Sa`
    afterwards, and `*RetSocket` if it wrote it. -/
structure CreateResult where
  Status : NTSTATUS
  Events : List SocketEvent
  Sa : SOCKADDR_INET
  RetSocket : Option SOCKET

/-- Lines 734-752: the option of the address family, then the pkt-info option. -/
def socketOptions (o : CreateOracle) (Sock : Nat) (Family : ADDRESS_FAMILY) :
    NTSTATUS × List SocketEvent :=
  let (Status, Events) :=
    if Family == AF_INET then SetSockOpt o.FamilyOption Sock IPPROTO_UDP UDP_NOCHECKSUM
    else if Family == AF_INET6 then SetSockOpt o.FamilyOption Sock IPPROTO_IPV6 IPV6_V6ONLY
    else (STATUS_SUCCESS, [])
  if !NT_SUCCESS Status then (Status, Events)
  else
    let (Status, Events') := SetSockOpt o.PktinfoOption Sock
      (if Family == AF_INET6 then IPPROTO_IPV6 else IPPROTO_IP)
      (if Family == AF_INET6 then IPV6_PKTINFO else IP_PKTINFO)
    (Status, Events ++ Events')

/-- Lines 695-792. -/
def CreateAndBindSocket (o : CreateOracle) (Sa : SOCKADDR_INET) : CreateResult :=
  if !o.SocketAllocate then ⟨STATUS_INSUFFICIENT_RESOURCES, [], Sa, none⟩
  else if !o.IrpAllocate then
    ⟨STATUS_INSUFFICIENT_RESOURCES, .socketAllocate :: CloseSocket o.CloseIrpAllocate (some ⟨none⟩), Sa, none⟩
  else if !NT_SUCCESS o.WskSocket.1 then
    ⟨o.WskSocket.1, [.socketAllocate, .irpAllocate, .irpFree] ++ CloseSocket o.CloseIrpAllocate (some ⟨none⟩),
      Sa, none⟩
  else
    let Sock := o.WskSocket.2
    let cleanup (Status : NTSTATUS) (Events : List SocketEvent) : CreateResult :=
      ⟨Status, [.socketAllocate, .irpAllocate, .wskSocket Sock] ++ Events ++
        .irpFree :: CloseSocket o.CloseIrpAllocate (some ⟨some Sock⟩), Sa, none⟩
    let (Status, Options) := socketOptions o Sock Sa.si_family
    if !NT_SUCCESS Status then cleanup Status Options
    else if !NT_SUCCESS o.WskBind then cleanup o.WskBind (Options ++ [.wskBind Sock Sa])
    else if !NT_SUCCESS o.WskGetLocalAddress.1 then
      cleanup o.WskGetLocalAddress.1 (Options ++ [.wskBind Sock Sa, .wskGetLocalAddress Sock])
    else
      ⟨STATUS_SUCCESS, [.socketAllocate, .irpAllocate, .wskSocket Sock] ++ Options ++
        [.wskBind Sock Sa, .wskGetLocalAddress Sock, .irpFree], o.WskGetLocalAddress.2, some ⟨some Sock⟩⟩

/-- Events that leave every resource as they found it: each IRP freed as it
    is allocated, and no `SOCKET` or provider socket made or released. -/
structure Neutral (Events : List SocketEvent) : Prop where
  irp : Events.count .irpFree = Events.count .irpAllocate
  socketAllocate : Events.count .socketAllocate = 0
  socketFree : Events.count .socketFree = 0
  wskSocket : ∀ s, Events.count (.wskSocket s) = 0
  wskCloseSocket : ∀ s, Events.count (.wskCloseSocket s) = 0

theorem Neutral.nil : Neutral [] := ⟨rfl, rfl, rfl, fun _ => rfl, fun _ => rfl⟩

theorem Neutral.append {E E' : List SocketEvent} (h : Neutral E) (h' : Neutral E') : Neutral (E ++ E') :=
  ⟨by simp only [List.count_append, h.irp, h'.irp],
   by simp only [List.count_append, h.socketAllocate, h'.socketAllocate],
   by simp only [List.count_append, h.socketFree, h'.socketFree],
   fun s => by simp only [List.count_append, h.wskSocket s, h'.wskSocket s],
   fun s => by simp only [List.count_append, h.wskCloseSocket s, h'.wskCloseSocket s]⟩

theorem neutral_setSockOpt (a : SetSockOptAnswer) (Sock : Nat) (Level Option : BitVec 32) :
    Neutral (SetSockOpt a Sock Level Option).2 := by
  unfold SetSockOpt
  split
  · exact .nil
  · constructor <;> simp [List.count_cons]

/-- Setting the options allocates and frees one IRP per option, and touches
    neither the `SOCKET` nor any provider socket's life. -/
theorem neutral_socketOptions (o : CreateOracle) (Sock : Nat) (Family : ADDRESS_FAMILY) :
    Neutral (socketOptions o Sock Family).2 := by
  have hfamily : Neutral (if Family == AF_INET then SetSockOpt o.FamilyOption Sock IPPROTO_UDP UDP_NOCHECKSUM
      else if Family == AF_INET6 then SetSockOpt o.FamilyOption Sock IPPROTO_IPV6 IPV6_V6ONLY
      else (STATUS_SUCCESS, [])).2 := by
    split
    · exact neutral_setSockOpt ..
    · split
      · exact neutral_setSockOpt ..
      · exact .nil
  unfold socketOptions
  split
  next Status Events heq =>
    rw [heq] at hfamily
    split
    · exact hfamily
    · exact hfamily.append (neutral_setSockOpt ..)

/-- `CloseSocket` frees the `SOCKET` and the IRP it allocates, and closes the
    provider's socket only when it gets that IRP. -/
theorem closeSocket_counts (IrpAllocate : Bool) (Socket : SOCKET) :
    let Events := CloseSocket IrpAllocate (some Socket)
    Events.count .irpFree = Events.count .irpAllocate ∧ Events.count .socketAllocate = 0 ∧
      Events.count .socketFree = 1 ∧ ∀ s, Events.count (.wskSocket s) = 0 ∧
        Events.count (.wskCloseSocket s) = if IrpAllocate && Socket.Sock == some s then 1 else 0 := by
  unfold CloseSocket
  dsimp only
  split
  · simp_all
  · split <;> simp_all [List.count_cons]

/-- What `Events` set up and still holds: the `SOCKET`, and the provider's
    socket `Sock` if one was created, with every IRP freed. -/
structure HeldOpen (Events : List SocketEvent) (Sock : Option Nat) : Prop where
  irp : Events.count .irpFree = Events.count .irpAllocate
  socketAllocate : Events.count .socketAllocate = 1
  socketFree : Events.count .socketFree = 0
  wskSocket : ∀ s, Events.count (.wskSocket s) = if Sock = some s then 1 else 0
  wskCloseSocket : ∀ s, Events.count (.wskCloseSocket s) = 0

theorem heldOpen_created {E : List SocketEvent} (Sock : Nat) (h : Neutral E) :
    HeldOpen ([.socketAllocate, .irpAllocate, .wskSocket Sock] ++ E ++ [.irpFree]) (some Sock) := by
  constructor <;> intros <;>
    simp [List.count_cons, List.count_append, h.irp, h.socketAllocate, h.socketFree, h.wskSocket, h.wskCloseSocket]

/-- How `CreateAndBindSocket` ends: having allocated nothing; or with a
    failure, having run `CloseSocket` last on the `SOCKET` it held; or with
    `STATUS_SUCCESS`, handing back the `SOCKET` it holds open, with the address
    `WskGetLocalAddress` wrote. -/
theorem createAndBindSocket_cases (o : CreateOracle) (Sa : SOCKADDR_INET) :
    let r := CreateAndBindSocket o Sa
    (r.Status = STATUS_INSUFFICIENT_RESOURCES ∧ r.Events = [] ∧ r.RetSocket = none) ∨
    (NT_SUCCESS r.Status = false ∧ r.RetSocket = none ∧
      ∃ pre Sock, r.Events = pre ++ CloseSocket o.CloseIrpAllocate (some ⟨Sock⟩) ∧ HeldOpen pre Sock) ∨
    (r.Status = STATUS_SUCCESS ∧ r.RetSocket = some ⟨some o.WskSocket.2⟩ ∧ r.Sa = o.WskGetLocalAddress.2 ∧
      HeldOpen r.Events (some o.WskSocket.2)) := by
  have ho := neutral_socketOptions o o.WskSocket.2 Sa.si_family
  dsimp only
  generalize hr : CreateAndBindSocket o Sa = r
  unfold CreateAndBindSocket at hr
  dsimp only at hr
  by_cases h1 : (!o.SocketAllocate) = true
  · rw [if_pos h1] at hr
    subst hr
    exact .inl ⟨rfl, rfl, rfl⟩
  rw [if_neg h1] at hr
  by_cases h2 : (!o.IrpAllocate) = true
  · rw [if_pos h2] at hr
    subst hr
    exact .inr (.inl ⟨nt_success_STATUS_INSUFFICIENT_RESOURCES, rfl, [.socketAllocate], none, rfl,
      ⟨rfl, rfl, rfl, fun _ => rfl, fun _ => rfl⟩⟩)
  rw [if_neg h2] at hr
  by_cases h3 : (!NT_SUCCESS o.WskSocket.1) = true
  · rw [if_pos h3] at hr
    subst hr
    exact .inr (.inl ⟨by simpa using h3, rfl, [.socketAllocate, .irpAllocate, .irpFree], none, rfl,
      ⟨rfl, rfl, rfl, fun _ => rfl, fun _ => rfl⟩⟩)
  rw [if_neg h3] at hr
  have hbind : Neutral [.wskBind o.WskSocket.2 Sa] := by constructor <;> intros <;> simp
  have hget : Neutral [.wskGetLocalAddress o.WskSocket.2] := by constructor <;> intros <;> simp
  by_cases h4 : (!NT_SUCCESS (socketOptions o o.WskSocket.2 Sa.si_family).1) = true
  · rw [if_pos h4] at hr
    subst hr
    exact .inr (.inl ⟨by simpa using h4, rfl, _, _, by simp, heldOpen_created o.WskSocket.2 ho⟩)
  rw [if_neg h4] at hr
  by_cases h5 : (!NT_SUCCESS o.WskBind) = true
  · rw [if_pos h5] at hr
    subst hr
    exact .inr (.inl ⟨by simpa using h5, rfl, _, _, by simp, heldOpen_created o.WskSocket.2 (ho.append hbind)⟩)
  rw [if_neg h5] at hr
  by_cases h6 : (!NT_SUCCESS o.WskGetLocalAddress.1) = true
  · rw [if_pos h6] at hr
    subst hr
    exact .inr (.inl ⟨by simpa using h6, rfl, _, _, by simp,
      heldOpen_created o.WskSocket.2 (ho.append (hbind.append hget))⟩)
  rw [if_neg h6] at hr
  subst hr
  exact .inr (.inr ⟨rfl, rfl, rfl, by simpa using heldOpen_created o.WskSocket.2 (ho.append (hbind.append hget))⟩)

/-- Every IRP `CreateAndBindSocket` allocates is freed before it returns,
    whatever the calls answer. -/
theorem createAndBindSocket_frees_irps (o : CreateOracle) (Sa : SOCKADDR_INET) :
    (CreateAndBindSocket o Sa).Events.count .irpFree = (CreateAndBindSocket o Sa).Events.count .irpAllocate := by
  rcases createAndBindSocket_cases o Sa with ⟨-, he, -⟩ | ⟨-, -, pre, Sock, he, hpre⟩ | ⟨-, -, -, hheld⟩
  · simp [he]
  · rw [he, List.count_append, List.count_append, hpre.irp, (closeSocket_counts ..).1]
  · exact hheld.irp

/-- On a failure `CreateAndBindSocket` hands back no socket and has freed the
    `SOCKET` it allocated; it has closed the provider's socket it created
    exactly when `CloseSocket` got its IRP. -/
theorem createAndBindSocket_failure (o : CreateOracle) (Sa : SOCKADDR_INET)
    (h : NT_SUCCESS (CreateAndBindSocket o Sa).Status = false) :
    let r := CreateAndBindSocket o Sa
    r.RetSocket = none ∧ r.Events.count .socketFree = r.Events.count .socketAllocate ∧
      ∀ s, r.Events.count (.wskCloseSocket s) = if o.CloseIrpAllocate then r.Events.count (.wskSocket s) else 0 := by
  rcases createAndBindSocket_cases o Sa with ⟨-, he, hr⟩ | ⟨-, hr, pre, Sock, he, hpre⟩ | ⟨hs, -⟩
  · simp [he, hr]
  · obtain ⟨-, hca, hcf, hcw⟩ := closeSocket_counts o.CloseIrpAllocate ⟨Sock⟩
    refine ⟨hr, ?_, fun s => ?_⟩
    · rw [he, List.count_append, List.count_append, hpre.socketFree, hpre.socketAllocate, hcf, hca]
    · rw [he, List.count_append, List.count_append, hpre.wskCloseSocket, (hcw s).2, hpre.wskSocket, (hcw s).1]
      cases o.CloseIrpAllocate <;> simp
  · simp [hs] at h

/-- `WskSocket` creates socket 7 for an IPv4 address; the first `SetSockOpt`
    cannot allocate its IRP, and on the way out neither can `CloseSocket`,
    which then frees the `SOCKET` without closing socket 7. The provider's
    socket stays open with the freed `SOCKET` as its `Receive` context. -/
theorem createAndBindSocket_frees_socket_left_open :
    let o : CreateOracle := ⟨true, true, (STATUS_SUCCESS, 7), ⟨false, STATUS_SUCCESS⟩,
      ⟨true, STATUS_SUCCESS⟩, STATUS_SUCCESS, (STATUS_SUCCESS, SOCKADDR_INET.zero), false⟩
    let r := CreateAndBindSocket o (SOCKADDR_INET.zero.setIpv4 ⟨AF_INET, 0, 0, 0⟩)
    r.Status = STATUS_INSUFFICIENT_RESOURCES ∧
      r.Events = [.socketAllocate, .irpAllocate, .wskSocket 7, .irpFree, .socketFree] ∧
      SocketEvent.wskCloseSocket 7 ∉ r.Events :=
  ⟨rfl, rfl, by decide⟩

/-- On success `CreateAndBindSocket` returns `STATUS_SUCCESS` and hands back
    the `SOCKET`, holding open the provider's socket it created, with `*Sa`
    the address `WskGetLocalAddress` wrote. -/
theorem createAndBindSocket_success (o : CreateOracle) (Sa : SOCKADDR_INET)
    (h : NT_SUCCESS (CreateAndBindSocket o Sa).Status = true) :
    let r := CreateAndBindSocket o Sa
    r.Status = STATUS_SUCCESS ∧ r.RetSocket = some ⟨some o.WskSocket.2⟩ ∧ r.Sa = o.WskGetLocalAddress.2 ∧
      HeldOpen r.Events (some o.WskSocket.2) := by
  rcases createAndBindSocket_cases o Sa with ⟨hs, -⟩ | ⟨hf, -⟩ | hok
  · simp [hs] at h
  · simp [hf] at h
  · exact hok

end wireguard
