import Mathlib.Logic.Function.Basic
import WgSocket.Endpoint.FromNbl
import WgSocket.Endpoint.Update
import WgSocket.Send.Polyfill

namespace wireguard

/-- The fields of a `NET_BUFFER` the send path reads, its current MDL by identity. -/
structure NET_BUFFER where
  CurrentMdl : Nat
  CurrentMdlOffset : BitVec 32
  DataLength : BitVec 32
deriving DecidableEq, Repr

/-- `WSK_BUF`: an MDL chain, the offset into its first MDL, and a length. -/
structure WSK_BUF where
  Mdl : Nat
  Offset : BitVec 32
  Length : BitVec 64
deriving DecidableEq, Repr

/-- `NET_BUFFER_WSK_BUF(Nb)->Buffer` as lines 359-361 fill it. -/
def NET_BUFFER.wskBuf (Nb : NET_BUFFER) : WSK_BUF :=
  ⟨Nb.CurrentMdl, Nb.CurrentMdlOffset, Nb.DataLength.setWidth 64⟩

/-! ## The loops of lines 355-372 -/

/-- A `NET_BUFFER` of a chain by its place: the index of its NBL in the
    chain, and its own index in that NBL. `NET_BUFFER_WSK_BUF(Nb)` is a
    `WSK_BUF_LIST` in the protocol-reserved area of the `NET_BUFFER`, so
    places name distinct cells. -/
abbrev NbRef := Nat × Nat

/-- `WSK_BUF_LIST`: the link to the next element, `NULL` as `none`, and the
    buffer. -/
structure WSK_BUF_LIST where
  Next : Option NbRef
  Buffer : WSK_BUF
deriving DecidableEq, Repr

/-- `NET_BUFFER_LIST_FIRST_NB(First)`, `NULL` for an NBL without buffers. -/
def NET_BUFFER_LIST_FIRST_NB : List (List NET_BUFFER) → Option NbRef
  | (_ :: _) :: _ => some (0, 0)
  | _ => none

/-- The reader of a `WSK_BUF_LIST`: follow `Next` from `head` for at most
    `fuel` elements; `none` if the list has not ended by then. -/
def walkWskBufList (Slots : NbRef → WSK_BUF_LIST) : Nat → Option NbRef → Option (List (NbRef × WSK_BUF))
  | _, none => some []
  | 0, some _ => none
  | n + 1, some r => (walkWskBufList Slots n (Slots r).Next).map ((r, (Slots r).Buffer) :: ·)

@[simp]
theorem walkWskBufList_none (Slots : NbRef → WSK_BUF_LIST) (n : Nat) : walkWskBufList Slots n none = some [] := by
  cases n <;> rfl

/-- A list read to its end is the same whatever the fuel. -/
theorem walkWskBufList_unique {Slots : NbRef → WSK_BUF_LIST} :
    ∀ {n m : Nat} {head : Option NbRef} {L L' : List (NbRef × WSK_BUF)},
      walkWskBufList Slots n head = some L → walkWskBufList Slots m head = some L' → L = L'
  | n, m, none, _, _, h, h' => by
    rw [walkWskBufList_none] at h h'
    exact (Option.some.inj h).symm.trans (Option.some.inj h')
  | 0, _, some _, _, _, h, _ => nomatch h
  | _, 0, some _, _, _, _, h' => nomatch h'
  | _ + 1, _ + 1, some _, _, _, h, h' => by
    obtain ⟨T, hT, rfl⟩ := Option.map_eq_some'.mp h
    obtain ⟨T', hT', rfl⟩ := Option.map_eq_some'.mp h'
    rw [walkWskBufList_unique hT hT']

/-- The locals of the loops of lines 355-372, with the `WSK_BUF_LIST` of every
    `NET_BUFFER` they write. -/
structure SendLoop where
  Slots : NbRef → WSK_BUF_LIST
  FirstWskBuf : Option NbRef
  LastWskBuf : Option NbRef
  DataLength : BitVec 64
  Packets : BitVec 64
  AllKeepalive : Bool

/-- Lines 353-356, over whatever the reserved areas held. -/
def SendLoop.init (Reserved : NbRef → WSK_BUF_LIST) : SendLoop := ⟨Reserved, none, none, 0, 0, true⟩

/-- The body of the inner loop (lines 360-371) for the `NET_BUFFER` at `r`:
    its `WSK_BUF_LIST` filled and terminated, then linked after `LastWskBuf`,
    or made `FirstWskBuf`. `KeepaliveLen` is `MessageDataLen(0)`, the length
    of a keepalive, defined in messages.h. -/
def linkNb (KeepaliveLen : BitVec 32) (s : SendLoop) (r : NbRef) (Nb : NET_BUFFER) : SendLoop :=
  let Slots := Function.update s.Slots r ⟨none, Nb.wskBuf⟩
  { Slots := match s.LastWskBuf with
      | some l => Function.update Slots l { Slots l with Next := some r }
      | none => Slots
    FirstWskBuf := if s.LastWskBuf.isSome then s.FirstWskBuf else some r
    LastWskBuf := some r
    DataLength := s.DataLength + Nb.DataLength.setWidth 64
    Packets := s.Packets + 1
    AllKeepalive := if Nb.DataLength != KeepaliveLen then false else s.AllKeepalive }

/-- The inner loop over the `NET_BUFFER`s of the NBL at index `i`. -/
def linkNbl (KeepaliveLen : BitVec 32) (i : Nat) : Nat → List NET_BUFFER → SendLoop → SendLoop
  | _, [], s => s
  | j, Nb :: Nbs, s => linkNbl KeepaliveLen i (j + 1) Nbs (linkNb KeepaliveLen s (i, j) Nb)

/-- The outer loop over the NBLs of the chain. -/
def linkChain (KeepaliveLen : BitVec 32) : Nat → List (List NET_BUFFER) → SendLoop → SendLoop
  | _, [], s => s
  | i, Nbl :: Nbls, s => linkChain KeepaliveLen (i + 1) Nbls (linkNbl KeepaliveLen i 0 Nbl s)

/-- Lines 353-372 on the chain `First`. -/
def sendLoop (KeepaliveLen : BitVec 32) (First : List (List NET_BUFFER)) (Reserved : NbRef → WSK_BUF_LIST) :
    SendLoop :=
  linkChain KeepaliveLen 0 First (SendLoop.init Reserved)

/-! ## `SendAsync` -/

/-- The payload a `SOCKET_SEND_CTX` holds: the chain `FirstNbl`, with the
    `WSK_BUF_LIST` cells in the protocol-reserved areas of its `NET_BUFFER`s,
    or `Buffer`. -/
inductive SendPayload
  | FirstNbl (FirstNbl : List (List NET_BUFFER)) (Slots : NbRef → WSK_BUF_LIST)
  | Buffer (Buffer : WSK_BUF)

/-- The parts of a `SOCKET_SEND_CTX` `SendAsync` and `SendComplete` read. -/
structure SOCKET_SEND_CTX where
  Endpoint : ENDPOINT
  Payload : SendPayload

def SOCKET_SEND_CTX.IsNbl (Ctx : SOCKET_SEND_CTX) : Bool :=
  match Ctx.Payload with
  | .FirstNbl _ _ => true
  | .Buffer _ => false

/-- The routine `SendAsync` called with the context's IRP; for the polyfill,
    whether its allocation of `RefCount` (line 115) succeeded: if not, it
    returns at once (lines 116-117). -/
inductive WskSendRoutine
  | WskSendMessages
  | PolyfilledWskSendMessages (RefCountAllocated : Bool)
  | WskSendTo
deriving DecidableEq, Repr

/-- Whether the provider was handed the context's own IRP. -/
def WskSendRoutine.HandsIrp : WskSendRoutine → Bool
  | .PolyfilledWskSendMessages _ => false
  | _ => true

/-- What a provider call is handed to send: a `WSK_BUF_LIST` by its first
    element, in the cells it is linked through, or one `WSK_BUF`. -/
inductive WskSendBuffers
  | List (Slots : NbRef → WSK_BUF_LIST) (BufferList : Option NbRef)
  | Buffer (Buffer : WSK_BUF)

/-- The provider call `SendAsync` made: the socket of which family it went
    through, the routine, and the buffers, remote address and control
    information it passed. -/
structure WskSendCall where
  Socket : ADDRESS_FAMILY
  Routine : WskSendRoutine
  Buffers : WskSendBuffers
  RemoteAddress : SOCKADDR_INET
  ControlInfoLength : BitVec 32
  ControlInfo : WSACMSGHDR

/-- What the calls of a send that are not modelled with it answer: the
    lookaside allocation of the context, `MemAllocateDataAndMdlChain` (the MDL
    chain, or `none`), which of `Wg->Sock4` and `Wg->Sock6` are set, whether
    the build is a Windows 7 one that sets `NoWskSendMessages`, and the
    polyfill's allocation of `RefCount`. -/
structure SendOracle where
  CtxAllocate : Bool
  MdlAllocate : Option Nat
  Sock4 : Bool
  Sock6 : Bool
  NoWskSendMessages : Bool
  RefCountAllocate : Bool

/-- Lines 159-163: `Wg->Sock4` or `Wg->Sock6` for the endpoint's family, by
    the family of the socket found. -/
def selectSocket (o : SendOracle) (Family : ADDRESS_FAMILY) : Option ADDRESS_FAMILY :=
  if Family == AF_INET then (if o.Sock4 then some AF_INET else none)
  else if Family == AF_INET6 then (if o.Sock6 then some AF_INET6 else none)
  else none

theorem selectSocket_eq_some {o : SendOracle} {Family Socket : ADDRESS_FAMILY}
    (h : selectSocket o Family = some Socket) :
    Socket = Family ∧ (Family = AF_INET ∨ Family = AF_INET6) := by
  unfold selectSocket at h
  split at h
  next h4 => split at h <;> cases h; exact ⟨(beq_iff_eq.mp h4).symm, .inl (beq_iff_eq.mp h4)⟩
  split at h
  next h6 => split at h <;> cases h; exact ⟨(beq_iff_eq.mp h6).symm, .inr (beq_iff_eq.mp h6)⟩
  cases h

/-- Lines 150-196. What the send routine returns is not looked at. -/
def SendAsync (o : SendOracle) (Ctx : SOCKET_SEND_CTX) : NTSTATUS × Option WskSendCall :=
  match selectSocket o Ctx.Endpoint.Addr.si_family with
  | none => (STATUS_NETWORK_UNREACHABLE, none)
  | some Socket =>
    let ControlInfoLength := (WSA_CMSGDATA_ALIGN Ctx.Endpoint.SrcCmsghdr.cmsg_len).setWidth 32
    match Ctx.Payload with
    | .FirstNbl FirstNbl Slots =>
      let Routine : WskSendRoutine :=
        if o.NoWskSendMessages then .PolyfilledWskSendMessages o.RefCountAllocate else .WskSendMessages
      (STATUS_SUCCESS, some ⟨Socket, Routine, .List Slots (NET_BUFFER_LIST_FIRST_NB FirstNbl), Ctx.Endpoint.Addr,
        ControlInfoLength, Ctx.Endpoint.SrcCmsghdr⟩)
    | .Buffer Buffer =>
      (STATUS_SUCCESS, some ⟨Socket, .WskSendTo, .Buffer Buffer, Ctx.Endpoint.Addr, ControlInfoLength,
        Ctx.Endpoint.SrcCmsghdr⟩)

/-- `SendAsync` fails only for want of a socket, and then calls nothing. -/
theorem sendAsync_cases (o : SendOracle) (Ctx : SOCKET_SEND_CTX) :
    SendAsync o Ctx = (STATUS_NETWORK_UNREACHABLE, none) ∨
      ∃ Call, SendAsync o Ctx = (STATUS_SUCCESS, some Call) := by
  unfold SendAsync
  split
  · exact .inl rfl
  · split <;> exact .inr ⟨_, rfl⟩

/-- The call goes through the socket of the endpoint's family and carries the
    endpoint's control header, announced at its aligned length. -/
theorem sendAsync_call {o : SendOracle} {Ctx : SOCKET_SEND_CTX} {Status : NTSTATUS} {Call : WskSendCall}
    (h : SendAsync o Ctx = (Status, some Call)) :
    Call.Socket = Ctx.Endpoint.Addr.si_family ∧
      (Ctx.Endpoint.Addr.si_family = AF_INET ∨ Ctx.Endpoint.Addr.si_family = AF_INET6) ∧
      Call.RemoteAddress = Ctx.Endpoint.Addr ∧ Call.ControlInfo = Ctx.Endpoint.SrcCmsghdr ∧
      Call.ControlInfoLength = (WSA_CMSGDATA_ALIGN Ctx.Endpoint.SrcCmsghdr.cmsg_len).setWidth 32 := by
  unfold SendAsync at h
  split at h
  · cases h
  next Socket hs =>
    obtain ⟨hsock, hfam⟩ := selectSocket_eq_some hs
    split at h <;> cases h <;> exact ⟨hsock, hfam, rfl, rfl, rfl⟩

/-- The socket a call goes through is of the family of the pkt-info header
    it carries, announced at that header's aligned length: 24 bytes for
    `IN_PKTINFO`, 40 for `IN6_PKTINFO`. -/
def WskSendCall.HeaderMatches (Call : WskSendCall) : Prop :=
  (Call.Socket = AF_INET ∧ Call.ControlInfo = cmsghdrV4 ∧ Call.ControlInfoLength = 24#32) ∨
  (Call.Socket = AF_INET6 ∧ Call.ControlInfo = cmsghdrV6 ∧ Call.ControlInfoLength = 40#32)

theorem sendAsync_headerMatches {o : SendOracle} {Ctx : SOCKET_SEND_CTX} {Status : NTSTATUS}
    {Call : WskSendCall} (hi : SlotInv Ctx.Endpoint) (h : SendAsync o Ctx = (Status, some Call)) :
    Call.HeaderMatches := by
  obtain ⟨hs, hfam, -, hc, hl⟩ := sendAsync_call h
  rcases hfam with hfam | hfam
  · rw [hi.header4 hfam] at hc hl
    exact .inl ⟨hs.trans hfam, hc, hl⟩
  · rw [hi.header6 hfam] at hc hl
    exact .inr ⟨hs.trans hfam, hc, hl⟩

/-! ## The send entry points -/

/-- What a send does with the memory it owns. -/
inductive SendEvent
  /-- `ExAllocateFromLookasideListEx(&SocketSendCtxCache)` -/
  | ctxAllocate
  /-- `ExFreeToLookasideListEx(&SocketSendCtxCache, Ctx)` -/
  | ctxFree
  /-- `MemAllocateDataAndMdlChain` -/
  | mdlAllocate
  /-- `MemFreeDataAndMdlChain` -/
  | mdlFree
  /-- `FreeSendNetBufferList` on the chain -/
  | nblsFree
deriving DecidableEq, Repr

/-- `Peer->TxBytes` and the device statistics the chain path adds to. -/
structure TxCounters where
  TxBytes : BitVec 64
  ifHCOutOctets : BitVec 64
  ifHCOutUcastOctets : BitVec 64
  ifHCOutUcastPkts : BitVec 64
deriving DecidableEq, Repr

/-- How a send entry point returns: its status, what it did with memory up
    to then, the context and provider call `SendAsync` made (if it made one),
    and the counters afterwards. -/
structure SendResult where
  Status : NTSTATUS
  Events : List SendEvent
  Dispatched : Option (SOCKET_SEND_CTX × WskSendCall)
  Counters : TxCounters

/-- Lines 61-72: `SendComplete` frees the payload and returns the context to
    the cache. -/
def SendComplete (Ctx : SOCKET_SEND_CTX) : List SendEvent :=
  [if Ctx.IsNbl then .nblsFree else .mdlFree, .ctxFree]

/-- Lines 335-387. `Resolved` is what `SocketResolvePeerEndpointSrc` returns,
    with `Peer->Endpoint` as read under the lock it leaves held on success;
    `Reserved` is what the protocol-reserved areas of the chain's
    `NET_BUFFER`s held. The second component is `*AllKeepalive` as written,
    `none` if it is not. -/
def SocketSendNblsToPeer (KeepaliveLen : BitVec 32) (o : SendOracle) (Resolved : NTSTATUS × ENDPOINT)
    (First : List (List NET_BUFFER)) (Reserved : NbRef → WSK_BUF_LIST) (c : TxCounters) :
    SendResult × Option Bool :=
  if First.isEmpty then (⟨STATUS_ALREADY_COMPLETE, [], none, c⟩, none)
  else if !o.CtxAllocate then (⟨STATUS_INSUFFICIENT_RESOURCES, [.nblsFree], none, c⟩, none)
  else if !NT_SUCCESS Resolved.1 then (⟨Resolved.1, [.ctxAllocate, .ctxFree, .nblsFree], none, c⟩, none)
  else
    let Loop := sendLoop KeepaliveLen First Reserved
    let Ctx : SOCKET_SEND_CTX := ⟨Resolved.2, .FirstNbl First Loop.Slots⟩
    let (Status, Call) := SendAsync o Ctx
    if !NT_SUCCESS Status then
      (⟨Status, [.ctxAllocate, .ctxFree, .nblsFree], none, c⟩, some Loop.AllKeepalive)
    else
      (⟨STATUS_SUCCESS, [.ctxAllocate], Call.map (Ctx, ·),
        ⟨c.TxBytes + Loop.DataLength, c.ifHCOutOctets + Loop.DataLength,
          c.ifHCOutUcastOctets + Loop.DataLength, c.ifHCOutUcastPkts + Loop.Packets⟩⟩,
        some Loop.AllKeepalive)

/-- Lines 393-424. -/
def SocketSendBufferToPeer (o : SendOracle) (Resolved : NTSTATUS × ENDPOINT) (Len : BitVec 32)
    (c : TxCounters) : SendResult :=
  if !o.CtxAllocate then ⟨STATUS_INSUFFICIENT_RESOURCES, [], none, c⟩
  else match o.MdlAllocate with
  | none => ⟨STATUS_INSUFFICIENT_RESOURCES, [.ctxAllocate, .ctxFree], none, c⟩
  | some Mdl =>
    if !NT_SUCCESS Resolved.1 then
      ⟨Resolved.1, [.ctxAllocate, .mdlAllocate, .mdlFree, .ctxFree], none, c⟩
    else
      let Ctx : SOCKET_SEND_CTX := ⟨Resolved.2, .Buffer ⟨Mdl, 0, Len.setWidth 64⟩⟩
      let (Status, Call) := SendAsync o Ctx
      if !NT_SUCCESS Status then ⟨Status, [.ctxAllocate, .mdlAllocate, .mdlFree, .ctxFree], none, c⟩
      else ⟨STATUS_SUCCESS, [.ctxAllocate, .mdlAllocate], Call.map (Ctx, ·),
        { c with TxBytes := c.TxBytes + Len.setWidth 64 }⟩

/-- Lines 428-458, with `SocketEndpointFromNbl` run on the indication the
    incoming NBL carries; `none` if it has not returned within `fuel` headers. -/
def SocketSendBufferAsReplyToNbl (fuel : Nat) (o : SendOracle)
    (RoutingGenerationV4 RoutingGenerationV6 : BitVec 32) (InNbl : DatagramIndication) (Len : BitVec 32)
    (c : TxCounters) : Option SendResult :=
  if !o.CtxAllocate then some ⟨STATUS_INSUFFICIENT_RESOURCES, [], none, c⟩
  else match o.MdlAllocate with
  | none => some ⟨STATUS_INSUFFICIENT_RESOURCES, [.ctxAllocate, .ctxFree], none, c⟩
  | some Mdl =>
    (SocketEndpointFromNbl fuel RoutingGenerationV4 RoutingGenerationV6 InNbl).map fun (Status, Endpoint) =>
      let Ctx : SOCKET_SEND_CTX := ⟨Endpoint, .Buffer ⟨Mdl, 0, Len.setWidth 64⟩⟩
      if !NT_SUCCESS Status then ⟨Status, [.ctxAllocate, .mdlAllocate, .mdlFree, .ctxFree], none, c⟩
      else
        let (Status, Call) := SendAsync o Ctx
        if !NT_SUCCESS Status then ⟨Status, [.ctxAllocate, .mdlAllocate, .mdlFree, .ctxFree], none, c⟩
        else ⟨STATUS_SUCCESS, [.ctxAllocate, .mdlAllocate], Call.map (Ctx, ·), c⟩

/-- The tail the three send paths share: the context and call handed on
    once `SendAsync` succeeded. -/
theorem sendAsync_dispatched {o : SendOracle} {Ctx Ctx' : SOCKET_SEND_CTX} {Call : WskSendCall}
    (h : (SendAsync o Ctx).2.map (Ctx, ·) = some (Ctx', Call)) :
    Ctx' = Ctx ∧ SendAsync o Ctx = (STATUS_SUCCESS, some Call) := by
  obtain ⟨C, hC, hCtx⟩ := Option.map_eq_some'.mp h
  cases hCtx
  rcases sendAsync_cases o Ctx with h' | ⟨_, h'⟩ <;> rw [h'] at hC <;> cases hC
  exact ⟨rfl, h'⟩

theorem socketSendNblsToPeer_dispatched {KeepaliveLen : BitVec 32} {o : SendOracle}
    {Resolved : NTSTATUS × ENDPOINT} {First : List (List NET_BUFFER)} {Reserved : NbRef → WSK_BUF_LIST}
    {c : TxCounters} {Ctx : SOCKET_SEND_CTX} {Call : WskSendCall}
    (h : (SocketSendNblsToPeer KeepaliveLen o Resolved First Reserved c).1.Dispatched = some (Ctx, Call)) :
    Ctx.Endpoint = Resolved.2 ∧ SendAsync o Ctx = (STATUS_SUCCESS, some Call) := by
  unfold SocketSendNblsToPeer at h
  dsimp only at h
  repeat' (split at h; · cases h)
  obtain ⟨rfl, hcall⟩ := sendAsync_dispatched h
  exact ⟨rfl, hcall⟩

theorem socketSendBufferToPeer_dispatched {o : SendOracle} {Resolved : NTSTATUS × ENDPOINT}
    {Len : BitVec 32} {c : TxCounters} {Ctx : SOCKET_SEND_CTX} {Call : WskSendCall}
    (h : (SocketSendBufferToPeer o Resolved Len c).Dispatched = some (Ctx, Call)) :
    Ctx.Endpoint = Resolved.2 ∧ SendAsync o Ctx = (STATUS_SUCCESS, some Call) := by
  unfold SocketSendBufferToPeer at h
  dsimp only at h
  repeat' (split at h; · cases h)
  obtain ⟨rfl, hcall⟩ := sendAsync_dispatched h
  exact ⟨rfl, hcall⟩

theorem socketSendBufferAsReplyToNbl_dispatched {fuel : Nat} {o : SendOracle} {g4 g6 : BitVec 32}
    {InNbl : DatagramIndication} {Len : BitVec 32} {c : TxCounters} {r : SendResult}
    {Ctx : SOCKET_SEND_CTX} {Call : WskSendCall}
    (h : SocketSendBufferAsReplyToNbl fuel o g4 g6 InNbl Len c = some r)
    (hd : r.Dispatched = some (Ctx, Call)) :
    SocketEndpointFromNbl fuel g4 g6 InNbl = some (STATUS_SUCCESS, Ctx.Endpoint) ∧
      SendAsync o Ctx = (STATUS_SUCCESS, some Call) := by
  unfold SocketSendBufferAsReplyToNbl at h
  repeat' (split at h; · cases h; cases hd)
  obtain ⟨⟨Status, Endpoint⟩, hp, rfl⟩ := Option.map_eq_some'.mp h
  simp only at hd
  repeat' (split at hd; · cases hd)
  next hst _ =>
    obtain ⟨rfl, hcall⟩ := sendAsync_dispatched hd
    refine ⟨?_, hcall⟩
    rcases socketEndpointFromNbl_result hp with ⟨rfl, -⟩ | ⟨rfl, -⟩
    · exact absurd hst (by decide)
    · exact hp

/-- The whole life of a send, once the provider has completed every IRP it
    was handed, each exactly once: the events up to the return, then
    `SendComplete` once if the provider was handed the context's own IRP,
    nothing more if the polyfill could not allocate `RefCount`, or once per
    call of the original completion routine in a finished run of the polyfill
    over the list it was handed, which its loop reads up to `NULL`. -/
inductive SendLife (r : SendResult) : List SendEvent → Prop
  | returned : r.Dispatched = none → SendLife r r.Events
  | provider {Ctx : SOCKET_SEND_CTX} {Call : WskSendCall} : r.Dispatched = some (Ctx, Call) →
      Call.Routine.HandsIrp = true → SendLife r (r.Events ++ SendComplete Ctx)
  | polyfillReturned {Ctx : SOCKET_SEND_CTX} {Call : WskSendCall} : r.Dispatched = some (Ctx, Call) →
      Call.Routine = .PolyfilledWskSendMessages false → SendLife r r.Events
  | polyfill {Ctx : SOCKET_SEND_CTX} {Call : WskSendCall} {Slots : NbRef → WSK_BUF_LIST}
      {BufferList : Option NbRef} {fuel : Nat} {Bufs : List (NbRef × WSK_BUF)} {s : Polyfill} :
      r.Dispatched = some (Ctx, Call) → Call.Routine = .PolyfilledWskSendMessages true →
      Call.Buffers = .List Slots BufferList → walkWskBufList Slots fuel BufferList = some Bufs →
      Polyfill.Reachable Bufs.length s → Polyfill.Quiescent s →
      SendLife r (r.Events ++ (List.replicate s.completions (SendComplete Ctx)).flatten)

/-- When the polyfill returned before its loop, nothing happens after the
    return: the provider holds no IRP of the send. -/
theorem SendLife.eq_events_of_polyfill_returned {r : SendResult} {Ctx : SOCKET_SEND_CTX}
    {Call : WskSendCall} {e : List SendEvent} (hd : r.Dispatched = some (Ctx, Call))
    (hr : Call.Routine = .PolyfilledWskSendMessages false) (h : SendLife r e) : e = r.Events := by
  cases h with
  | returned h => rfl
  | provider hd' hh =>
    rw [hd] at hd'
    cases hd'
    rw [hr] at hh
    cases hh
  | polyfillReturned => rfl
  | polyfill hd' hr' =>
    rw [hd] at hd'
    cases hd'
    rw [hr] at hr'
    cases hr'

/-- A Windows 7 build without `WskSendMessages` whose polyfill cannot
    allocate `RefCount`, sending one NBL of one 148-byte packet to a peer
    resolved at `192.0.2.10`: `PolyfilledWskSendMessages` returns
    `STATUS_INSUFFICIENT_RESOURCES` before its loop, which `SendAsync` does
    not look at. `SocketSendNblsToPeer` returns `STATUS_SUCCESS` and counts
    the bytes, but `SendComplete` never runs: over the send's whole life the
    context is never returned to the cache and the chain never freed. -/
theorem socketSendNblsToPeer_succeeds_without_sendComplete (Reserved : NbRef → WSK_BUF_LIST) :
    let o : SendOracle := ⟨true, none, true, true, true, false⟩
    let Endpoint : ENDPOINT :=
      { ENDPOINT.zero with Addr := ⟨AF_INET, 0x6CCA#16, 0x0A0200C0#32, 0, 0⟩, SrcCmsghdr := cmsghdrV4 }
    let r := (SocketSendNblsToPeer 32#32 o (STATUS_SUCCESS, Endpoint) [[⟨1, 0, 148#32⟩]] Reserved ⟨0, 0, 0, 0⟩).1
    r.Status = STATUS_SUCCESS ∧ r.Counters = ⟨148#64, 148#64, 148#64, 1#64⟩ ∧
      ∀ e, SendLife r e → e = [.ctxAllocate] :=
  ⟨rfl, rfl, fun _ h => SendLife.eq_events_of_polyfill_returned rfl rfl h⟩

/-- Every write of a peer endpoint keeps its family unset, IPv4 or IPv6, with
    the control header of that family, and bumps `UpdateGeneration` by one
    whenever it changes anything else; so every endpoint a send dispatches, a
    copy of a peer endpoint or one parsed from an incoming datagram, goes
    through the socket of the family of the control header it carries. -/
theorem peer_endpoint_writes_keep_dispatch_consistent :
    (∀ e : ENDPOINT, SlotReachable e → SlotInv e ∧ ∀ w : SlotWrite, BumpsOnChange e (w.apply e)) ∧
    (∀ (KeepaliveLen : BitVec 32) (o : SendOracle) (Resolved : NTSTATUS × ENDPOINT)
      (First : List (List NET_BUFFER)) (Reserved : NbRef → WSK_BUF_LIST) (c : TxCounters)
      (Ctx : SOCKET_SEND_CTX) (Call : WskSendCall),
      SlotReachable Resolved.2 →
      (SocketSendNblsToPeer KeepaliveLen o Resolved First Reserved c).1.Dispatched = some (Ctx, Call) →
      Call.HeaderMatches) ∧
    (∀ (o : SendOracle) (Resolved : NTSTATUS × ENDPOINT) (Len : BitVec 32) (c : TxCounters)
      (Ctx : SOCKET_SEND_CTX) (Call : WskSendCall),
      SlotReachable Resolved.2 →
      (SocketSendBufferToPeer o Resolved Len c).Dispatched = some (Ctx, Call) → Call.HeaderMatches) ∧
    (∀ (fuel : Nat) (o : SendOracle) (g4 g6 : BitVec 32) (InNbl : DatagramIndication) (Len : BitVec 32)
      (c : TxCounters) (r : SendResult) (Ctx : SOCKET_SEND_CTX) (Call : WskSendCall),
      SocketSendBufferAsReplyToNbl fuel o g4 g6 InNbl Len c = some r →
      r.Dispatched = some (Ctx, Call) → Call.HeaderMatches) := by
  refine ⟨fun e h => ⟨h.slotInv, fun w => w.bumpsOnChange e⟩, ?_, ?_, ?_⟩
  · intro _ _ _ _ _ _ _ _ hr hd
    obtain ⟨he, hs⟩ := socketSendNblsToPeer_dispatched hd
    exact sendAsync_headerMatches (he ▸ hr.slotInv) hs
  · intro _ _ _ _ _ _ hr hd
    obtain ⟨he, hs⟩ := socketSendBufferToPeer_dispatched hd
    exact sendAsync_headerMatches (he ▸ hr.slotInv) hs
  · intro _ _ _ _ _ _ _ _ _ _ h hd
    obtain ⟨hp, hs⟩ := socketSendBufferAsReplyToNbl_dispatched h hd
    refine sendAsync_headerMatches ?_ hs
    rcases socketEndpointFromNbl_result hp with ⟨h', -⟩ | ⟨-, hf⟩
    · exact absurd h' (by decide)
    · exact slotInv_of_header hf

/-- A peer endpoint set to `192.0.2.10` from the zeroed one, then a buffer
    sent to it: the send dispatches, through the IPv4 socket with the
    `IP_PKTINFO` header. -/
theorem peer_endpoint_dispatch_at_ipv4_peer :
    let o : SendOracle := ⟨true, some 1, true, true, false, true⟩
    let E : ENDPOINT := { ENDPOINT.zero with Addr := ⟨AF_INET, 0x6CCA#16, 0x0A0200C0#32, 0, 0⟩ }
    let Resolved : NTSTATUS × ENDPOINT := (STATUS_SUCCESS, SetPeerEndpointLocked ENDPOINT.zero E)
    ∃ Ctx Call, (SocketSendBufferToPeer o Resolved 148#32 ⟨0, 0, 0, 0⟩).Dispatched = some (Ctx, Call) ∧
      Call.HeaderMatches := by
  intro o E Resolved
  obtain ⟨Ctx, Call, hd⟩ : ∃ Ctx Call,
      (SocketSendBufferToPeer o Resolved 148#32 ⟨0, 0, 0, 0⟩).Dispatched = some (Ctx, Call) := by
    simp only [o, E, Resolved]
    exact ⟨_, _, rfl⟩
  exact ⟨Ctx, Call, hd, peer_endpoint_writes_keep_dispatch_consistent.2.2.1 o Resolved _ _ _ _
    (SlotReachable.zero.setPeerEndpointLocked E) hd⟩

/-! ## Over a send's whole life -/

/-- What a send's life does with its memory: the context goes back to the
    cache as often as it was taken, the MDL chain is freed as often as it was
    allocated, and the NBL chain is freed `Nbls` times. -/
def FreesAll (Nbls : Nat) (e : List SendEvent) : Prop :=
  e.count .ctxFree = e.count .ctxAllocate ∧ e.count .mdlFree = e.count .mdlAllocate ∧ e.count .nblsFree = Nbls

theorem sendAsync_routine_buffer {o : SendOracle} {Ctx : SOCKET_SEND_CTX} {Status : NTSTATUS}
    {Call : WskSendCall} {Buffer : WSK_BUF} (hp : Ctx.Payload = .Buffer Buffer)
    (h : SendAsync o Ctx = (Status, some Call)) : Call.Routine = .WskSendTo := by
  unfold SendAsync at h
  split at h
  · cases h
  · simp only [hp, Prod.mk.injEq, Option.some.injEq] at h
    rw [← h.2]

/-- Line 176: a chain goes to `WskSendMessages` or the polyfill, as the list
    whose first element is `NET_BUFFER_WSK_BUF` of the chain's first
    `NET_BUFFER`. -/
theorem sendAsync_firstNbl {o : SendOracle} {Ctx : SOCKET_SEND_CTX} {Status : NTSTATUS} {Call : WskSendCall}
    {FirstNbl : List (List NET_BUFFER)} {Slots : NbRef → WSK_BUF_LIST} (hp : Ctx.Payload = .FirstNbl FirstNbl Slots)
    (h : SendAsync o Ctx = (Status, some Call)) :
    Call.Routine = (if o.NoWskSendMessages then .PolyfilledWskSendMessages o.RefCountAllocate
      else .WskSendMessages) ∧ Call.Buffers = .List Slots (NET_BUFFER_LIST_FIRST_NB FirstNbl) := by
  unfold SendAsync at h
  split at h
  · cases h
  · simp only [hp, Prod.mk.injEq, Option.some.injEq] at h
    rw [← h.2]
    exact ⟨rfl, rfl⟩

/-- A send whose provider call either hands the context's IRP to the
    provider or starts a polyfill run over a list of fewer than `2^32`
    buffers frees, over its whole life, what it frees on the path back
    through `SendComplete`: the polyfill calls `SendComplete` exactly once. -/
theorem SendLife.freesAll {r : SendResult} {e : List SendEvent} {n : Nat} (hlife : SendLife r e)
    (h : (r.Dispatched = none ∧ FreesAll n r.Events) ∨
      ∃ Ctx Call, r.Dispatched = some (Ctx, Call) ∧
        (Call.Routine.HandsIrp = true ∨
          Call.Routine = .PolyfilledWskSendMessages true ∧ ∃ Slots BufferList fuel Bufs,
            Call.Buffers = .List Slots BufferList ∧ walkWskBufList Slots fuel BufferList = some Bufs ∧
            Bufs.length < 2 ^ 32) ∧
        FreesAll n (r.Events ++ SendComplete Ctx)) :
    FreesAll n e := by
  rcases h with ⟨hnone, hfree⟩ | ⟨Ctx, Call, hd, hroute, hfree⟩
  · cases hlife with
    | returned => exact hfree
    | provider hd | polyfillReturned hd | polyfill hd => simp [hnone] at hd
  cases hlife with
  | returned hnone => simp [hnone] at hd
  | provider hd' =>
    cases hd.symm.trans hd'
    exact hfree
  | polyfillReturned hd' hr =>
    cases hd.symm.trans hd'
    rcases hroute with hh | ⟨hh, -⟩ <;> rw [hr] at hh <;> cases hh
  | @polyfill _ _ _ _ _ Bufs s hd' hr hbuf hwalk hreach hq =>
    cases hd.symm.trans hd'
    have hn : Bufs.length < 2 ^ 32 := by
      rcases hroute with hh | ⟨-, Slots, BufferList, fuel, Bufs', hbuf', hwalk', hn⟩
      · rw [hr] at hh
        cases hh
      · rw [hbuf] at hbuf'
        cases hbuf'
        exact walkWskBufList_unique hwalk hwalk' ▸ hn
    have hc : s.completions = 1 := ((hreach.inv hn).polyfillSafe.quiescent hq).1
    rw [hc, List.replicate_one, List.flatten_singleton]
    exact hfree

/-- How `SocketSendBufferToPeer` returns: having freed all it allocated,
    with no provider call; or holding the context and the MDL chain, handed
    to the provider with a call through `WskSendTo`. -/
theorem socketSendBufferToPeer_returns (o : SendOracle) (Resolved : NTSTATUS × ENDPOINT) (Len : BitVec 32)
    (c : TxCounters) :
    let r := SocketSendBufferToPeer o Resolved Len c
    (r.Dispatched = none ∧ FreesAll 0 r.Events) ∨
      (r.Events = [.ctxAllocate, .mdlAllocate] ∧ ∃ Ctx Call, r.Dispatched = some (Ctx, Call) ∧
        Ctx.IsNbl = false ∧ Call.Routine = .WskSendTo) := by
  unfold SocketSendBufferToPeer
  split
  · exact .inl ⟨rfl, rfl, rfl, rfl⟩
  split
  · exact .inl ⟨rfl, rfl, rfl, rfl⟩
  rename_i Mdl _
  split
  · exact .inl ⟨rfl, rfl, rfl, rfl⟩
  rcases sendAsync_cases o ⟨Resolved.2, .Buffer ⟨Mdl, 0, Len.setWidth 64⟩⟩ with h | ⟨Call, h⟩ <;>
    simp only [h]
  · exact .inl ⟨rfl, rfl, rfl, rfl⟩
  · exact .inr ⟨rfl, _, Call, rfl, rfl, sendAsync_routine_buffer rfl h⟩

/-- How `SocketSendBufferAsReplyToNbl` returns, once the parse of the
    incoming datagram has: as `SocketSendBufferToPeer` does. -/
theorem socketSendBufferAsReplyToNbl_returns {fuel : Nat} {o : SendOracle} {g4 g6 : BitVec 32}
    {InNbl : DatagramIndication} {Len : BitVec 32} {c : TxCounters} {r : SendResult}
    (h : SocketSendBufferAsReplyToNbl fuel o g4 g6 InNbl Len c = some r) :
    (r.Dispatched = none ∧ FreesAll 0 r.Events) ∨
      (r.Events = [.ctxAllocate, .mdlAllocate] ∧ ∃ Ctx Call, r.Dispatched = some (Ctx, Call) ∧
        Ctx.IsNbl = false ∧ Call.Routine = .WskSendTo) := by
  unfold SocketSendBufferAsReplyToNbl at h
  split at h
  · cases h
    exact .inl ⟨rfl, rfl, rfl, rfl⟩
  split at h
  · cases h
    exact .inl ⟨rfl, rfl, rfl, rfl⟩
  rename_i Mdl _
  obtain ⟨⟨Status, Endpoint⟩, -, rfl⟩ := Option.map_eq_some'.mp h
  simp only
  split
  · exact .inl ⟨rfl, rfl, rfl, rfl⟩
  rcases sendAsync_cases o ⟨Endpoint, .Buffer ⟨Mdl, 0, Len.setWidth 64⟩⟩ with h | ⟨Call, h⟩ <;>
    simp only [h]
  · exact .inl ⟨rfl, rfl, rfl, rfl⟩
  · exact .inr ⟨rfl, _, Call, rfl, rfl, sendAsync_routine_buffer rfl h⟩

/-- How `SocketSendNblsToPeer` returns: having freed all it allocated,
    the chain once if there was one, with no provider call; or holding the
    context and the chain, handed to the provider with a call through
    `WskSendMessages` or the polyfill over the list the loops linked. -/
theorem socketSendNblsToPeer_returns (KeepaliveLen : BitVec 32) (o : SendOracle) (Resolved : NTSTATUS × ENDPOINT)
    (First : List (List NET_BUFFER)) (Reserved : NbRef → WSK_BUF_LIST) (c : TxCounters) :
    let r := (SocketSendNblsToPeer KeepaliveLen o Resolved First Reserved c).1
    (r.Dispatched = none ∧ FreesAll (if First.isEmpty then 0 else 1) r.Events) ∨
      (r.Events = [.ctxAllocate] ∧ First.isEmpty = false ∧ ∃ Ctx Call, r.Dispatched = some (Ctx, Call) ∧
        Ctx.IsNbl = true ∧ Call.Routine = (if o.NoWskSendMessages then
          .PolyfilledWskSendMessages o.RefCountAllocate else .WskSendMessages) ∧
        Call.Buffers = .List (sendLoop KeepaliveLen First Reserved).Slots (NET_BUFFER_LIST_FIRST_NB First)) := by
  unfold SocketSendNblsToPeer
  split
  next hne => exact .inl ⟨rfl, rfl, rfl, by simp [hne]⟩
  rename_i hne
  split
  · exact .inl ⟨rfl, rfl, rfl, by simp [hne]⟩
  split
  · exact .inl ⟨rfl, rfl, rfl, by simp [hne]⟩
  rcases sendAsync_cases o ⟨Resolved.2, .FirstNbl First (sendLoop KeepaliveLen First Reserved).Slots⟩ with
    h | ⟨Call, h⟩ <;> simp only [h]
  · exact .inl ⟨rfl, rfl, rfl, by simp [hne, show NT_SUCCESS STATUS_NETWORK_UNREACHABLE = false by decide]⟩
  · exact .inr ⟨rfl, by simpa using hne, _, Call, rfl, rfl, sendAsync_firstNbl rfl h⟩

/-- A return that hands the provider a buffer through `WskSendTo` frees,
    over the send's whole life, all it allocated. -/
theorem SendLife.freesAll_of_buffer {r : SendResult} {e : List SendEvent} (hlife : SendLife r e)
    (h : (r.Dispatched = none ∧ FreesAll 0 r.Events) ∨
      (r.Events = [.ctxAllocate, .mdlAllocate] ∧ ∃ Ctx Call, r.Dispatched = some (Ctx, Call) ∧
        Ctx.IsNbl = false ∧ Call.Routine = .WskSendTo)) :
    FreesAll 0 e := by
  rcases h with h | ⟨hev, Ctx, Call, hd, hnbl, hroute⟩
  · exact hlife.freesAll (.inl h)
  · refine hlife.freesAll (.inr ⟨Ctx, Call, hd, .inl (by rw [hroute]; rfl), ?_⟩)
    simp [hev, SendComplete, hnbl, FreesAll]

/-- The two sends of a buffer, whatever the allocations, the resolve and the
    provider answer, and for the reply, whatever the incoming datagram whose
    control information `FindInCmsgHdr` walks to its end (a header with
    `cmsg_len` 0 would keep it walking): over the send's whole life the
    context goes back to the cache and the MDL chain is freed exactly as often
    as each was allocated. -/
theorem send_buffer_paths_free_all :
    (∀ (o : SendOracle) (Resolved : NTSTATUS × ENDPOINT) (Len : BitVec 32) (c : TxCounters) (e : List SendEvent),
      SendLife (SocketSendBufferToPeer o Resolved Len c) e → FreesAll 0 e) ∧
    (∀ (fuel : Nat) (o : SendOracle) (g4 g6 : BitVec 32) (InNbl : DatagramIndication) (Len : BitVec 32)
      (c : TxCounters) (r : SendResult) (e : List SendEvent),
      SocketSendBufferAsReplyToNbl fuel o g4 g6 InNbl Len c = some r → SendLife r e → FreesAll 0 e) :=
  ⟨fun o Resolved Len c _ hlife => hlife.freesAll_of_buffer (socketSendBufferToPeer_returns o Resolved Len c),
    fun _ _ _ _ _ _ _ _ _ h hlife => hlife.freesAll_of_buffer (socketSendBufferAsReplyToNbl_returns h)⟩

/-- A buffer of 148 bytes sent to a peer at `192.0.2.10`, and the provider
    completing the context's IRP. -/
theorem send_buffer_frees_all_after_completion :
    let o : SendOracle := ⟨true, some 1, true, true, false, true⟩
    let Endpoint : ENDPOINT :=
      { ENDPOINT.zero with Addr := ⟨AF_INET, 0x6CCA#16, 0x0A0200C0#32, 0, 0⟩, SrcCmsghdr := cmsghdrV4 }
    let r := SocketSendBufferToPeer o (STATUS_SUCCESS, Endpoint) 148#32 ⟨0, 0, 0, 0⟩
    ∃ e, SendLife r e ∧ FreesAll 0 e := by
  intro o Endpoint r
  obtain ⟨Ctx, Call, hd, hh⟩ : ∃ Ctx Call, r.Dispatched = some (Ctx, Call) ∧ Call.Routine.HandsIrp = true := by
    simp only [r, o, Endpoint]
    exact ⟨_, _, rfl, rfl⟩
  exact ⟨_, .provider hd hh, send_buffer_paths_free_all.1 _ _ _ _ _ (.provider hd hh)⟩

/-! ## Replies -/

/-- A reply that `SocketSendBufferAsReplyToNbl` hands the provider goes back
    to the datagram's sender: through `WskSendTo` on the socket of the
    datagram's family, to the endpoint the parse built from the datagram,
    whose remote address is the sender's and whose pkt-info, behind the
    control header the call passes, is the one found in the datagram. The
    reply leaves from the address and interface the datagram arrived on. -/
theorem socketSendBufferAsReplyToNbl_replies_to_sender {fuel : Nat} {o : SendOracle} {g4 g6 : BitVec 32}
    {InNbl : DatagramIndication} {Len : BitVec 32} {c : TxCounters} {r : SendResult}
    {Ctx : SOCKET_SEND_CTX} {Call : WskSendCall}
    (h : SocketSendBufferAsReplyToNbl fuel o g4 g6 InNbl Len c = some r) (hd : r.Dispatched = some (Ctx, Call)) :
    Call.Routine = .WskSendTo ∧ Call.Socket = InNbl.RemoteAddress.si_family ∧
      Call.RemoteAddress = Ctx.Endpoint.Addr ∧ Call.ControlInfo = Ctx.Endpoint.SrcCmsghdr ∧
      FromDatagram fuel InNbl Ctx.Endpoint := by
  obtain ⟨hp, hs⟩ := socketSendBufferAsReplyToNbl_dispatched h hd
  obtain ⟨hsock, -, haddr, hhdr, -⟩ := sendAsync_call hs
  have hfrom := socketEndpointFromNbl_fromDatagram hp
  have hroute : Call.Routine = .WskSendTo := by
    rcases socketSendBufferAsReplyToNbl_returns h with ⟨hn, -⟩ | ⟨-, Ctx', Call', hd', -, hroute⟩
    · simp [hn] at hd
    · cases hd.symm.trans hd'
      exact hroute
  have hfam : Ctx.Endpoint.Addr.si_family = InNbl.RemoteAddress.si_family := by
    obtain ⟨-, -, -, ⟨-, -, h4, -⟩ | ⟨-, -, h6, -⟩⟩ := hfrom
    · simpa using congrArg SOCKADDR_IN.sin_family h4
    · simpa using congrArg SOCKADDR_IN6.sin6_family h6
  exact ⟨hroute, hsock.trans hfam, haddr, hhdr, hfrom⟩

/-- A reply of 148 bytes to the datagram with one `IP_PKTINFO` header. -/
theorem socketSendBufferAsReplyToNbl_replies_on_one_pktinfo :
    let mem : Nat → BitVec 8 := fun i => if i = 0 then 28#8 else if i = 12 then 19#8 else 0#8
    let Data : DatagramIndication := ⟨⟨AF_INET, 0x6CCA#16, 0x0A0200C0#32, 0, 0⟩, 32#64, some mem⟩
    let o : SendOracle := ⟨true, some 1, true, true, false, true⟩
    ∃ r Ctx Call, SocketSendBufferAsReplyToNbl 2 o 1#32 1#32 Data 148#32 ⟨0, 0, 0, 0⟩ = some r ∧
      r.Dispatched = some (Ctx, Call) ∧
      Call.Routine = .WskSendTo ∧ Call.Socket = Data.RemoteAddress.si_family ∧
      Call.RemoteAddress = Ctx.Endpoint.Addr ∧ Call.ControlInfo = Ctx.Endpoint.SrcCmsghdr ∧
      FromDatagram 2 Data Ctx.Endpoint := by
  intro mem Data o
  obtain ⟨r, hr, Ctx, Call, hd⟩ : ∃ r, SocketSendBufferAsReplyToNbl 2 o 1#32 1#32 Data 148#32 ⟨0, 0, 0, 0⟩ = some r ∧
      ∃ Ctx Call, r.Dispatched = some (Ctx, Call) := by
    simp only [mem, Data, o]
    exact ⟨_, rfl, _, _, rfl⟩
  exact ⟨r, Ctx, Call, hr, hd, socketSendBufferAsReplyToNbl_replies_to_sender hr hd⟩

end wireguard
