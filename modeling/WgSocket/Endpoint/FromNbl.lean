import WgSocket.Endpoint.Update

namespace wireguard

/-- The little-endian `UINT32` at byte `off` of a buffer. -/
def load32 (mem : Nat → BitVec 8) (off : Nat) : BitVec 32 :=
  mem (off + 3) ++ mem (off + 2) ++ mem (off + 1) ++ mem off

/-- The little-endian `UINT64` at byte `off` of a buffer. -/
def load64 (mem : Nat → BitVec 8) (off : Nat) : BitVec 64 := load32 mem (off + 4) ++ load32 mem off

def readCmsghdr (mem : Nat → BitVec 8) (off : Nat) : WSACMSGHDR :=
  ⟨load64 mem off, load32 mem (off + 8), load32 mem (off + 12)⟩

def readInPktinfo (mem : Nat → BitVec 8) (off : Nat) : IN_PKTINFO :=
  ⟨load32 mem off, load32 mem (off + 4)⟩

def readIn6Pktinfo (mem : Nat → BitVec 8) (off : Nat) : IN6_PKTINFO :=
  ⟨load64 mem (off + 8) ++ load64 mem off, load32 mem (off + 16)⟩

/-- The parts of a `WSK_DATAGRAM_INDICATION` the endpoint parser reads: the
    remote address, and `ControlInfoLength` with the memory from `ControlInfo`
    on (`none` for a `NULL` pointer). -/
structure DatagramIndication where
  RemoteAddress : SOCKADDR_INET
  ControlInfoLength : BitVec 64
  ControlInfo : Option (Nat → BitVec 8)

/-- The walk of `FindInCmsgHdr` from the header at byte `Hdr`, with `Len`
    bytes left, for at most `fuel` headers: `none` if it has not ended by then,
    otherwise `NULL` or the offset of the data of the header found. -/
def findInCmsgHdrFrom (mem : Nat → BitVec 8) (Level CmsgType : BitVec 32) :
    Nat → BitVec 64 → Nat → Option (Option Nat)
  | 0, _, _ => none
  | fuel + 1, Len, Hdr =>
    if 0#64 < Len then
      let h := readCmsghdr mem Hdr
      if h.cmsg_level == Level && h.cmsg_type == CmsgType then
        some (some (Hdr + (WSA_CMSGDATA_ALIGN sizeof_WSACMSGHDR).toNat))
      else findInCmsgHdrFrom mem Level CmsgType fuel (Len - WSA_CMSGHDR_ALIGN h.cmsg_len)
        (Hdr + (WSA_CMSGHDR_ALIGN h.cmsg_len).toNat)
    else some none

def FindInCmsgHdr (fuel : Nat) (Data : DatagramIndication) (Level CmsgType : BitVec 32) : Option (Option Nat) :=
  match Data.ControlInfo with
  | none => some none
  | some mem => findInCmsgHdrFrom mem Level CmsgType fuel Data.ControlInfoLength 0

/-- A header that does not match sends the walk on by its aligned length. -/
theorem findInCmsgHdrFrom_succ_of_miss {mem : Nat → BitVec 8} {Level CmsgType : BitVec 32} {fuel : Nat}
    {Len : BitVec 64} {Hdr : Nat} (hLen : 0#64 < Len)
    (hmiss : ¬((readCmsghdr mem Hdr).cmsg_level = Level ∧ (readCmsghdr mem Hdr).cmsg_type = CmsgType)) :
    findInCmsgHdrFrom mem Level CmsgType (fuel + 1) Len Hdr =
      findInCmsgHdrFrom mem Level CmsgType fuel (Len - WSA_CMSGHDR_ALIGN (readCmsghdr mem Hdr).cmsg_len)
        (Hdr + (WSA_CMSGHDR_ALIGN (readCmsghdr mem Hdr).cmsg_len).toNat) := by
  rw [findInCmsgHdrFrom, if_pos hLen]
  simp only [Bool.and_eq_true, beq_iff_eq, hmiss, if_false]

/-- A header that does not match and whose aligned length is zero leaves
    `Len` and `Hdr` as they are: the walk never returns, whatever the fuel. -/
theorem findInCmsgHdrFrom_stuck {mem : Nat → BitVec 8} {Level CmsgType : BitVec 32} {Len : BitVec 64}
    {Hdr : Nat} (hLen : 0#64 < Len)
    (hmiss : ¬((readCmsghdr mem Hdr).cmsg_level = Level ∧ (readCmsghdr mem Hdr).cmsg_type = CmsgType))
    (hzero : WSA_CMSGHDR_ALIGN (readCmsghdr mem Hdr).cmsg_len = 0#64) :
    ∀ fuel, findInCmsgHdrFrom mem Level CmsgType fuel Len Hdr = none
  | 0 => rfl
  | fuel + 1 => by
    rw [findInCmsgHdrFrom_succ_of_miss hLen hmiss, hzero, BitVec.sub_zero]
    exact findInCmsgHdrFrom_stuck hLen hmiss hzero fuel

/-- The `else if` arm of `SocketEndpointFromNbl`: an IPv6 remote address with
    its `IPV6_PKTINFO`, or `STATUS_INVALID_ADDRESS` on the zeroed endpoint. -/
def endpointFromNblV6 (fuel : Nat) (RoutingGenerationV6 : BitVec 32) (Data : DatagramIndication) :
    Option (NTSTATUS × ENDPOINT) :=
  if Data.RemoteAddress.si_family == AF_INET6 then
    (FindInCmsgHdr fuel Data IPPROTO_IPV6 IPV6_PKTINFO).map fun
      | some Pktinfo =>
        (STATUS_SUCCESS, { ENDPOINT.zero with
          Addr := ENDPOINT.zero.Addr.setIpv6 Data.RemoteAddress.Ipv6,
          Src := ENDPOINT.zero.Src.setSrc6 (Data.ControlInfo.elim ⟨0, 0⟩ (readIn6Pktinfo · Pktinfo)),
          RoutingGeneration := RoutingGenerationV6, SrcCmsghdr := cmsghdrV6 })
      | none => (STATUS_INVALID_ADDRESS, ENDPOINT.zero)
  else some (STATUS_INVALID_ADDRESS, ENDPOINT.zero)

/-- `SocketEndpointFromNbl` on the indication an NBL carries, given the global
    routing generations; `none` if `FindInCmsgHdr` has not returned within
    `fuel` headers. The endpoint is zeroed first, so a failure leaves it zero. -/
def SocketEndpointFromNbl (fuel : Nat) (RoutingGenerationV4 RoutingGenerationV6 : BitVec 32)
    (Data : DatagramIndication) : Option (NTSTATUS × ENDPOINT) :=
  if Data.RemoteAddress.si_family == AF_INET then
    (FindInCmsgHdr fuel Data IPPROTO_IP IP_PKTINFO).bind fun
      | some Pktinfo =>
        some (STATUS_SUCCESS, { ENDPOINT.zero with
          Addr := ENDPOINT.zero.Addr.setIpv4 Data.RemoteAddress.Ipv4,
          Src := ENDPOINT.zero.Src.setSrc4 (Data.ControlInfo.elim ⟨0, 0⟩ (readInPktinfo · Pktinfo)),
          RoutingGeneration := RoutingGenerationV4, SrcCmsghdr := cmsghdrV4 })
      | none => endpointFromNblV6 fuel RoutingGenerationV6 Data
  else endpointFromNblV6 fuel RoutingGenerationV6 Data

/-- What a parse can end in: a failure with the endpoint left zero, or
    success with an endpoint of one family and the control header of that
    family. -/
def FromNblResult (Status : NTSTATUS) (e : ENDPOINT) : Prop :=
  (Status = STATUS_INVALID_ADDRESS ∧ e = ENDPOINT.zero) ∨
  (Status = STATUS_SUCCESS ∧ (e.Addr.si_family = AF_INET ∧ e.SrcCmsghdr = cmsghdrV4 ∨
    e.Addr.si_family = AF_INET6 ∧ e.SrcCmsghdr = cmsghdrV6))

theorem endpointFromNblV6_result {fuel : Nat} {g6 : BitVec 32} {Data : DatagramIndication}
    {Status : NTSTATUS} {e : ENDPOINT} (h : endpointFromNblV6 fuel g6 Data = some (Status, e)) :
    FromNblResult Status e := by
  unfold endpointFromNblV6 at h
  split at h
  next h6 =>
    obtain ⟨p, -, hp⟩ := Option.map_eq_some'.mp h
    split at hp <;> cases hp
    · exact .inr ⟨rfl, .inr ⟨by simpa using h6, rfl⟩⟩
    · exact .inl ⟨rfl, rfl⟩
  next => cases h; exact .inl ⟨rfl, rfl⟩

theorem socketEndpointFromNbl_result {fuel : Nat} {g4 g6 : BitVec 32} {Data : DatagramIndication}
    {Status : NTSTATUS} {e : ENDPOINT} (h : SocketEndpointFromNbl fuel g4 g6 Data = some (Status, e)) :
    FromNblResult Status e := by
  unfold SocketEndpointFromNbl at h
  split at h
  next h4 =>
    obtain ⟨p, -, hp⟩ := Option.bind_eq_some.mp h
    split at hp
    · cases hp; exact .inr ⟨rfl, .inl ⟨by simpa using h4, rfl⟩⟩
    · exact endpointFromNblV6_result hp
  next => exact endpointFromNblV6_result h

/-- Two datagrams from `192.0.2.10` with sixteen bytes of control information.
    In the first every byte is zero: its header has `cmsg_len` 0 and type 0,
    not `IP_PKTINFO`, so the walk stays on it and `SocketEndpointFromNbl`
    returns nothing for any fuel. In the second the header announces 32
    bytes: `Len` wraps below zero, the walk reads a second header at byte 32,
    past the sixteen, and the parse takes its `IP_PKTINFO` from byte 48. -/
theorem socketEndpointFromNbl_on_malformed_cmsghdr :
    let Addr : SOCKADDR_INET := ⟨AF_INET, 0x6CCA#16, 0x0A0200C0#32, 0, 0⟩
    let Overlong : Nat → BitVec 8 := fun i => if i = 0 then 32#8 else if i = 44 then 19#8 else 0#8
    (∀ fuel g4 g6, SocketEndpointFromNbl fuel g4 g6 ⟨Addr, 16#64, some fun _ => 0#8⟩ = none) ∧
    FindInCmsgHdr 2 ⟨Addr, 16#64, some Overlong⟩ IPPROTO_IP IP_PKTINFO = some (some 48) ∧
    ∀ g4 g6, (SocketEndpointFromNbl 2 g4 g6 ⟨Addr, 16#64, some Overlong⟩).map Prod.fst =
      some STATUS_SUCCESS := by
  intro Addr Overlong
  have hfind : FindInCmsgHdr 2 ⟨Addr, 16#64, some Overlong⟩ IPPROTO_IP IP_PKTINFO = some (some 48) := by
    decide
  refine ⟨fun fuel g4 g6 => ?_, hfind, fun g4 g6 => ?_⟩
  · have h := @findInCmsgHdrFrom_stuck (fun _ => 0#8) IPPROTO_IP IP_PKTINFO 16#64 0 (by decide) (by decide)
      (by decide) fuel
    simp [SocketEndpointFromNbl, FindInCmsgHdr, Addr, h]
  · rw [SocketEndpointFromNbl, if_pos (by decide), hfind]
    rfl

/-- Lines 569-577: the peer endpoint after a datagram from the peer, set only
    if the parse succeeds; `none` if the parse has not returned within `fuel`
    headers. -/
def SocketSetPeerEndpointFromNbl (fuel : Nat) (RoutingGenerationV4 RoutingGenerationV6 : BitVec 32)
    (Peer : ENDPOINT) (Data : DatagramIndication) : Option ENDPOINT :=
  (SocketEndpointFromNbl fuel RoutingGenerationV4 RoutingGenerationV6 Data).map fun (Status, Endpoint) =>
    if NT_SUCCESS Status then SocketSetPeerEndpoint Peer Endpoint else Peer

/-! ## What a parse keeps of the datagram -/

/-- What an endpoint built from a datagram says about it: the sender, in the
    view of its family, the control header of that family, and the pkt-info
    of the header `FindInCmsgHdr` finds for that family in the datagram's
    control information, that is the address and interface the datagram
    arrived on. -/
def FromDatagram (fuel : Nat) (Data : DatagramIndication) (E : ENDPOINT) : Prop :=
  ∃ mem Pktinfo, Data.ControlInfo = some mem ∧
    (Data.RemoteAddress.si_family = AF_INET ∧ FindInCmsgHdr fuel Data IPPROTO_IP IP_PKTINFO = some (some Pktinfo) ∧
      E.Addr.Ipv4 = Data.RemoteAddress.Ipv4 ∧ E.SrcCmsghdr = cmsghdrV4 ∧ E.Src4 = readInPktinfo mem Pktinfo ∨
     Data.RemoteAddress.si_family = AF_INET6 ∧
      FindInCmsgHdr fuel Data IPPROTO_IPV6 IPV6_PKTINFO = some (some Pktinfo) ∧
      E.Addr.Ipv6 = Data.RemoteAddress.Ipv6 ∧ E.SrcCmsghdr = cmsghdrV6 ∧ E.Src6 = readIn6Pktinfo mem Pktinfo)

/-- A header found means there is control information to find it in. -/
theorem findInCmsgHdr_controlInfo {fuel : Nat} {Data : DatagramIndication} {Level CmsgType : BitVec 32}
    {Pktinfo : Nat} (h : FindInCmsgHdr fuel Data Level CmsgType = some (some Pktinfo)) :
    ∃ mem, Data.ControlInfo = some mem := by
  unfold FindInCmsgHdr at h
  split at h
  · cases h
  next mem hmem => exact ⟨mem, hmem⟩

theorem endpointFromNblV6_fromDatagram {fuel : Nat} {g6 : BitVec 32} {Data : DatagramIndication} {E : ENDPOINT}
    (h : endpointFromNblV6 fuel g6 Data = some (STATUS_SUCCESS, E)) : FromDatagram fuel Data E := by
  have hne : STATUS_INVALID_ADDRESS ≠ STATUS_SUCCESS := by decide
  unfold endpointFromNblV6 at h
  split at h
  next h6 =>
    obtain ⟨p, hp, hq⟩ := Option.map_eq_some'.mp h
    split at hq
    next Pktinfo =>
      cases hq
      obtain ⟨mem, hmem⟩ := findInCmsgHdr_controlInfo hp
      exact ⟨mem, Pktinfo, hmem, .inr ⟨by simpa using h6, hp, rfl, rfl, by simp [ENDPOINT.Src6, hmem]⟩⟩
    next => exact absurd (congrArg Prod.fst hq) hne
  next => exact absurd (congrArg Prod.fst (Option.some.inj h)) hne

/-- A successful parse keeps the sender and the pkt-info it found. -/
theorem socketEndpointFromNbl_fromDatagram {fuel : Nat} {g4 g6 : BitVec 32} {Data : DatagramIndication}
    {E : ENDPOINT} (h : SocketEndpointFromNbl fuel g4 g6 Data = some (STATUS_SUCCESS, E)) :
    FromDatagram fuel Data E := by
  unfold SocketEndpointFromNbl at h
  split at h
  next h4 =>
    obtain ⟨p, hp, hq⟩ := Option.bind_eq_some.mp h
    split at hq
    next Pktinfo =>
      cases hq
      obtain ⟨mem, hmem⟩ := findInCmsgHdr_controlInfo hp
      exact ⟨mem, Pktinfo, hmem, .inl ⟨by simpa using h4, hp, by simp, rfl, by simp [ENDPOINT.Src4, hmem]⟩⟩
    next => exact endpointFromNblV6_fromDatagram hq
  next => exact endpointFromNblV6_fromDatagram h

/-- Two endpoints that agree with a third on what `SendAsync` hands the
    provider agree with each other. -/
theorem SameDestination.trans {A B C : ENDPOINT} (hAB : SameDestination A B) (hBC : SameDestination B C) :
    SameDestination A C := by
  obtain ⟨hf, hp, hc, h4, h6⟩ := hAB
  obtain ⟨hf', hp', hc', h4', h6'⟩ := hBC
  refine ⟨hf.trans hf', hp.trans hp', hc.trans hc', fun h => ?_, fun h => ?_⟩
  · obtain ⟨ha, hs, hi⟩ := h4 h
    obtain ⟨ha', hs', hi'⟩ := h4' (hf ▸ h)
    exact ⟨ha.trans ha', hs.trans hs', hi.trans hi'⟩
  · obtain ⟨ha, hz, hs, hi⟩ := h6 h
    obtain ⟨ha', hz', hs', hi'⟩ := h6' (hf ▸ h)
    exact ⟨ha.trans ha', hz.trans hz', hs.trans hs', hi.trans hi'⟩

/-- What the exclusive section writes agrees with its argument, when the
    argument carries the control header of its family. -/
theorem sameDestination_setPeerEndpointLocked {P E : ENDPOINT}
    (hE : E.Addr.si_family = AF_INET ∧ E.SrcCmsghdr = cmsghdrV4 ∨
      E.Addr.si_family = AF_INET6 ∧ E.SrcCmsghdr = cmsghdrV6) :
    SameDestination E (SetPeerEndpointLocked P E) := by
  rcases hE with ⟨h4, hc⟩ | ⟨h6, hc⟩
  · rw [setPeerEndpointLocked_of_ipv4 h4]
    exact ⟨rfl, rfl, hc, fun _ => ⟨rfl, rfl, rfl⟩, fun h => absurd (h4.symm.trans h) (by decide)⟩
  · rw [setPeerEndpointLocked_of_ipv6 h6]
    exact ⟨rfl, rfl, hc, fun h => absurd (h6.symm.trans h) (by decide),
      fun _ => ⟨rfl, rfl, by simp [ENDPOINT.Src6], rfl⟩⟩

/-- A datagram whose parse succeeds leaves the peer endpoint, from every state
    the endpoint operations reach, agreeing on all that `SendAsync` hands the
    provider with the endpoint a reply to that datagram goes to, whether
    `SocketSetPeerEndpoint` took the unlocked fast-out or wrote. -/
theorem socketSetPeerEndpointFromNbl_agrees_with_reply {fuel : Nat} {g4 g6 : BitVec 32} {Peer E : ENDPOINT}
    {Data : DatagramIndication} (hP : SlotReachable Peer)
    (hE : SocketEndpointFromNbl fuel g4 g6 Data = some (STATUS_SUCCESS, E)) :
    ∃ Peer', SocketSetPeerEndpointFromNbl fuel g4 g6 Peer Data = some Peer' ∧ SameDestination E Peer' := by
  have hf : E.Addr.si_family = AF_INET ∧ E.SrcCmsghdr = cmsghdrV4 ∨
      E.Addr.si_family = AF_INET6 ∧ E.SrcCmsghdr = cmsghdrV6 := by
    rcases socketEndpointFromNbl_result hE with ⟨h, -⟩ | ⟨-, hf⟩
    · exact absurd h (by decide)
    · exact hf
  have hlocked : SameDestination E (SetPeerEndpointLocked Peer E) := sameDestination_setPeerEndpointLocked hf
  refine ⟨SocketSetPeerEndpoint Peer E, by simp [SocketSetPeerEndpointFromNbl, hE], ?_⟩
  unfold SocketSetPeerEndpoint
  split
  next heq => exact hlocked.trans ((endpointEq_iff_sameDestination (hf.imp And.left And.left) hP.slotInv).mp heq)
  next => exact hlocked

/-- The datagram with one `IP_PKTINFO` header, met by a peer endpoint still
    zero. -/
theorem socketSetPeerEndpointFromNbl_agrees_with_reply_on_one_pktinfo :
    let mem : Nat → BitVec 8 := fun i => if i = 0 then 28#8 else if i = 12 then 19#8 else 0#8
    let Data : DatagramIndication := ⟨⟨AF_INET, 0x6CCA#16, 0x0A0200C0#32, 0, 0⟩, 32#64, some mem⟩
    let E : ENDPOINT := { ENDPOINT.zero with
      Addr := ENDPOINT.zero.Addr.setIpv4 Data.RemoteAddress.Ipv4,
      Src := ENDPOINT.zero.Src.setSrc4 (readInPktinfo mem 16), RoutingGeneration := 1#32, SrcCmsghdr := cmsghdrV4 }
    SlotReachable ENDPOINT.zero ∧ SocketEndpointFromNbl 2 1#32 1#32 Data = some (STATUS_SUCCESS, E) ∧
      ∃ Peer', SocketSetPeerEndpointFromNbl 2 1#32 1#32 ENDPOINT.zero Data = some Peer' ∧ SameDestination E Peer' := by
  intro mem Data E
  have hE : SocketEndpointFromNbl 2 1#32 1#32 Data = some (STATUS_SUCCESS, E) := by decide
  exact ⟨.zero, hE, socketSetPeerEndpointFromNbl_agrees_with_reply .zero hE⟩

/-! ## Well-formed control information -/

/-- The control headers at `Hdrs`, from byte `Hdr` with `Len` bytes of
    `ControlInfoLength` left, as a provider lays them out: each announces a
    positive aligned length that fits in what is left, the next header starts
    there, and the last ends exactly at `ControlInfoLength`. -/
inductive CmsgChain (mem : Nat → BitVec 8) : Nat → BitVec 64 → List Nat → Prop
  | nil (Hdr : Nat) : CmsgChain mem Hdr 0#64 []
  | cons {Hdr : Nat} {Len : BitVec 64} {Hdrs : List Nat} :
      0#64 < WSA_CMSGHDR_ALIGN (readCmsghdr mem Hdr).cmsg_len →
      WSA_CMSGHDR_ALIGN (readCmsghdr mem Hdr).cmsg_len ≤ Len →
      CmsgChain mem (Hdr + (WSA_CMSGHDR_ALIGN (readCmsghdr mem Hdr).cmsg_len).toNat)
        (Len - WSA_CMSGHDR_ALIGN (readCmsghdr mem Hdr).cmsg_len) Hdrs →
      CmsgChain mem Hdr Len (Hdr :: Hdrs)

/-- Whether the header at `Hdr` has the level and type asked for. -/
def cmsgMatches (mem : Nat → BitVec 8) (Level CmsgType : BitVec 32) (Hdr : Nat) : Bool :=
  (readCmsghdr mem Hdr).cmsg_level == Level && (readCmsghdr mem Hdr).cmsg_type == CmsgType

/-- On a well-formed chain the walk ends within one step per header, with
    the data of the first header, in walk order, of the level and type
    asked for, or with `NULL`. -/
theorem CmsgChain.findInCmsgHdrFrom_eq {mem : Nat → BitVec 8} {Level CmsgType : BitVec 32} {Hdr : Nat}
    {Len : BitVec 64} {Hdrs : List Nat} (h : CmsgChain mem Hdr Len Hdrs) :
    ∀ fuel, Hdrs.length < fuel → findInCmsgHdrFrom mem Level CmsgType fuel Len Hdr =
      some ((Hdrs.find? (cmsgMatches mem Level CmsgType)).map (· + (WSA_CMSGDATA_ALIGN sizeof_WSACMSGHDR).toNat)) := by
  induction h with
  | nil Hdr =>
    rintro (_ | fuel) hfuel
    · exact absurd hfuel (Nat.lt_irrefl 0)
    · rw [findInCmsgHdrFrom, if_neg (BitVec.lt_irrefl _)]
      rfl
  | @cons Hdr Len Hdrs hpos hle _ ih =>
    rintro (_ | fuel) hfuel
    · exact absurd hfuel (Nat.not_lt_zero _)
    rw [findInCmsgHdrFrom, if_pos (BitVec.lt_def.mpr (Nat.lt_of_lt_of_le hpos hle))]
    by_cases hm : cmsgMatches mem Level CmsgType Hdr = true
    · rw [List.find?_cons_of_pos _ hm]
      simp only [cmsgMatches] at hm
      simp [hm]
    · rw [List.find?_cons_of_neg _ hm]
      simp only [cmsgMatches] at hm
      simp only [hm, Bool.false_eq_true, if_false]
      exact ih fuel (Nat.lt_of_succ_lt_succ hfuel)

/-- On control information the provider laid out as a chain of headers,
    `FindInCmsgHdr` returns once the fuel exceeds the number of headers, with
    the data of the first header of the level and type asked for, or `NULL`
    if there is none. -/
theorem findInCmsgHdr_of_cmsgChain {fuel : Nat} {Data : DatagramIndication} {mem : Nat → BitVec 8}
    {Hdrs : List Nat} (Level CmsgType : BitVec 32) (hmem : Data.ControlInfo = some mem)
    (hchain : CmsgChain mem 0 Data.ControlInfoLength Hdrs) (hfuel : Hdrs.length < fuel) :
    FindInCmsgHdr fuel Data Level CmsgType =
      some ((Hdrs.find? (cmsgMatches mem Level CmsgType)).map (· + (WSA_CMSGDATA_ALIGN sizeof_WSACMSGHDR).toNat)) := by
  rw [FindInCmsgHdr, hmem]
  exact hchain.findInCmsgHdrFrom_eq fuel hfuel

/-- A datagram from `192.0.2.10` whose control information is one
    `IP_PKTINFO` header of 28 bytes, padded to 32: a chain of one header. -/
theorem findInCmsgHdr_on_one_pktinfo :
    let mem : Nat → BitVec 8 := fun i => if i = 0 then 28#8 else if i = 12 then 19#8 else 0#8
    let Data : DatagramIndication := ⟨⟨AF_INET, 0x6CCA#16, 0x0A0200C0#32, 0, 0⟩, 32#64, some mem⟩
    Data.ControlInfo = some mem ∧ CmsgChain mem 0 Data.ControlInfoLength [0] ∧ [0].length < 2 ∧
      FindInCmsgHdr 2 Data IPPROTO_IP IP_PKTINFO =
        some (([0].find? (cmsgMatches mem IPPROTO_IP IP_PKTINFO)).map
          (· + (WSA_CMSGDATA_ALIGN sizeof_WSACMSGHDR).toNat)) := by
  intro mem Data
  have hend : Data.ControlInfoLength - WSA_CMSGHDR_ALIGN (readCmsghdr mem 0).cmsg_len = 0#64 := by decide
  have hc : CmsgChain mem 0 Data.ControlInfoLength [0] := .cons (by decide) (by decide) (hend ▸ .nil _)
  exact ⟨rfl, hc, by decide, findInCmsgHdr_of_cmsgChain _ _ rfl hc (by decide)⟩

/-- On well-formed control information `SocketEndpointFromNbl` always
    returns, and succeeds exactly when the datagram came over IPv4 with an
    `IP_PKTINFO` header or over IPv6 with an `IPV6_PKTINFO` header. -/
theorem socketEndpointFromNbl_of_cmsgChain {fuel : Nat} {Data : DatagramIndication} {mem : Nat → BitVec 8}
    {Hdrs : List Nat} (g4 g6 : BitVec 32) (hmem : Data.ControlInfo = some mem)
    (hchain : CmsgChain mem 0 Data.ControlInfoLength Hdrs) (hfuel : Hdrs.length < fuel) :
    ∃ Status e, SocketEndpointFromNbl fuel g4 g6 Data = some (Status, e) ∧
      (Status = STATUS_SUCCESS ↔
        Data.RemoteAddress.si_family = AF_INET ∧ (∃ h ∈ Hdrs, cmsgMatches mem IPPROTO_IP IP_PKTINFO h) ∨
        Data.RemoteAddress.si_family = AF_INET6 ∧ (∃ h ∈ Hdrs, cmsgMatches mem IPPROTO_IPV6 IPV6_PKTINFO h)) := by
  have h4 : findInCmsgHdrFrom mem IPPROTO_IP IP_PKTINFO fuel _ 0 = _ := hchain.findInCmsgHdrFrom_eq fuel hfuel
  have h6 : findInCmsgHdrFrom mem IPPROTO_IPV6 IPV6_PKTINFO fuel _ 0 = _ := hchain.findInCmsgHdrFrom_eq fuel hfuel
  have hne : STATUS_INVALID_ADDRESS ≠ STATUS_SUCCESS := by decide
  have hfam : AF_INET ≠ AF_INET6 := by decide
  simp only [SocketEndpointFromNbl, endpointFromNblV6, FindInCmsgHdr, hmem, h4, h6, ← List.find?_isSome]
  by_cases hf4 : Data.RemoteAddress.si_family = AF_INET
  · cases List.find? (cmsgMatches mem IPPROTO_IP IP_PKTINFO) Hdrs <;> simp [hf4, hfam, hne]
  · cases List.find? (cmsgMatches mem IPPROTO_IPV6 IPV6_PKTINFO) Hdrs <;>
      by_cases hf6 : Data.RemoteAddress.si_family = AF_INET6 <;> simp [hf4, hf6, hne, hfam.symm]

theorem socketEndpointFromNbl_on_one_pktinfo :
    let mem : Nat → BitVec 8 := fun i => if i = 0 then 28#8 else if i = 12 then 19#8 else 0#8
    let Data : DatagramIndication := ⟨⟨AF_INET, 0x6CCA#16, 0x0A0200C0#32, 0, 0⟩, 32#64, some mem⟩
    Data.ControlInfo = some mem ∧ CmsgChain mem 0 Data.ControlInfoLength [0] ∧ [0].length < 2 ∧
      ∃ Status e, SocketEndpointFromNbl 2 0 0 Data = some (Status, e) ∧
        (Status = STATUS_SUCCESS ↔
          Data.RemoteAddress.si_family = AF_INET ∧ (∃ h ∈ [0], cmsgMatches mem IPPROTO_IP IP_PKTINFO h) ∨
          Data.RemoteAddress.si_family = AF_INET6 ∧ (∃ h ∈ [0], cmsgMatches mem IPPROTO_IPV6 IPV6_PKTINFO h)) := by
  intro mem Data
  have hend : Data.ControlInfoLength - WSA_CMSGHDR_ALIGN (readCmsghdr mem 0).cmsg_len = 0#64 := by decide
  have hc : CmsgChain mem 0 Data.ControlInfoLength [0] := .cons (by decide) (by decide) (hend ▸ .nil _)
  exact ⟨rfl, hc, by decide, socketEndpointFromNbl_of_cmsgChain _ _ rfl hc (by decide)⟩

end wireguard
