import WgSocket.Basic

namespace wireguard

/-- `SocketSetPeerEndpoint` past its unlocked fast-out: the exclusive section
    that copies the address, the source and the control header of the
    argument's family, its routing generation, and bumps `UpdateGeneration`.
    An argument of any other family leaves the endpoint as it is. -/
def SetPeerEndpointLocked (Peer Endpoint : ENDPOINT) : ENDPOINT :=
  if Endpoint.Addr.si_family == AF_INET then
    { Peer with Addr := Peer.Addr.setIpv4 Endpoint.Addr.Ipv4, Src := Peer.Src.setSrc4 Endpoint.Src4,
                SrcCmsghdr := cmsghdrV4, RoutingGeneration := Endpoint.RoutingGeneration,
                UpdateGeneration := Peer.UpdateGeneration + 1 }
  else if Endpoint.Addr.si_family == AF_INET6 then
    { Peer with Addr := Peer.Addr.setIpv6 Endpoint.Addr.Ipv6, Src := Peer.Src.setSrc6 Endpoint.Src6,
                SrcCmsghdr := cmsghdrV6, RoutingGeneration := Endpoint.RoutingGeneration,
                UpdateGeneration := Peer.UpdateGeneration + 1 }
  else Peer

/-- `SocketClearPeerEndpointSrc`: the source union zeroed at its IPv6 size,
    which covers the IPv4 view. -/
def SocketClearPeerEndpointSrc (Peer : ENDPOINT) : ENDPOINT :=
  { Peer with RoutingGeneration := 0, UpdateGeneration := Peer.UpdateGeneration + 1, Src := PKTINFO.zero }

/-- The writes of `SocketResolvePeerEndpointSrc`'s exclusive section once the
    update generation matched its snapshot: the source found for the
    endpoint's family, stamped with that family's global routing generation
    as read now, and the `BestIndex` the resolver goes on with (cleared for a
    family that is neither). -/
def CommitSrc (Peer : ENDPOINT) (RoutingGenerationV4 RoutingGenerationV6 : BitVec 32)
    (SrcAddr : SOCKADDR_INET) (BestIndex : BitVec 32) : ENDPOINT × BitVec 32 :=
  if Peer.Addr.si_family == AF_INET then
    ({ Peer with RoutingGeneration := RoutingGenerationV4,
                 Src := Peer.Src.setSrc4 ⟨SrcAddr.Ipv4.sin_addr, BestIndex⟩, SrcCmsghdr := cmsghdrV4,
                 UpdateGeneration := Peer.UpdateGeneration + 1 }, BestIndex)
  else if Peer.Addr.si_family == AF_INET6 then
    ({ Peer with RoutingGeneration := RoutingGenerationV6,
                 Src := Peer.Src.setSrc6 ⟨SrcAddr.Ipv6.sin6_addr, BestIndex⟩, SrcCmsghdr := cmsghdrV6,
                 UpdateGeneration := Peer.UpdateGeneration + 1 }, BestIndex)
  else ({ Peer with UpdateGeneration := Peer.UpdateGeneration + 1 }, 0)

/-- `Ipv6AddrEq`: the two `UINT64` halves compared by XOR and OR. -/
def Ipv6AddrEq (A1 A2 : IN6_ADDR) : Bool :=
  ((A1.extractLsb' 0 64 ^^^ A2.extractLsb' 0 64) ||| (A1.extractLsb' 64 64 ^^^ A2.extractLsb' 64 64)) == 0#64

def EndpointEq (A B : ENDPOINT) : Bool :=
  (A.Addr.si_family == AF_INET && B.Addr.si_family == AF_INET &&
    A.Addr.Ipv4.sin_port == B.Addr.Ipv4.sin_port &&
    A.Addr.Ipv4.sin_addr == B.Addr.Ipv4.sin_addr &&
    A.Src4.ipi_addr == B.Src4.ipi_addr && A.Src4.ipi_ifindex == B.Src4.ipi_ifindex) ||
  (A.Addr.si_family == AF_INET6 && B.Addr.si_family == AF_INET6 &&
    A.Addr.Ipv6.sin6_port == B.Addr.Ipv6.sin6_port &&
    Ipv6AddrEq A.Addr.Ipv6.sin6_addr B.Addr.Ipv6.sin6_addr &&
    A.Addr.Ipv6.sin6_scope_id == B.Addr.Ipv6.sin6_scope_id &&
    Ipv6AddrEq A.Src6.ipi6_addr B.Src6.ipi6_addr && A.Src6.ipi6_ifindex == B.Src6.ipi6_ifindex) ||
  (A.Addr.si_family == 0#16 && B.Addr.si_family == 0#16)

/-- `SocketSetPeerEndpoint` run alone: the unlocked comparison, then the
    exclusive section. -/
def SocketSetPeerEndpoint (Peer Endpoint : ENDPOINT) : ENDPOINT :=
  if EndpointEq Endpoint Peer then Peer else SetPeerEndpointLocked Peer Endpoint

/-- What every peer endpoint keeps: its family is unset, IPv4 or IPv6, and the
    pre-formatted control header announces the pkt-info of that family. -/
structure SlotInv (e : ENDPOINT) : Prop where
  family : e.Addr.si_family = AF_UNSPEC ∨ e.Addr.si_family = AF_INET ∨ e.Addr.si_family = AF_INET6
  header4 : e.Addr.si_family = AF_INET → e.SrcCmsghdr = cmsghdrV4
  header6 : e.Addr.si_family = AF_INET6 → e.SrcCmsghdr = cmsghdrV6

theorem slotInv_zero : SlotInv ENDPOINT.zero :=
  ⟨Or.inl rfl, fun h => absurd h (by decide), fun h => absurd h (by decide)⟩

theorem slotInv_of_header {e : ENDPOINT} (hf : e.Addr.si_family = AF_INET ∧ e.SrcCmsghdr = cmsghdrV4 ∨
    e.Addr.si_family = AF_INET6 ∧ e.SrcCmsghdr = cmsghdrV6) : SlotInv e := by
  rcases hf with ⟨hf, hh⟩ | ⟨hf, hh⟩
  · exact ⟨Or.inr (Or.inl hf), fun _ => hh, fun h => absurd (hf.symm.trans h) (by decide)⟩
  · exact ⟨Or.inr (Or.inr hf), fun h => absurd (hf.symm.trans h) (by decide), fun _ => hh⟩

theorem SlotInv.setPeerEndpointLocked {e : ENDPOINT} (h : SlotInv e) (E : ENDPOINT) :
    SlotInv (SetPeerEndpointLocked e E) := by
  unfold SetPeerEndpointLocked
  by_cases h4 : E.Addr.si_family = AF_INET
  · simp only [h4, beq_self_eq_true, if_true]
    exact slotInv_of_header (Or.inl ⟨by simpa using h4, rfl⟩)
  by_cases h6 : E.Addr.si_family = AF_INET6
  · simp only [h6, beq_self_eq_true, if_true, show (AF_INET6 == AF_INET) = false by decide,
      Bool.false_eq_true, if_false]
    exact slotInv_of_header (Or.inr ⟨by simpa using h6, rfl⟩)
  · simpa [h4, h6] using h

theorem SlotInv.clearPeerEndpointSrc {e : ENDPOINT} (h : SlotInv e) :
    SlotInv (SocketClearPeerEndpointSrc e) :=
  ⟨h.family, h.header4, h.header6⟩

theorem SlotInv.commitSrc {e : ENDPOINT} (h : SlotInv e) (g4 g6 : BitVec 32) (SrcAddr : SOCKADDR_INET)
    (BestIndex : BitVec 32) : SlotInv (CommitSrc e g4 g6 SrcAddr BestIndex).1 := by
  unfold CommitSrc
  by_cases h4 : e.Addr.si_family = AF_INET
  · simp only [h4, beq_self_eq_true, if_true]
    exact slotInv_of_header (Or.inl ⟨h4, rfl⟩)
  by_cases h6 : e.Addr.si_family = AF_INET6
  · simp only [h6, beq_self_eq_true, if_true, show (AF_INET6 == AF_INET) = false by decide,
      Bool.false_eq_true, if_false]
    exact slotInv_of_header (Or.inr ⟨h6, rfl⟩)
  · simp only [h4, h6, beq_iff_eq, if_false]
    exact ⟨h.family, h.header4, h.header6⟩

/-- The exclusive sections that write a peer endpoint: `SocketSetPeerEndpoint`
    past its fast-out, with any argument; `SocketClearPeerEndpointSrc`; and the
    commit of a resolver's slow path, with any source it may have found. -/
inductive SlotWrite
  | set (Endpoint : ENDPOINT)
  | clear
  | commit (RoutingGenerationV4 RoutingGenerationV6 : BitVec 32) (SrcAddr : SOCKADDR_INET)
      (BestIndex : BitVec 32)

def SlotWrite.apply : SlotWrite → ENDPOINT → ENDPOINT
  | .set E, e => SetPeerEndpointLocked e E
  | .clear, e => SocketClearPeerEndpointSrc e
  | .commit g4 g6 SrcAddr BestIndex, e => (CommitSrc e g4 g6 SrcAddr BestIndex).1

theorem SlotInv.apply {e : ENDPOINT} (h : SlotInv e) : ∀ w : SlotWrite, SlotInv (w.apply e)
  | .set E => h.setPeerEndpointLocked E
  | .clear => h.clearPeerEndpointSrc
  | .commit g4 g6 SrcAddr BestIndex => h.commitSrc g4 g6 SrcAddr BestIndex

/-- An exclusive section from `before` to `after` that changes any field other
    than `UpdateGeneration` bumps `UpdateGeneration` by exactly one. -/
def BumpsOnChange (before after : ENDPOINT) : Prop :=
  { after with UpdateGeneration := before.UpdateGeneration } ≠ before →
    after.UpdateGeneration = before.UpdateGeneration + 1

theorem SlotWrite.bumpsOnChange (e : ENDPOINT) : ∀ w : SlotWrite, BumpsOnChange e (w.apply e)
  | .set E => by
    show BumpsOnChange e (SetPeerEndpointLocked e E)
    unfold SetPeerEndpointLocked
    split
    · exact fun _ => rfl
    · split
      · exact fun _ => rfl
      · exact fun h => absurd rfl h
  | .clear => fun _ => rfl
  | .commit g4 g6 SrcAddr BestIndex => by
    show BumpsOnChange e (CommitSrc e g4 g6 SrcAddr BestIndex).1
    unfold CommitSrc
    split
    · exact fun _ => rfl
    · split <;> exact fun _ => rfl

/-- The peer endpoints reachable from the zeroed one by any sequence of writes. -/
inductive SlotReachable : ENDPOINT → Prop
  | zero : SlotReachable ENDPOINT.zero
  | write {e : ENDPOINT} (w : SlotWrite) : SlotReachable e → SlotReachable (w.apply e)

theorem SlotReachable.setPeerEndpointLocked {e : ENDPOINT} (h : SlotReachable e) (E : ENDPOINT) :
    SlotReachable (SetPeerEndpointLocked e E) :=
  .write (.set E) h

theorem SlotReachable.slotInv {e : ENDPOINT} (h : SlotReachable e) : SlotInv e := by
  induction h with
  | zero => exact slotInv_zero
  | write w _ ih => exact ih.apply w

/-! ## The unlocked fast-out -/

theorem in6Addr_halves (A : IN6_ADDR) : A.extractLsb' 64 64 ++ A.extractLsb' 0 64 = A := by
  apply BitVec.eq_of_getLsbD_eq; intro ⟨i, hi⟩
  simp only [BitVec.getLsbD_append, BitVec.getLsbD_extractLsb']
  by_cases h : i < 64
  · simp [h]
  · simp [h, Nat.add_sub_cancel' (Nat.le_of_not_lt h), show i - 64 < 64 by omega]

/-- `Ipv6AddrEq` is equality: the XOR of each `UINT64` half is zero exactly
    when the halves agree, and the two halves make up the address. -/
@[simp] theorem ipv6AddrEq_iff {A1 A2 : IN6_ADDR} : Ipv6AddrEq A1 A2 = true ↔ A1 = A2 := by
  refine ⟨fun h => ?_, fun h => by simp [h, Ipv6AddrEq]⟩
  have h (i : Nat) (hi : i < 64) := by
    simpa [hi] using congrFun (congrArg BitVec.getLsbD (beq_iff_eq.mp h)) i
  rw [← in6Addr_halves A1, ← in6Addr_halves A2]
  congr 1 <;> apply BitVec.eq_of_getLsbD_eq <;> intro ⟨i, hi⟩
  · simpa [hi] using (h i hi).2
  · simpa [hi] using (h i hi).1

theorem in6Addr_words (A : IN6_ADDR) :
    A.extractLsb' 64 64 ++ A.extractLsb' 32 32 ++ A.extractLsb' 0 32 = A := by
  apply BitVec.eq_of_getLsbD_eq; intro ⟨i, hi⟩
  simp only [BitVec.getLsbD_append, BitVec.getLsbD_extractLsb']
  by_cases h : i < 32
  · simp [h]
  by_cases h' : i - 32 < 32
  · simp [h, h', Nat.add_sub_cancel' (Nat.le_of_not_lt h)]
  · simp [h, h', show i - 32 - 32 < 64 by omega, show 64 + (i - 32 - 32) = i by omega]

/-- `Src6` reads back what `setSrc6` wrote: the three slots of the union that
    the address is stored in make up the whole address. -/
@[simp] theorem PKTINFO.setSrc6_Src6 (p : PKTINFO) (v : IN6_PKTINFO) : (p.setSrc6 v).Src6 = v := by
  simp only [PKTINFO.setSrc6, PKTINFO.Src6, in6Addr_words]

theorem setPeerEndpointLocked_of_ipv4 {Peer Endpoint : ENDPOINT} (h : Endpoint.Addr.si_family = AF_INET) :
    SetPeerEndpointLocked Peer Endpoint =
      { Peer with Addr := Peer.Addr.setIpv4 Endpoint.Addr.Ipv4, Src := Peer.Src.setSrc4 Endpoint.Src4,
                  SrcCmsghdr := cmsghdrV4, RoutingGeneration := Endpoint.RoutingGeneration,
                  UpdateGeneration := Peer.UpdateGeneration + 1 } := by
  simp [SetPeerEndpointLocked, h]

theorem setPeerEndpointLocked_of_ipv6 {Peer Endpoint : ENDPOINT} (h : Endpoint.Addr.si_family = AF_INET6) :
    SetPeerEndpointLocked Peer Endpoint =
      { Peer with Addr := Peer.Addr.setIpv6 Endpoint.Addr.Ipv6, Src := Peer.Src.setSrc6 Endpoint.Src6,
                  SrcCmsghdr := cmsghdrV6, RoutingGeneration := Endpoint.RoutingGeneration,
                  UpdateGeneration := Peer.UpdateGeneration + 1 } := by
  simp [SetPeerEndpointLocked, h, show AF_INET6 ≠ AF_INET by decide]

/-- Two peer endpoints agree on what `SendAsync` hands the provider, read in
    the view of `A`'s family: the family, the port, the remote address (with
    the scope id for IPv6), the source pkt-info address and interface index,
    and the pre-formatted control header. -/
def SameDestination (A B : ENDPOINT) : Prop :=
  A.Addr.si_family = B.Addr.si_family ∧ A.Addr.port = B.Addr.port ∧ A.SrcCmsghdr = B.SrcCmsghdr ∧
  (A.Addr.si_family = AF_INET → A.Addr.Ipv4.sin_addr = B.Addr.Ipv4.sin_addr ∧
    A.Src4.ipi_addr = B.Src4.ipi_addr ∧ A.Src4.ipi_ifindex = B.Src4.ipi_ifindex) ∧
  (A.Addr.si_family = AF_INET6 → A.Addr.Ipv6.sin6_addr = B.Addr.Ipv6.sin6_addr ∧
    A.Addr.Ipv6.sin6_scope_id = B.Addr.Ipv6.sin6_scope_id ∧
    A.Src6.ipi6_addr = B.Src6.ipi6_addr ∧ A.Src6.ipi6_ifindex = B.Src6.ipi6_ifindex)

section FastOut

variable {E P : ENDPOINT}

/-- For an argument of either family, the unlocked comparison holds exactly
    when the exclusive section would leave the destination of a slot as it
    is; the slot invariant supplies the control header, which `EndpointEq`
    does not compare. -/
theorem endpointEq_iff_sameDestination (hE : E.Addr.si_family = AF_INET ∨ E.Addr.si_family = AF_INET6)
    (hP : SlotInv P) : EndpointEq E P = true ↔ SameDestination (SetPeerEndpointLocked P E) P := by
  rcases hE with h4 | h6
  · have hc : P.Addr.si_family = AF_INET → P.SrcCmsghdr = cmsghdrV4 := hP.header4
    rw [setPeerEndpointLocked_of_ipv4 h4]
    simp only [EndpointEq, SameDestination, h4, ENDPOINT.Src4, ENDPOINT.Src6, SOCKADDR_INET.setIpv4,
      SOCKADDR_INET.Ipv4, SOCKADDR_INET.Ipv6, PKTINFO.setSrc4_Src4, show AF_INET ≠ AF_INET6 by decide,
      show AF_INET ≠ 0#16 by decide, beq_iff_eq, Bool.or_eq_true, Bool.and_eq_true, true_and, false_and,
      or_false, eq_comm (a := AF_INET), eq_comm (b := P.SrcCmsghdr), and_assoc, and_congr_right_iff]
    exact fun hf => by simp [hc hf]
  · have hc : P.Addr.si_family = AF_INET6 → P.SrcCmsghdr = cmsghdrV6 := hP.header6
    rw [setPeerEndpointLocked_of_ipv6 h6]
    simp only [EndpointEq, SameDestination, h6, ENDPOINT.Src4, ENDPOINT.Src6, SOCKADDR_INET.setIpv6,
      SOCKADDR_INET.Ipv4, SOCKADDR_INET.Ipv6, PKTINFO.setSrc6_Src6, ipv6AddrEq_iff,
      show AF_INET6 ≠ AF_INET by decide, show AF_INET6 ≠ 0#16 by decide, beq_iff_eq, Bool.or_eq_true,
      Bool.and_eq_true, true_and, false_and, false_or, or_false, eq_comm (a := AF_INET6),
      eq_comm (b := P.SrcCmsghdr), and_assoc, and_congr_right_iff]
    exact fun hf => by simp [hc hf]

/-- Once the exclusive section has written `E`, the unlocked comparison with
    `E` holds. -/
theorem endpointEq_setPeerEndpointLocked (hE : E.Addr.si_family = AF_INET ∨ E.Addr.si_family = AF_INET6) :
    EndpointEq E (SetPeerEndpointLocked P E) = true := by
  rcases hE with h4 | h6
  · rw [setPeerEndpointLocked_of_ipv4 h4]
    simp [EndpointEq, h4, ENDPOINT.Src4, SOCKADDR_INET.setIpv4, SOCKADDR_INET.Ipv4]
  · rw [setPeerEndpointLocked_of_ipv6 h6]
    simp [EndpointEq, h6, ENDPOINT.Src6, SOCKADDR_INET.setIpv6, SOCKADDR_INET.Ipv6]

theorem socketSetPeerEndpoint_fast_out_exact
    (hE : E.Addr.si_family = AF_INET ∨ E.Addr.si_family = AF_INET6) (hP : SlotInv P) :
    (EndpointEq E P = true ↔ SameDestination (SetPeerEndpointLocked P E) P) ∧
      EndpointEq E (SetPeerEndpointLocked P E) = true :=
  ⟨endpointEq_iff_sameDestination hE hP, endpointEq_setPeerEndpointLocked hE⟩

end FastOut

/-- An IPv4 endpoint against the zeroed slot. -/
theorem socketSetPeerEndpoint_fast_out_exact_at_zero :
    let E : ENDPOINT := { ENDPOINT.zero with Addr := ⟨AF_INET, 0x6CCA#16, 0x0A0200C0#32, 0, 0⟩ }
    (E.Addr.si_family = AF_INET ∨ E.Addr.si_family = AF_INET6) ∧ SlotInv ENDPOINT.zero ∧
      (EndpointEq E ENDPOINT.zero = true ↔ SameDestination (SetPeerEndpointLocked ENDPOINT.zero E) ENDPOINT.zero) ∧
      EndpointEq E (SetPeerEndpointLocked ENDPOINT.zero E) = true :=
  ⟨.inl rfl, slotInv_zero, socketSetPeerEndpoint_fast_out_exact (.inl rfl) slotInv_zero⟩

end wireguard
