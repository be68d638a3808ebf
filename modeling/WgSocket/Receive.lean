import WgSocket.Bind.Create

namespace wireguard

/-- What a `Next` field holds: `NULL`, the next indication of the provider's
    list by its place, or the `SOCKET` that `Receive` stores in an indication
    it keeps (line 614). -/
inductive IndicationNext
  | null
  | indication (Id : Nat)
  | socket (Socket : SOCKET)
deriving DecidableEq, Repr

/-- Where `DataIndicationNext = DataIndication->Next` (line 604) leads the
    loop: to the end of the list or to the next indication. A `SOCKET` is no
    indication, and the provider never links one. -/
def IndicationNext.link : IndicationNext → Option (Option Nat)
  | .null => some none
  | .indication Id => some (some Id)
  | .socket _ => none

/-- The parts of a `WSK_DATAGRAM_INDICATION` `Receive` reads and writes:
    `Next`, and `Buffer.Length`. -/
structure WSK_DATAGRAM_INDICATION where
  Next : IndicationNext
  Length : BitVec 64
deriving DecidableEq, Repr

/-- The provider's list from `p`, by the places of its indications: follow
    `Next` for at most `fuel` indications; `none` if it has not ended by
    then. -/
def walkIndications (Indications : Nat → WSK_DATAGRAM_INDICATION) : Nat → Option Nat → Option (List Nat)
  | _, none => some []
  | 0, some _ => none
  | fuel + 1, some i => (Indications i).Next.link.bind fun p => (walkIndications Indications fuel p).map (i :: ·)

/-- What the calls on one indication's way answer: `MemAllocateNetBufferList`,
    `Wg->IsUp` as read, and `ExAcquireRundownProtection`. -/
structure ReceiveOutcome where
  NblAllocate : Bool
  IsUp : Bool
  AcquireRundown : Bool
deriving DecidableEq, Repr

/-- `RtlSIZETToULong`: the length as a `ULONG`, if it fits. -/
def RtlSIZETToULong (Length : BitVec 64) : Option (BitVec 32) :=
  if Length.toNat < 2 ^ 32 then some (Length.setWidth 32) else none

/-- What `Receive` does for an indication, by its place. -/
inductive ReceiveEvent
  /-- `MemAllocateNetBufferList(0, Length, 0)` returned an NBL for it -/
  | nblAllocate (Id : Nat)
  /-- `MemFreeNetBufferList` on that NBL -/
  | nblFree (Id : Nat)
  /-- a rundown reference on `Socket->ItemsInFlight` -/
  | rundownAcquire (Id : Nat)
  /-- lines 613-616: the NBL carries the indication and is linked at the
      chain's tail -/
  | attach (Id : Nat)
  /-- `WskRelease` -/
  | release (Id : Nat)
  /-- `++Wg->Statistics.ifInDiscards` -/
  | discard
deriving DecidableEq, Repr

/-- Lines 606-622 for the indication at place `Id`: its events, and whether
    it was kept. -/
def receiveIndication (Id : Nat) (DataIndication : WSK_DATAGRAM_INDICATION) (o : ReceiveOutcome) :
    List ReceiveEvent × Bool :=
  match RtlSIZETToULong DataIndication.Length with
  | none => ([.release Id, .discard], false)
  | some _ =>
    if !o.NblAllocate then ([.release Id, .discard], false)
    else if !o.IsUp || !o.AcquireRundown then ([.nblAllocate Id, .release Id, .nblFree Id, .discard], false)
    else ([.nblAllocate Id, .rundownAcquire Id, .attach Id], true)

/-- The loop's state: the indications as written so far, what it did, the
    chain `First` by the places of the indications its NBLs carry, and
    `ifInDiscards`. -/
structure ReceiveLoop where
  Indications : Nat → WSK_DATAGRAM_INDICATION
  Events : List ReceiveEvent
  First : List Nat
  ifInDiscards : BitVec 64

/-- The body of the loop (lines 605-623) for the indication at `i`: its `Next`
    set to `NULL`, then, if it is kept, to the `SOCKET`. -/
def receiveStep (Socket : SOCKET) (o : ReceiveOutcome) (acc : ReceiveLoop) (i : Nat) : ReceiveLoop :=
  let DataIndication := acc.Indications i
  let Indications := Function.update acc.Indications i { DataIndication with Next := .null }
  let Body := receiveIndication i DataIndication o
  if Body.2 then
    ⟨Function.update Indications i { DataIndication with Next := .socket Socket }, acc.Events ++ Body.1,
      acc.First ++ [i], acc.ifInDiscards⟩
  else ⟨Indications, acc.Events ++ Body.1, acc.First, acc.ifInDiscards + 1⟩

/-- Lines 602-624 from the indication at `p`: `Next` is read before the body
    overwrites it; at most `fuel` indications. -/
def receiveLoop (Socket : SOCKET) (o : Nat → ReceiveOutcome) : Nat → ReceiveLoop → Option Nat → Option ReceiveLoop
  | _, acc, none => some acc
  | 0, _, some _ => none
  | fuel + 1, acc, some i =>
    (acc.Indications i).Next.link.bind (receiveLoop Socket o fuel (receiveStep Socket (o i) acc i))

/-- How `Receive` returns: its status, the indications as it left them, what
    it did to them, the chain it passed to `PacketReceive` if it called it,
    and `ifInDiscards`. -/
structure ReceiveResult where
  Status : NTSTATUS
  Indications : Nat → WSK_DATAGRAM_INDICATION
  Events : List ReceiveEvent
  PacketReceive : Option (List Nat)
  ifInDiscards : BitVec 64

/-- Lines 595-628. `DataIndication` is the place of the list's head, `NULL` as
    `none`; the calls on the indication at `i` answer as `o i` says. -/
def Receive (SocketContext : Option SOCKET) (Indications : Nat → WSK_DATAGRAM_INDICATION)
    (DataIndication : Option Nat) (o : Nat → ReceiveOutcome) (fuel : Nat) (ifInDiscards : BitVec 64) :
    Option ReceiveResult :=
  match SocketContext with
  | none => some ⟨STATUS_SUCCESS, Indications, [], none, ifInDiscards⟩
  | some Socket =>
    if Socket.Sock.isNone || DataIndication.isNone then some ⟨STATUS_SUCCESS, Indications, [], none, ifInDiscards⟩
    else (receiveLoop Socket o fuel ⟨Indications, [], [], ifInDiscards⟩ DataIndication).map fun s =>
      ⟨STATUS_PENDING, s.Indications, s.Events, if s.First.isEmpty then none else some s.First, s.ifInDiscards⟩

/-- Whether `Receive` keeps an indication: its length fits a `ULONG`, its NBL
    is allocated, the device is up and the rundown reference is taken. -/
def Accepted (DataIndication : WSK_DATAGRAM_INDICATION) (o : ReceiveOutcome) : Bool :=
  decide (DataIndication.Length.toNat < 2 ^ 32) && o.NblAllocate && o.IsUp && o.AcquireRundown

/-- The indication an event is about. -/
def ReceiveEvent.about : ReceiveEvent → Option Nat
  | .nblAllocate i | .nblFree i | .rundownAcquire i | .attach i | .release i => some i
  | .discard => none

/-! ## One indication -/

theorem receiveIndication_kept (Id : Nat) (d : WSK_DATAGRAM_INDICATION) (o : ReceiveOutcome) :
    (receiveIndication Id d o).2 = Accepted d o := by
  unfold receiveIndication Accepted RtlSIZETToULong
  by_cases hl : d.Length.toNat < 2 ^ 32
  · rw [if_pos hl, decide_eq_true hl]
    cases o.NblAllocate <;> cases o.IsUp <;> cases o.AcquireRundown <;> rfl
  · rw [if_neg hl, decide_eq_false hl]
    rfl

theorem about_of_mem_receiveIndication (Id : Nat) (d : WSK_DATAGRAM_INDICATION) (o : ReceiveOutcome) :
    ∀ e ∈ (receiveIndication Id d o).1, e = .discard ∨ e.about = some Id := by
  unfold receiveIndication
  split
  · simp [ReceiveEvent.about]
  · split
    · simp [ReceiveEvent.about]
    · split <;> simp [ReceiveEvent.about]

/-- Kept: attached to one NBL of the chain with one rundown reference, never
    released, its NBL never freed. -/
def KeptOnce (Events : List ReceiveEvent) (Id : Nat) : Prop :=
  Events.count (.attach Id) = 1 ∧ Events.count (.rundownAcquire Id) = 1 ∧
    Events.count (.release Id) = 0 ∧ Events.count (.nblFree Id) = 0

/-- Released: `WskRelease` once, the NBL allocated for it (if any) freed, no
    rundown reference and no place in the chain. -/
def ReleasedOnce (Events : List ReceiveEvent) (Id : Nat) : Prop :=
  Events.count (.release Id) = 1 ∧ Events.count (.attach Id) = 0 ∧
    Events.count (.rundownAcquire Id) = 0 ∧ Events.count (.nblFree Id) = Events.count (.nblAllocate Id)

/-- An indication's own events already decide its fate. -/
theorem receiveIndication_fate (Id : Nat) (d : WSK_DATAGRAM_INDICATION) (o : ReceiveOutcome) :
    if Accepted d o then KeptOnce (receiveIndication Id d o).1 Id else ReleasedOnce (receiveIndication Id d o).1 Id := by
  rw [← receiveIndication_kept Id]
  unfold receiveIndication
  split
  · simp [ReleasedOnce]
  · split
    · simp [ReleasedOnce]
    · split <;> simp [KeptOnce, ReleasedOnce]

theorem count_receiveIndication_eq_zero {Id i : Nat} {d : WSK_DATAGRAM_INDICATION} {o : ReceiveOutcome}
    {e : ReceiveEvent} (he : e.about = some i) (hne : Id ≠ i) : (receiveIndication Id d o).1.count e = 0 :=
  List.count_eq_zero.mpr fun hm => by
    rcases about_of_mem_receiveIndication _ _ _ _ hm with rfl | h
    · cases he
    · exact hne (Option.some.inj (h.symm.trans he))

section Step

variable (Socket : SOCKET) (o : ReceiveOutcome) (acc : ReceiveLoop) (i : Nat)

/-- The body writes only the indication it is on: `Next` ends as the
    `SOCKET` if it is kept, `NULL` if it is released. -/
@[simp] theorem receiveStep_indications (j : Nat) :
    (receiveStep Socket o acc i).Indications j =
      if j = i then
        { acc.Indications i with Next := if Accepted (acc.Indications i) o then .socket Socket else .null }
      else acc.Indications j := by
  simp only [receiveStep, receiveIndication_kept]
  by_cases hj : j = i
  · subst hj
    split <;> simp_all
  · split <;> simp [hj]

@[simp] theorem receiveStep_events :
    (receiveStep Socket o acc i).Events = acc.Events ++ (receiveIndication i (acc.Indications i) o).1 := by
  simp only [receiveStep]
  split <;> rfl

@[simp] theorem receiveStep_first :
    (receiveStep Socket o acc i).First = if Accepted (acc.Indications i) o then acc.First ++ [i] else acc.First := by
  simp only [receiveStep, receiveIndication_kept]
  split <;> rfl

@[simp] theorem receiveStep_ifInDiscards :
    (receiveStep Socket o acc i).ifInDiscards =
      if Accepted (acc.Indications i) o then acc.ifInDiscards else acc.ifInDiscards + 1 := by
  simp only [receiveStep, receiveIndication_kept]
  split <;> rfl

end Step

/-! ## The provider's list -/

section Walk

variable {Indications : Nat → WSK_DATAGRAM_INDICATION}

@[simp] theorem walkIndications_none (fuel : Nat) : walkIndications Indications fuel none = some [] := by
  cases fuel <;> rfl

theorem walkIndications_eq_cons {fuel : Nat} {p : Option Nat} {i : Nat} {l : List Nat}
    (h : walkIndications Indications fuel p = some (i :: l)) :
    p = some i ∧ ∃ fuel' q, fuel = fuel' + 1 ∧ (Indications i).Next.link = some q ∧
      walkIndications Indications fuel' q = some l := by
  match fuel, p, h with
  | _, none, h => simp at h
  | 0, some _, h => cases h
  | fuel + 1, some j, h =>
    obtain ⟨q, hq, hw⟩ := Option.bind_eq_some.mp h
    obtain ⟨l', hl', he⟩ := Option.map_eq_some'.mp hw
    obtain ⟨rfl, rfl⟩ := List.cons.inj he
    exact ⟨rfl, fuel, q, rfl, hq, hl'⟩

theorem walkIndications_eq_nil {fuel : Nat} {p : Option Nat} (h : walkIndications Indications fuel p = some []) :
    p = none := by
  match fuel, p, h with
  | _, none, _ => rfl
  | 0, some _, h => cases h
  | _ + 1, some _, h =>
    obtain ⟨_, -, hw⟩ := Option.bind_eq_some.mp h
    obtain ⟨_, -, he⟩ := Option.map_eq_some'.mp hw
    cases he

/-- Whatever the fuel, a list that ends is the same list. -/
theorem walkIndications_unique {fuel fuel' : Nat} {p : Option Nat} {l l' : List Nat}
    (h : walkIndications Indications fuel p = some l) (h' : walkIndications Indications fuel' p = some l') :
    l = l' := by
  induction l generalizing fuel fuel' p l' with
  | nil => rw [walkIndications_eq_nil h, walkIndications_none] at h'; exact Option.some.inj h'
  | cons i l ih =>
    obtain ⟨rfl, f, q, -, hq, hw⟩ := walkIndications_eq_cons h
    cases l' with
    | nil => cases walkIndications_eq_nil h'
    | cons i' l' =>
      obtain ⟨hi, f', q', -, hq', hw'⟩ := walkIndications_eq_cons h'
      cases hi
      cases hq.symm.trans hq'
      rw [ih hw hw']

/-- From any indication of the list, the walk goes on as the list does. -/
theorem walkIndications_suffix {fuel : Nat} {p : Option Nat} {i : Nat} {b : List Nat} :
    ∀ a : List Nat, walkIndications Indications fuel p = some (a ++ i :: b) →
      ∃ fuel', walkIndications Indications fuel' (some i) = some (i :: b)
  | [], h => ⟨fuel, (walkIndications_eq_cons h).1 ▸ h⟩
  | _ :: a, h =>
    let ⟨_, _, _, _, _, hw⟩ := walkIndications_eq_cons h
    walkIndications_suffix a hw

/-- A list the provider links ends in `NULL`, so it never comes back to an
    indication: its places are distinct. -/
theorem walkIndications_nodup {fuel : Nat} {p : Option Nat} {l : List Nat}
    (h : walkIndications Indications fuel p = some l) : l.Nodup := by
  induction l generalizing fuel p with
  | nil => exact List.nodup_nil
  | cons i l ih =>
    obtain ⟨rfl, f, q, rfl, hq, hw⟩ := walkIndications_eq_cons h
    refine List.nodup_cons.mpr ⟨fun hi => ?_, ih hw⟩
    obtain ⟨a, b, rfl⟩ := List.append_of_mem hi
    obtain ⟨f', hf'⟩ := walkIndications_suffix a hw
    have hlen := congrArg List.length (walkIndications_unique h hf')
    simp only [List.length_cons, List.length_append] at hlen
    omega

/-- The walk reads only the indications of the list it returns. -/
theorem walkIndications_congr {Indications' : Nat → WSK_DATAGRAM_INDICATION} {fuel : Nat} {p : Option Nat}
    {l : List Nat} (h : walkIndications Indications fuel p = some l) (hl : ∀ j ∈ l, Indications' j = Indications j) :
    walkIndications Indications' fuel p = some l := by
  induction l generalizing fuel p with
  | nil => rw [walkIndications_eq_nil h, walkIndications_none]
  | cons i l ih =>
    obtain ⟨rfl, f, q, rfl, hq, hw⟩ := walkIndications_eq_cons h
    have hw' := ih hw fun j hj => hl j (List.mem_cons_of_mem i hj)
    simp only [walkIndications, hl i (List.mem_cons_self i l), hq, Option.some_bind, hw', Option.map_some']

end Walk

/-! ## The loop -/

section Loop

variable (Socket : SOCKET) (o : Nat → ReceiveOutcome)

@[simp] theorem receiveLoop_none (fuel : Nat) (acc : ReceiveLoop) : receiveLoop Socket o fuel acc none = some acc := by
  cases fuel <;> rfl

/-- The loop runs the body over the list in order: it reads each `Next`
    before the body overwrites it, and the body writes only the indication
    it is on, which the rest of the list does not come back to. -/
theorem receiveLoop_eq_foldl (acc : ReceiveLoop) {fuel : Nat} {p : Option Nat} {l : List Nat}
    (h : walkIndications acc.Indications fuel p = some l) :
    receiveLoop Socket o fuel acc p = some (l.foldl (fun acc i => receiveStep Socket (o i) acc i) acc) := by
  induction l generalizing fuel p acc with
  | nil => rw [walkIndications_eq_nil h, receiveLoop_none, List.foldl_nil]
  | cons i l ih =>
    have hi := (List.nodup_cons.mp (walkIndications_nodup h)).1
    obtain ⟨rfl, f, q, rfl, hq, hw⟩ := walkIndications_eq_cons h
    have hw' : walkIndications (receiveStep Socket (o i) acc i).Indications f q = some l :=
      walkIndications_congr hw fun j hj => by simp [show j ≠ i from fun hji => hi (hji ▸ hj)]
    simp only [receiveLoop, hq, Option.some_bind, ih _ hw', List.foldl_cons]

/-- What the loop leaves: each indication's events in list order, the kept
    ones linked in list order, one discard per released one, and each
    indication of the list with its `Next` written. -/
theorem foldl_receiveStep (Indications : Nat → WSK_DATAGRAM_INDICATION) {l : List Nat} (hnodup : l.Nodup)
    (acc : ReceiveLoop) (hacc : ∀ j ∈ l, acc.Indications j = Indications j) :
    let s := l.foldl (fun acc i => receiveStep Socket (o i) acc i) acc
    s.Events = acc.Events ++ (l.map fun i => (receiveIndication i (Indications i) (o i)).1).flatten ∧
    s.First = acc.First ++ l.filter (fun i => Accepted (Indications i) (o i)) ∧
    s.ifInDiscards = acc.ifInDiscards + BitVec.ofNat 64 (l.countP fun i => !Accepted (Indications i) (o i)) ∧
    ∀ j, s.Indications j = if j ∈ l then
      { Indications j with Next := if Accepted (Indications j) (o j) then .socket Socket else .null }
      else acc.Indications j := by
  induction l generalizing acc with
  | nil => simp
  | cons i l ih =>
    obtain ⟨hi, hnodup⟩ := List.nodup_cons.mp hnodup
    have hacc' : ∀ j ∈ l, (receiveStep Socket (o i) acc i).Indications j = Indications j := fun j hj => by
      simp [show j ≠ i from fun hji => hi (hji ▸ hj), hacc j (List.mem_cons_of_mem i hj)]
    obtain ⟨hev, hfirst, hdisc, hind⟩ := ih hnodup _ hacc'
    have hai := hacc i (List.mem_cons_self i l)
    refine ⟨?_, ?_, ?_, fun j => ?_⟩
    · simp [hev, hai]
    · simp only [List.foldl_cons, hfirst, receiveStep_first, hai, List.filter_cons]
      split <;> simp
    · simp only [List.foldl_cons, hdisc, receiveStep_ifInDiscards, hai, List.countP_cons]
      split
      · simp_all
      · next h =>
        simp only [h, Bool.not_false, if_true, BitVec.ofNat_add, BitVec.add_assoc, BitVec.add_comm (1 : BitVec 64)]
        rfl
    · rw [List.foldl_cons, hind j, receiveStep_indications]
      by_cases hj : j = i
      · subst hj
        simp [hi, hai]
      · simp [hj]

end Loop

/-! ## What `Receive` promises -/

theorem count_flatten_receive {Indications : Nat → WSK_DATAGRAM_INDICATION} {o : Nat → ReceiveOutcome}
    {l : List Nat} (hnodup : l.Nodup) {i : Nat} (hi : i ∈ l) {e : ReceiveEvent} (he : e.about = some i) :
    ((l.map fun j => (receiveIndication j (Indications j) (o j)).1).flatten).count e =
      (receiveIndication i (Indications i) (o i)).1.count e := by
  induction l with
  | nil => cases hi
  | cons j l ih =>
    obtain ⟨hj, hnodup⟩ := List.nodup_cons.mp hnodup
    rw [List.map_cons, List.flatten_cons, List.count_append]
    rcases List.mem_cons.mp hi with rfl | hi
    · suffices ((l.map fun j => (receiveIndication j (Indications j) (o j)).1).flatten).count e = 0 by omega
      refine List.count_eq_zero.mpr fun hm => ?_
      obtain ⟨_, hl, hm⟩ := List.mem_flatten.mp hm
      obtain ⟨k, hk, rfl⟩ := List.mem_map.mp hl
      have hne : k ≠ i := fun h => hj (h ▸ hk)
      exact Nat.pos_iff_ne_zero.mp (List.count_pos_iff.mpr hm) (count_receiveIndication_eq_zero he hne)
    · have hne : j ≠ i := fun h => hj (h ▸ hi)
      rw [count_receiveIndication_eq_zero he hne, ih hnodup hi, Nat.zero_add]

/-- What `Receive` promises for the list `l` it is handed: it returns
    `STATUS_PENDING`; each indication is kept or released, by whether its
    length fits, its NBL is allocated, the device is up and the rundown
    reference is taken; a kept one's `Next` is the `SOCKET`, a released one's
    `NULL`, and no other indication is written; `PacketReceive` is called
    once, on the kept ones in list order, if there are any; and
    `ifInDiscards` grows by the number released. -/
structure ReceiveSpec (Socket : SOCKET) (Indications : Nat → WSK_DATAGRAM_INDICATION) (o : Nat → ReceiveOutcome)
    (l : List Nat) (ifInDiscards : BitVec 64) (r : ReceiveResult) : Prop where
  pending : r.Status = STATUS_PENDING
  fate : ∀ i ∈ l, if Accepted (Indications i) (o i) then KeptOnce r.Events i else ReleasedOnce r.Events i
  next : ∀ i ∈ l, r.Indications i =
    { Indications i with Next := if Accepted (Indications i) (o i) then .socket Socket else .null }
  frame : ∀ i ∉ l, r.Indications i = Indications i
  packetReceive : r.PacketReceive =
    if l.any fun i => Accepted (Indications i) (o i) then some (l.filter fun i => Accepted (Indications i) (o i))
    else none
  discards : r.ifInDiscards = ifInDiscards + BitVec.ofNat 64 (l.countP fun i => !Accepted (Indications i) (o i))

/-- For a socket whose `Sock` is set and any non-empty list the provider links
    through `Next`, `Receive` returns and keeps its promise, whatever the
    calls answer. -/
theorem receive_partitions_nonempty_list {Sock : Nat} {Indications : Nat → WSK_DATAGRAM_INDICATION}
    {DataIndication fuel : Nat} {l : List Nat} (o : Nat → ReceiveOutcome) (ifInDiscards : BitVec 64)
    (hl : walkIndications Indications fuel (some DataIndication) = some l) :
    ∃ r, Receive (some ⟨some Sock⟩) Indications (some DataIndication) o fuel ifInDiscards = some r ∧
      ReceiveSpec ⟨some Sock⟩ Indications o l ifInDiscards r := by
  have hnodup := walkIndications_nodup hl
  obtain ⟨hev, hfirst, hdisc, hind⟩ :=
    foldl_receiveStep ⟨some Sock⟩ o Indications hnodup ⟨Indications, [], [], ifInDiscards⟩ fun _ _ => rfl
  simp only [Receive, Option.isNone_some, Bool.or_false, Bool.false_eq_true, if_false,
    receiveLoop_eq_foldl _ _ ⟨Indications, [], [], ifInDiscards⟩ hl, Option.map_some']
  refine ⟨_, rfl, rfl, fun i hi => ?_, fun i hi => by simp [hind, hi], fun i hi => by simp [hind, hi], ?_, hdisc⟩
  · simpa only [hev, List.nil_append, KeptOnce, ReleasedOnce, count_flatten_receive hnodup hi, ReceiveEvent.about]
      using receiveIndication_fate i (Indications i) (o i)
  · rw [hfirst, List.nil_append]
    cases h : l.any fun i => Accepted (Indications i) (o i)
    · simp_all [List.isEmpty_iff, List.filter_eq_nil_iff]
    · have : (l.filter fun i => Accepted (Indications i) (o i)) ≠ [] := by
        simpa [List.filter_eq_nil_iff] using h
      simp [List.isEmpty_iff, this]

/-- Two indications: the first kept, the second too long for a `ULONG`. -/
theorem receive_partitions_two_indications :
    let Indications : Nat → WSK_DATAGRAM_INDICATION :=
      fun i => if i = 1 then ⟨.indication 2, 148#64⟩ else ⟨.null, 0x100000000#64⟩
    walkIndications Indications 2 (some 1) = some [1, 2] ∧
      ∃ r, Receive (some ⟨some 7⟩) Indications (some 1) (fun _ => ⟨true, true, true⟩) 2 0 = some r ∧
        ReceiveSpec ⟨some 7⟩ Indications (fun _ => ⟨true, true, true⟩) [1, 2] 0 r :=
  ⟨by decide, receive_partitions_nonempty_list _ _ (by decide)⟩

/-- A `NULL` indication list, which the provider passes when the socket is
    closing: `Receive` returns `STATUS_SUCCESS`, not `STATUS_PENDING`. -/
theorem receive_returns_success_on_empty_list :
    (Receive (some ⟨some 7⟩) (fun _ => ⟨.null, 0#64⟩) none (fun _ => ⟨true, true, true⟩) 0 0).map
      ReceiveResult.Status = some STATUS_SUCCESS := by
  decide

end wireguard
