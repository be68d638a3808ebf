import Mathlib.Data.List.Nodup
import Mathlib.Logic.Function.Basic
import WgSocket.Send.Dispatch

namespace wireguard

/-! ## The list-level scan -/

/-- What the loops over the NBL chain (lines 355-372) amount to, at list
    level: the `WSK_BUF_LIST` linked through the `NET_BUFFER`s, in link
    order, `DataLength`, `Packets` and `*AllKeepalive`. -/
structure ChainScan where
  WskBufs : List WSK_BUF
  DataLength : BitVec 64
  Packets : BitVec 64
  AllKeepalive : Bool
deriving DecidableEq, Repr

/-- The inner loop's body at list level: the buffer appended, the counters
    and `*AllKeepalive` updated. -/
def scanNb (KeepaliveLen : BitVec 32) (acc : ChainScan) (Nb : NET_BUFFER) : ChainScan :=
  ⟨acc.WskBufs ++ [Nb.wskBuf], acc.DataLength + Nb.DataLength.setWidth 64, acc.Packets + 1,
    if Nb.DataLength != KeepaliveLen then false else acc.AllKeepalive⟩

/-- Both loops at list level: over the NBLs of the chain, and over the
    `NET_BUFFER`s of each. -/
def scanChain (KeepaliveLen : BitVec 32) (First : List (List NET_BUFFER)) : ChainScan :=
  First.foldl (fun acc Nbl => Nbl.foldl (scanNb KeepaliveLen) acc) ⟨[], 0, 0, true⟩

theorem foldl_scanNb (KeepaliveLen : BitVec 32) (Nbs : List NET_BUFFER) (acc : ChainScan) :
    Nbs.foldl (scanNb KeepaliveLen) acc =
      ⟨acc.WskBufs ++ Nbs.map NET_BUFFER.wskBuf,
        acc.DataLength + (Nbs.map fun Nb => Nb.DataLength.setWidth 64).sum,
        acc.Packets + BitVec.ofNat 64 Nbs.length,
        acc.AllKeepalive && Nbs.all fun Nb => Nb.DataLength == KeepaliveLen⟩ := by
  induction Nbs generalizing acc with
  | nil => simp
  | cons Nb Nbs ih =>
    rw [List.foldl_cons, ih]
    simp only [scanNb, List.append_assoc, List.map_cons, List.singleton_append, List.sum_cons,
      BitVec.add_assoc, List.length_cons, BitVec.ofNat_add, List.all_cons, ChainScan.mk.injEq, true_and]
    refine ⟨by rw [BitVec.add_comm (BitVec.ofNat 64 Nbs.length)]; rfl, ?_⟩
    by_cases h : Nb.DataLength = KeepaliveLen <;> simp [h]

/-- The loops link every `NET_BUFFER` of the chain, in order, and sum the
    lengths and count the packets modulo `2^64`; `*AllKeepalive` stays set
    exactly when every packet has the keepalive's length. -/
theorem scanChain_eq (KeepaliveLen : BitVec 32) (First : List (List NET_BUFFER)) :
    scanChain KeepaliveLen First =
      ⟨First.flatten.map NET_BUFFER.wskBuf, (First.flatten.map fun Nb => Nb.DataLength.setWidth 64).sum,
        BitVec.ofNat 64 First.flatten.length,
        First.flatten.all fun Nb => Nb.DataLength == KeepaliveLen⟩ := by
  rw [scanChain, ← List.foldl_flatten, foldl_scanNb]
  simp

/-- The `NET_BUFFER`s of one NBL with their places, from index `j` on. -/
def nblNbs (i : Nat) : Nat → List NET_BUFFER → List (NbRef × NET_BUFFER)
  | _, [] => []
  | j, Nb :: Nbs => ((i, j), Nb) :: nblNbs i (j + 1) Nbs

/-- The `NET_BUFFER`s of a chain with their places, in chain order, from the
    NBL at index `i` on. -/
def chainNbs : Nat → List (List NET_BUFFER) → List (NbRef × NET_BUFFER)
  | _, [] => []
  | i, Nbl :: Nbls => nblNbs i 0 Nbl ++ chainNbs (i + 1) Nbls

/-! ## Places -/

theorem mem_nblNbs {i j : Nat} {Nbs : List NET_BUFFER} {p : NbRef × NET_BUFFER} (h : p ∈ nblNbs i j Nbs) :
    p.1.1 = i ∧ j ≤ p.1.2 := by
  induction Nbs generalizing j with
  | nil => cases h
  | cons Nb Nbs ih =>
    rcases List.mem_cons.mp h with rfl | h
    · exact ⟨rfl, Nat.le_refl j⟩
    · exact (ih h).imp_right (Nat.le_of_succ_le ·)

theorem mem_chainNbs {i : Nat} {First : List (List NET_BUFFER)} {p : NbRef × NET_BUFFER}
    (h : p ∈ chainNbs i First) : i ≤ p.1.1 := by
  induction First generalizing i with
  | nil => cases h
  | cons Nbl Nbls ih =>
    rcases List.mem_append.mp h with h | h
    · exact Nat.le_of_eq (mem_nblNbs h).1.symm
    · exact Nat.le_of_succ_le (ih h)

theorem nodup_nblNbs (i j : Nat) (Nbs : List NET_BUFFER) : ((nblNbs i j Nbs).map Prod.fst).Nodup := by
  induction Nbs generalizing j with
  | nil => exact List.nodup_nil
  | cons Nb Nbs ih =>
    refine List.nodup_cons.mpr ⟨fun h => ?_, ih (j + 1)⟩
    obtain ⟨p, hp, hpj⟩ := List.mem_map.mp h
    have := (mem_nblNbs hp).2
    rw [hpj] at this
    exact Nat.not_succ_le_self j this

/-- Every `NET_BUFFER` of the chain has its own place. -/
theorem nodup_chainNbs (i : Nat) (First : List (List NET_BUFFER)) : ((chainNbs i First).map Prod.fst).Nodup := by
  induction First generalizing i with
  | nil => exact List.nodup_nil
  | cons Nbl Nbls ih =>
    rw [chainNbs, List.map_append, List.nodup_append]
    refine ⟨nodup_nblNbs i 0 Nbl, ih (i + 1), fun x hx hx' => ?_⟩
    obtain ⟨p, hp, rfl⟩ := List.mem_map.mp hx
    obtain ⟨q, hq, hqp⟩ := List.mem_map.mp hx'
    have h1 := (mem_nblNbs hp).1
    have h2 := mem_chainNbs hq
    rw [hqp, h1] at h2
    exact Nat.not_succ_le_self i h2

theorem nblNbs_snd (i j : Nat) (Nbs : List NET_BUFFER) : (nblNbs i j Nbs).map Prod.snd = Nbs := by
  induction Nbs generalizing j with
  | nil => rfl
  | cons Nb Nbs ih => exact congrArg (Nb :: ·) (ih (j + 1))

/-- In chain order, the places name the `NET_BUFFER`s of the chain. -/
theorem chainNbs_snd (i : Nat) (First : List (List NET_BUFFER)) : (chainNbs i First).map Prod.snd = First.flatten := by
  induction First generalizing i with
  | nil => rfl
  | cons Nbl Nbls ih => rw [chainNbs, List.map_append, nblNbs_snd, ih, List.flatten_cons]

theorem length_chainNbs (i : Nat) (First : List (List NET_BUFFER)) :
    (chainNbs i First).length = First.flatten.length := by
  rw [← List.length_map (chainNbs i First) Prod.snd, chainNbs_snd]

/-! ## The list the loops link -/

/-- The cells from `head` on hold the elements of `L` in order, linked by
    `Next`, and the last one links to `tail`. -/
inductive Segment (Slots : NbRef → WSK_BUF_LIST) : Option NbRef → List (NbRef × WSK_BUF) → Option NbRef → Prop
  | nil (tail : Option NbRef) : Segment Slots tail [] tail
  | cons {r : NbRef} {b : WSK_BUF} {n : Option NbRef} {L : List (NbRef × WSK_BUF)} {tail : Option NbRef} :
      Slots r = ⟨n, b⟩ → Segment Slots n L tail → Segment Slots (some r) ((r, b) :: L) tail

namespace Segment

variable {Slots Slots' : NbRef → WSK_BUF_LIST} {head tail : Option NbRef} {L : List (NbRef × WSK_BUF)}

/-- A list linked up to `NULL` is read back whole by a walk of its length. -/
theorem walk (h : Segment Slots head L none) : walkWskBufList Slots L.length head = some L := by
  induction L generalizing head with
  | nil => cases h; rfl
  | cons p L ih =>
    cases h with
    | cons hr h => simp [walkWskBufList, hr, ih h]

theorem nil_eq (h : Segment Slots head [] tail) : head = tail := by
  cases h
  rfl

theorem head_eq {p : NbRef × WSK_BUF} (h : Segment Slots head (p :: L) tail) : head = some p.1 := by
  cases h
  rfl

theorem append {mid : Option NbRef} {M : List (NbRef × WSK_BUF)} (h : Segment Slots head L mid)
    (h' : Segment Slots mid M tail) : Segment Slots head (L ++ M) tail := by
  induction h with
  | nil => exact h'
  | cons hr _ ih => exact .cons hr (ih h')

/-- Writes to cells outside the segment leave it as it is. -/
theorem frame (h : Segment Slots head L tail) (hs : ∀ p ∈ L, Slots' p.1 = Slots p.1) :
    Segment Slots' head L tail := by
  induction h with
  | nil => exact .nil _
  | cons hr _ ih =>
    exact .cons ((hs _ (List.mem_cons_self _ _)).trans hr) (ih fun p hp => hs p (List.mem_cons_of_mem _ hp))

/-- The last cell of a segment holds its last element and links to the tail. -/
theorem split_last {l : NbRef} {b : WSK_BUF} (h : Segment Slots head (L ++ [(l, b)]) tail) :
    Segment Slots head L (some l) ∧ Slots l = ⟨tail, b⟩ := by
  induction L generalizing head with
  | nil =>
    cases h with
    | cons hr h => cases h; exact ⟨.nil _, hr⟩
  | cons p L ih =>
    cases h with
    | cons hr h =>
      obtain ⟨h, hl⟩ := ih h
      exact ⟨.cons hr h, hl⟩

end Segment

/-- The loops of `SocketSendNblsToPeer` against the list-level scan, after
    the elements `P`: the cells from `FirstWskBuf` hold `P` up to `NULL`,
    `LastWskBuf` is its last place, and the scan lists its buffers with the
    same counters. -/
def LinkRefines (P : List (NbRef × WSK_BUF)) (s : SendLoop) (a : ChainScan) : Prop :=
  Segment s.Slots s.FirstWskBuf P none ∧ s.LastWskBuf = P.getLast?.map Prod.fst ∧
    a.WskBufs = P.map Prod.snd ∧ s.DataLength = a.DataLength ∧ s.Packets = a.Packets ∧
    s.AllKeepalive = a.AllKeepalive

theorem linkRefines_init (Reserved : NbRef → WSK_BUF_LIST) :
    LinkRefines [] (SendLoop.init Reserved) ⟨[], 0, 0, true⟩ :=
  ⟨.nil _, rfl, rfl, rfl, rfl, rfl⟩

/-- One iteration of the inner loop appends the `NET_BUFFER` at a fresh place
    to the linked list, as `scanNb` appends its buffer to the scan. -/
theorem LinkRefines.linkNb {P : List (NbRef × WSK_BUF)} {s : SendLoop} {a : ChainScan} {r : NbRef}
    (h : LinkRefines P s a) (KeepaliveLen : BitVec 32) (Nb : NET_BUFFER) (hnd : (P.map Prod.fst).Nodup)
    (hr : r ∉ P.map Prod.fst) :
    LinkRefines (P ++ [(r, Nb.wskBuf)]) (linkNb KeepaliveLen s r Nb) (scanNb KeepaliveLen a Nb) := by
  obtain ⟨hseg, hlast, hbufs, hlen, hpk, hka⟩ := h
  refine ⟨?_, by simp [wireguard.linkNb], by simp [scanNb, hbufs], by simp [wireguard.linkNb, scanNb, hlen],
    by simp [wireguard.linkNb, scanNb, hpk], by simp [wireguard.linkNb, scanNb, hka]⟩
  rcases List.eq_nil_or_concat P with rfl | ⟨P, ⟨l, bl⟩, rfl⟩
  · have hfirst := hseg.nil_eq
    simp only [List.getLast?_nil, Option.map_none'] at hlast
    simp only [wireguard.linkNb, hlast, Option.isSome_none, Bool.false_eq_true, if_false, List.nil_append]
    exact .cons (Function.update_same _ _ _) (.nil _)
  · rw [List.concat_eq_append] at hseg hlast hnd hr ⊢
    rw [List.getLast?_concat, Option.map_some'] at hlast
    obtain ⟨hP, hl⟩ := hseg.split_last
    have hrl : r ≠ l := fun h => hr (by simp [h])
    rw [List.map_append] at hnd
    have hlP : l ∉ P.map Prod.fst := by
      simpa using (List.nodup_append.mp hnd).2.2
    have hlr : Function.update s.Slots r ⟨none, Nb.wskBuf⟩ l = s.Slots l := Function.update_noteq hrl.symm _ _
    simp only [wireguard.linkNb, hlast, hlr, hl, Option.isSome_some, if_true, List.append_assoc,
      List.singleton_append]
    refine (hP.frame fun p hp => ?_).append (.cons (Function.update_same _ _ _) (.cons ?_ (.nil _)))
    · have hpl : p.1 ≠ l := fun h => hlP (List.mem_map.mpr ⟨p, hp, h⟩)
      have hpr : p.1 ≠ r := fun h => hr (List.mem_map.mpr ⟨p, List.mem_append_left _ hp, h⟩)
      rw [Function.update_noteq hpl, Function.update_noteq hpr]
    · rw [Function.update_noteq hrl, Function.update_same]

/-- The inner-loop body run over places `Q` after `P`, against `scanNb` run
    over their `NET_BUFFER`s. -/
theorem LinkRefines.foldl {P : List (NbRef × WSK_BUF)} {s : SendLoop} {a : ChainScan}
    (h : LinkRefines P s a) (KeepaliveLen : BitVec 32) (Q : List (NbRef × NET_BUFFER))
    (hnd : (P.map Prod.fst ++ Q.map Prod.fst).Nodup) :
    LinkRefines (P ++ Q.map fun q => (q.1, q.2.wskBuf))
      (Q.foldl (fun s q => wireguard.linkNb KeepaliveLen s q.1 q.2) s)
      ((Q.map Prod.snd).foldl (scanNb KeepaliveLen) a) := by
  induction Q generalizing P s a with
  | nil => simpa using h
  | cons q Q ih =>
    have hP := (List.nodup_append.mp hnd).1
    have hq : q.1 ∉ P.map Prod.fst := fun hm => (List.nodup_append.mp hnd).2.2 hm (List.mem_cons_self _ _)
    have h' := ih (h.linkNb KeepaliveLen q.2 hP hq) (by simpa using hnd)
    simpa using h'

theorem linkNbl_eq (KeepaliveLen : BitVec 32) (i j : Nat) (Nbs : List NET_BUFFER) (s : SendLoop) :
    linkNbl KeepaliveLen i j Nbs s = (nblNbs i j Nbs).foldl (fun s q => linkNb KeepaliveLen s q.1 q.2) s := by
  induction Nbs generalizing j s with
  | nil => rfl
  | cons Nb Nbs ih => exact ih (j + 1) _

/-- The two nested loops are one loop over the places of the chain. -/
theorem linkChain_eq (KeepaliveLen : BitVec 32) (i : Nat) (First : List (List NET_BUFFER)) (s : SendLoop) :
    linkChain KeepaliveLen i First s = (chainNbs i First).foldl (fun s q => linkNb KeepaliveLen s q.1 q.2) s := by
  induction First generalizing i s with
  | nil => rfl
  | cons Nbl Nbls ih => rw [linkChain, ih, linkNbl_eq, chainNbs, List.foldl_append]

/-- The loops of `SocketSendNblsToPeer` refine `scanChain`: the
    `WSK_BUF_LIST` they link through the `NET_BUFFER`s holds, from
    `FirstWskBuf` to `NULL`, each `NET_BUFFER` of the chain once, in chain
    order, with the buffers `scanChain` lists, and the counters agree. -/
theorem sendLoop_refines (KeepaliveLen : BitVec 32) (First : List (List NET_BUFFER))
    (Reserved : NbRef → WSK_BUF_LIST) :
    LinkRefines ((chainNbs 0 First).map fun q => (q.1, q.2.wskBuf)) (sendLoop KeepaliveLen First Reserved)
      (scanChain KeepaliveLen First) := by
  rw [sendLoop, linkChain_eq, scanChain, ← List.foldl_flatten, ← chainNbs_snd 0 First]
  simpa using (linkRefines_init Reserved).foldl KeepaliveLen (chainNbs 0 First)
    (by simpa using nodup_chainNbs 0 First)

/-- The list read from `NET_BUFFER_WSK_BUF` of the first `NET_BUFFER` of a
    chain whose first NBL has one: the chain's `NET_BUFFER`s in chain order,
    up to `NULL`. -/
theorem sendLoop_walk (KeepaliveLen : BitVec 32) (Nb : NET_BUFFER) (Nbs : List NET_BUFFER)
    (Nbls : List (List NET_BUFFER)) (Reserved : NbRef → WSK_BUF_LIST) :
    let First := (Nb :: Nbs) :: Nbls
    walkWskBufList (sendLoop KeepaliveLen First Reserved).Slots First.flatten.length (NET_BUFFER_LIST_FIRST_NB First) =
      some ((chainNbs 0 First).map fun q => (q.1, q.2.wskBuf)) := by
  intro First
  obtain ⟨hseg, -⟩ := sendLoop_refines KeepaliveLen First Reserved
  have hfirst : (sendLoop KeepaliveLen First Reserved).FirstWskBuf = NET_BUFFER_LIST_FIRST_NB First := hseg.head_eq
  rw [← hfirst, ← length_chainNbs 0 First, ← List.length_map (chainNbs 0 First) fun q => (q.1, q.2.wskBuf)]
  exact hseg.walk

/-- Whatever the chain, the list the send hands on ends after at most the
    chain's `NET_BUFFER`s. -/
theorem sendLoop_walk_le (KeepaliveLen : BitVec 32) (First : List (List NET_BUFFER))
    (Reserved : NbRef → WSK_BUF_LIST) :
    ∃ Bufs, walkWskBufList (sendLoop KeepaliveLen First Reserved).Slots First.flatten.length
      (NET_BUFFER_LIST_FIRST_NB First) = some Bufs ∧ Bufs.length ≤ First.flatten.length := by
  match First with
  | (Nb :: Nbs) :: Nbls =>
    refine ⟨_, sendLoop_walk KeepaliveLen Nb Nbs Nbls Reserved, ?_⟩
    rw [List.length_map, length_chainNbs]
  | [] | [] :: _ => exact ⟨[], walkWskBufList_none _ _, Nat.zero_le _⟩

/-! ## What `SocketSendNblsToPeer` hands on -/

/-- Once the context is allocated and the resolve succeeded, the send writes
    `*AllKeepalive` from the loops; it calls the provider exactly when it
    succeeds, with a context holding the resolved endpoint and the chain in
    its linked cells, handing on the list from the chain's first
    `NET_BUFFER`; and a success adds the loops' counters. -/
theorem socketSendNblsToPeer_resolved {KeepaliveLen : BitVec 32} {o : SendOracle}
    {Resolved : NTSTATUS × ENDPOINT} {First : List (List NET_BUFFER)} {Reserved : NbRef → WSK_BUF_LIST}
    {c : TxCounters} (hne : First ≠ []) (hctx : o.CtxAllocate = true) (hres : NT_SUCCESS Resolved.1 = true) :
    let r := SocketSendNblsToPeer KeepaliveLen o Resolved First Reserved c
    let Loop := sendLoop KeepaliveLen First Reserved
    r.2 = some Loop.AllKeepalive ∧
      (r.1.Status = STATUS_SUCCESS ↔ ∃ Ctx Call, r.1.Dispatched = some (Ctx, Call)) ∧
      (∀ Ctx Call, r.1.Dispatched = some (Ctx, Call) →
        Ctx = ⟨Resolved.2, .FirstNbl First Loop.Slots⟩ ∧
          Call.Buffers = .List Loop.Slots (NET_BUFFER_LIST_FIRST_NB First)) ∧
      (r.1.Status = STATUS_SUCCESS → r.1.Counters =
        ⟨c.TxBytes + Loop.DataLength, c.ifHCOutOctets + Loop.DataLength,
          c.ifHCOutUcastOctets + Loop.DataLength, c.ifHCOutUcastPkts + Loop.Packets⟩) := by
  obtain ⟨Nbl, Nbls, rfl⟩ := List.exists_cons_of_ne_nil hne
  simp only [SocketSendNblsToPeer, List.isEmpty_cons, hctx, hres, Bool.not_true, Bool.false_eq_true, if_false]
  rcases sendAsync_cases o ⟨Resolved.2, .FirstNbl (Nbl :: Nbls) (sendLoop KeepaliveLen (Nbl :: Nbls) Reserved).Slots⟩
    with h | ⟨Call, h⟩
  · simp only [h, show (!NT_SUCCESS STATUS_NETWORK_UNREACHABLE) = true by decide, if_true]
    exact ⟨trivial, ⟨fun hs => absurd hs (by decide), fun ⟨_, _, hd⟩ => nomatch hd⟩, fun _ _ hd => (nomatch hd),
      fun hs => absurd hs (by decide)⟩
  · simp only [h, nt_success_STATUS_SUCCESS, Bool.not_true, Bool.false_eq_true, if_false, Option.map_some']
    exact ⟨trivial, ⟨fun _ => ⟨_, _, rfl⟩, fun _ => trivial⟩,
      fun _ _ hd => by cases hd; exact ⟨rfl, (sendAsync_firstNbl rfl h).2⟩, fun _ => trivial⟩

/-- For every chain whose first NBL has a `NET_BUFFER`, once the context is
    allocated and the resolve succeeded: the `WSK_BUF_LIST` read from
    `NET_BUFFER_WSK_BUF` of the first `NET_BUFFER` ends in `NULL` after the
    chain's `NET_BUFFER`s, each once and in chain order, each with its own
    MDL, offset and length; the counters are the `ULONG64` sums;
    `*AllKeepalive` says every packet has the keepalive's length; the send
    returns `STATUS_SUCCESS` exactly when it calls the provider, and the call
    is handed that list, from the chain's first `NET_BUFFER`; and a success
    adds the counters to the statistics. -/
theorem socketSendNblsToPeer_links_chain (KeepaliveLen : BitVec 32) (o : SendOracle)
    (Resolved : NTSTATUS × ENDPOINT) (Nb : NET_BUFFER) (Nbs : List NET_BUFFER) (Nbls : List (List NET_BUFFER))
    (c : TxCounters) (Reserved : NbRef → WSK_BUF_LIST) (hctx : o.CtxAllocate = true)
    (hres : NT_SUCCESS Resolved.1 = true) :
    let First := (Nb :: Nbs) :: Nbls
    let Loop := sendLoop KeepaliveLen First Reserved
    let L := (chainNbs 0 First).map fun q => (q.1, q.2.wskBuf)
    let r := SocketSendNblsToPeer KeepaliveLen o Resolved First Reserved c
    walkWskBufList Loop.Slots First.flatten.length (NET_BUFFER_LIST_FIRST_NB First) = some L ∧
      (L.map Prod.fst).Nodup ∧ (chainNbs 0 First).map Prod.snd = First.flatten ∧
      Loop.DataLength = (First.flatten.map fun Nb => Nb.DataLength.setWidth 64).sum ∧
      Loop.Packets = BitVec.ofNat 64 First.flatten.length ∧
      (Loop.AllKeepalive = true ↔ ∀ Nb ∈ First.flatten, Nb.DataLength = KeepaliveLen) ∧
      r.2 = some Loop.AllKeepalive ∧
      (r.1.Status = STATUS_SUCCESS ↔ ∃ Ctx Call, r.1.Dispatched = some (Ctx, Call)) ∧
      (∀ Ctx Call, r.1.Dispatched = some (Ctx, Call) →
        Ctx.Endpoint = Resolved.2 ∧ Call.Buffers = .List Loop.Slots (NET_BUFFER_LIST_FIRST_NB First)) ∧
      (r.1.Status = STATUS_SUCCESS → r.1.Counters =
        ⟨c.TxBytes + Loop.DataLength, c.ifHCOutOctets + Loop.DataLength,
          c.ifHCOutUcastOctets + Loop.DataLength, c.ifHCOutUcastPkts + Loop.Packets⟩) := by
  intro First Loop L r
  obtain ⟨-, -, -, hlen, hpk, hka⟩ := sendLoop_refines KeepaliveLen First Reserved
  obtain ⟨hr, hdisp, hcall, hcnt⟩ := socketSendNblsToPeer_resolved (List.cons_ne_nil _ _) hctx hres
  have hscan := scanChain_eq KeepaliveLen First
  refine ⟨sendLoop_walk KeepaliveLen Nb Nbs Nbls Reserved, by simpa [L] using nodup_chainNbs 0 First,
    chainNbs_snd 0 First, ?_, ?_, ?_, hr, hdisp, fun Ctx Call hd => ?_, hcnt⟩
  · rw [hlen, hscan]
  · rw [hpk, hscan]
  · rw [hka, hscan]
    simp only [List.all_eq_true, beq_iff_eq]
  · obtain ⟨rfl, hbuf⟩ := hcall Ctx Call hd
    exact ⟨rfl, hbuf⟩

/-- Two NBLs, of two packets and one, over reserved areas that held stale
    links. -/
theorem socketSendNblsToPeer_links_chain_two_nbls :
    let o : SendOracle := ⟨true, none, true, true, false, true⟩
    let Resolved : NTSTATUS × ENDPOINT :=
      (STATUS_SUCCESS, { ENDPOINT.zero with Addr := ⟨AF_INET, 0x6CCA#16, 0x0A0200C0#32, 0, 0⟩ })
    let First : List (List NET_BUFFER) := [[⟨1, 0, 148#32⟩, ⟨2, 16#32, 32#32⟩], [⟨3, 0, 96#32⟩]]
    let Reserved : NbRef → WSK_BUF_LIST := fun _ => ⟨some (7, 7), ⟨0, 0, 0⟩⟩
    o.CtxAllocate = true ∧ NT_SUCCESS Resolved.1 = true ∧
      walkWskBufList (sendLoop 32#32 First Reserved).Slots 3 (NET_BUFFER_LIST_FIRST_NB First) =
        some [((0, 0), ⟨1, 0, 148#64⟩), ((0, 1), ⟨2, 16#32, 32#64⟩), ((1, 0), ⟨3, 0, 96#64⟩)] := by
  intro o Resolved First Reserved
  exact ⟨rfl, nt_success_STATUS_SUCCESS, (socketSendNblsToPeer_links_chain 32#32 o Resolved ⟨1, 0, 148#32⟩
    [⟨2, 16#32, 32#32⟩] [[⟨3, 0, 96#32⟩]] ⟨0, 0, 0, 0⟩ Reserved rfl nt_success_STATUS_SUCCESS).1⟩

/-! ## Over the send's whole life -/

/-- `SocketSendNblsToPeer`, when the polyfill, if used, gets its
    `RefCount`, over a chain of fewer than `2^32` packets: over the send's
    whole life, whatever the allocations, the resolve, the reserved areas and
    the order of the provider's completions, the context goes back to the
    cache as often as it was taken and the chain is freed once. -/
theorem socketSendNblsToPeer_frees_all (KeepaliveLen : BitVec 32) (o : SendOracle) (Resolved : NTSTATUS × ENDPOINT)
    (First : List (List NET_BUFFER)) (Reserved : NbRef → WSK_BUF_LIST) (c : TxCounters) {e : List SendEvent}
    (hbufs : First.flatten.length < 2 ^ 32) (hpoly : o.NoWskSendMessages = true → o.RefCountAllocate = true)
    (hlife : SendLife (SocketSendNblsToPeer KeepaliveLen o Resolved First Reserved c).1 e) :
    FreesAll (if First.isEmpty then 0 else 1) e := by
  rcases socketSendNblsToPeer_returns KeepaliveLen o Resolved First Reserved c with
    h | ⟨hev, hne, Ctx, Call, hd, hnbl, hroute, hbuf⟩
  · exact hlife.freesAll (.inl h)
  · refine hlife.freesAll (.inr ⟨Ctx, Call, hd, ?_, by simp [hev, hne, SendComplete, hnbl, FreesAll]⟩)
    rw [hroute]
    cases hno : o.NoWskSendMessages
    · exact .inl rfl
    · obtain ⟨Bufs, hwalk, hlen⟩ := sendLoop_walk_le KeepaliveLen First Reserved
      exact .inr ⟨by rw [hpoly hno]; rfl, _, _, _, Bufs, hbuf, hwalk, Nat.lt_of_le_of_lt hlen hbufs⟩

theorem socketSendNblsToPeer_frees_all_one_packet :
    let o : SendOracle := ⟨true, none, true, true, false, false⟩
    let Endpoint : ENDPOINT :=
      { ENDPOINT.zero with Addr := ⟨AF_INET, 0x6CCA#16, 0x0A0200C0#32, 0, 0⟩, SrcCmsghdr := cmsghdrV4 }
    let First : List (List NET_BUFFER) := [[⟨1, 0, 148#32⟩]]
    let Reserved : NbRef → WSK_BUF_LIST := fun _ => ⟨none, ⟨0, 0, 0⟩⟩
    let r := (SocketSendNblsToPeer 32#32 o (STATUS_SUCCESS, Endpoint) First Reserved ⟨0, 0, 0, 0⟩).1
    First.flatten.length < 2 ^ 32 ∧ (o.NoWskSendMessages = true → o.RefCountAllocate = true) ∧
      ∃ e, SendLife r e ∧ FreesAll (if First.isEmpty then 0 else 1) e := by
  intro o Endpoint First Reserved r
  obtain ⟨Ctx, Call, hd, hh⟩ : ∃ Ctx Call, r.Dispatched = some (Ctx, Call) ∧ Call.Routine.HandsIrp = true := by
    simp only [r, o, Endpoint]
    exact ⟨_, _, rfl, rfl⟩
  exact ⟨by decide, by decide, _, .provider hd hh,
    socketSendNblsToPeer_frees_all _ _ _ _ _ _ (by decide) (by decide) (.provider hd hh)⟩

end wireguard
