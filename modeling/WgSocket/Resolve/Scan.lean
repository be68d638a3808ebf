import Mathlib.Data.Option.Defs
import WgSocket.Cidr
import WgSocket.Endpoint.Update

namespace wireguard

/-- A computation of the resolver's unlocked part: each `read` is one access to
    the shared `Endpoint->Addr`, which other CPUs may rewrite in between. -/
inductive Reads (α : Type)
  | pure (a : α)
  | read (k : SOCKADDR_INET → Reads α)

namespace Reads

def bind {α β : Type} : Reads α → (α → Reads β) → Reads β
  | pure a, f => f a
  | read k, f => read fun x => (k x).bind f

/-- The computation run with `Endpoint->Addr` left alone throughout. -/
def run {α : Type} (Addr : SOCKADDR_INET) : Reads α → α
  | pure a => a
  | read k => (k Addr).run Addr

@[simp] theorem run_pure {α : Type} (Addr : SOCKADDR_INET) (a : α) : (pure a).run Addr = a := rfl

@[simp] theorem run_read {α : Type} (Addr : SOCKADDR_INET) (k : SOCKADDR_INET → Reads α) :
    (read k).run Addr = (k Addr).run Addr := rfl

@[simp] theorem run_bind {α β : Type} (Addr : SOCKADDR_INET) (x : Reads α) (f : α → Reads β) :
    (x.bind f).run Addr = (f (x.run Addr)).run Addr := by
  induction x with
  | pure a => rfl
  | read k ih => exact ih Addr

end Reads

/-- The fields of a `MIB_IPFORWARD_ROW2` the scan reads. -/
structure MIB_IPFORWARD_ROW2 where
  InterfaceLuid : BitVec 64
  InterfaceIndex : BitVec 32
  DestinationPrefix : IP_ADDRESS_PREFIX
  Metric : BitVec 32
deriving DecidableEq, Repr

def IfOperStatusUp : BitVec 32 := 1#32

/-- What `GetIfEntry2` and `GetIpInterfaceEntry` answer for one table entry:
    the operational status, and the interface metric for the family asked
    (`none` for a failed call). -/
structure InterfaceAnswers where
  GetIfEntry2 : Option (BitVec 32)
  GetIpInterfaceEntry : ADDRESS_FAMILY → Option (BitVec 32)

/-- The scan's best-so-far: `BestIndex`, `BestCidr`, `BestMetric`, `BestLuid`. -/
structure ScanState where
  BestIndex : BitVec 32
  BestCidr : BitVec 32
  BestMetric : BitVec 32
  BestLuid : BitVec 64
deriving DecidableEq, Repr

def ScanState.init : ScanState := ⟨0, 0, ~~~0#32, 0⟩

/-- Lines 272-285: the interface queries, then the 32-bit metric sum and the
    best-so-far update. -/
def scanInterface (Row : MIB_IPFORWARD_ROW2) (If : InterfaceAnswers) (s : ScanState) : Reads ScanState :=
  match If.GetIfEntry2 with
  | none => .pure s
  | some OperStatus =>
    if OperStatus != IfOperStatusUp then .pure s
    else .read fun Addr =>
      match If.GetIpInterfaceEntry Addr.si_family with
      | none => .pure s
      | some IfMetric =>
        let Metric := Row.Metric + IfMetric
        let PrefixLength := Row.DestinationPrefix.PrefixLength.setWidth 32
        if PrefixLength == s.BestCidr && Metric > s.BestMetric then .pure s
        else .pure ⟨Row.InterfaceIndex, PrefixLength, Metric, Row.InterfaceLuid⟩

/-- Lines 269-271: the IPv6 CIDR test, then the interface part. -/
def scanCidrV6 (Row : MIB_IPFORWARD_ROW2) (If : InterfaceAnswers) (s : ScanState) : Reads ScanState :=
  .read fun Addr =>
    if Addr.si_family == AF_INET6 then
      .read fun Addr' =>
        if !CidrMaskMatchV6 Addr'.Ipv6.sin6_addr Row.DestinationPrefix then .pure s
        else scanInterface Row If s
    else scanInterface Row If s

/-- One iteration of the scan over the forwarding table (lines 262-285). -/
def scanEntry (DeviceLuid : BitVec 64) (Row : MIB_IPFORWARD_ROW2) (If : InterfaceAnswers) (s : ScanState) :
    Reads ScanState :=
  if Row.InterfaceLuid == DeviceLuid then .pure s
  else if Row.DestinationPrefix.PrefixLength.setWidth 32 < s.BestCidr then .pure s
  else .read fun Addr =>
    if Addr.si_family == AF_INET then
      .read fun Addr' =>
        if !CidrMaskMatchV4 Addr'.Ipv4.sin_addr Row.DestinationPrefix then .pure s
        else scanCidrV6 Row If s
    else scanCidrV6 Row If s

/-- The loop over `Table->Table[0 .. NumEntries)`, each entry with the answers
    the interface queries give for it. -/
def scanTable (DeviceLuid : BitVec 64) : List (MIB_IPFORWARD_ROW2 × InterfaceAnswers) → ScanState →
    Reads ScanState
  | [], s => .pure s
  | (Row, If) :: Table, s => (scanEntry DeviceLuid Row If s).bind (scanTable DeviceLuid Table)

/-- The total metric an entry is ranked by when it is eligible for a fixed
    address: not on the tunnel's own interface, its prefix CIDR-matching, its
    interface up and its IP interface row read; route and interface metric
    summed as unbounded integers. -/
def eligibleMetric (DeviceLuid : BitVec 64) (Addr : SOCKADDR_INET) (Row : MIB_IPFORWARD_ROW2)
    (If : InterfaceAnswers) : Option Nat :=
  if Row.InterfaceLuid == DeviceLuid then none
  else if Addr.si_family == AF_INET && !CidrMaskMatchV4 Addr.Ipv4.sin_addr Row.DestinationPrefix then none
  else if Addr.si_family == AF_INET6 && !CidrMaskMatchV6 Addr.Ipv6.sin6_addr Row.DestinationPrefix then none
  else if If.GetIfEntry2 != some IfOperStatusUp then none
  else (If.GetIpInterfaceEntry Addr.si_family).map fun IfMetric => Row.Metric.toNat + IfMetric.toNat

/-- `BestIndex` names an eligible entry of longest prefix and, among those, of
    least total metric; or no entry is eligible and it is 0. -/
def BestIndexSpec (DeviceLuid : BitVec 64) (Addr : SOCKADDR_INET)
    (Table : List (MIB_IPFORWARD_ROW2 × InterfaceAnswers)) (BestIndex : BitVec 32) : Prop :=
  (∃ e ∈ Table, ∃ m ∈ eligibleMetric DeviceLuid Addr e.1 e.2, BestIndex = e.1.InterfaceIndex ∧
    ∀ e' ∈ Table, ∀ m' ∈ eligibleMetric DeviceLuid Addr e'.1 e'.2,
      e'.1.DestinationPrefix.PrefixLength < e.1.DestinationPrefix.PrefixLength ∨
      (e'.1.DestinationPrefix.PrefixLength = e.1.DestinationPrefix.PrefixLength ∧ m ≤ m')) ∨
  ((∀ e ∈ Table, eligibleMetric DeviceLuid Addr e.1 e.2 = none) ∧ BestIndex = 0)

instance (DeviceLuid : BitVec 64) (Addr : SOCKADDR_INET) (Table : List (MIB_IPFORWARD_ROW2 × InterfaceAnswers))
    (BestIndex : BitVec 32) : Decidable (BestIndexSpec DeviceLuid Addr Table BestIndex) :=
  inferInstanceAs (Decidable (_ ∨ _))

/-- Two default routes to `192.0.2.10`: metrics 5 + 5 on interface 1, and
    `0xFFFFFFFF` + 2 on interface 2. The second's sum wraps to 1 in the
    scan's `ULONG`, so the scan picks interface 2 though its total metric is
    `2^32 + 1`. -/
theorem scanTable_prefers_wrapped_metric_sum :
    let Addr : SOCKADDR_INET := ⟨AF_INET, 0x6CCA#16, 0x0A0200C0#32, 0, 0⟩
    let Default : IP_ADDRESS_PREFIX := ⟨⟨AF_INET, 0, 0, 0, 0⟩, 0#8⟩
    let Table : List (MIB_IPFORWARD_ROW2 × InterfaceAnswers) :=
      [(⟨1#64, 1#32, Default, 5#32⟩, ⟨some IfOperStatusUp, fun _ => some 5#32⟩),
       (⟨2#64, 2#32, Default, 0xFFFFFFFF#32⟩, ⟨some IfOperStatusUp, fun _ => some 2#32⟩)]
    ((scanTable 99#64 Table ScanState.init).run Addr).BestIndex = 2#32 ∧
      ¬ BestIndexSpec 99#64 Addr Table ((scanTable 99#64 Table ScanState.init).run Addr).BestIndex := by
  decide

/-! ## The selection the scan makes -/

/-- For the address read, the metric the scan ranks an entry by once it has
    passed every test: not on the tunnel's own interface, its prefix
    CIDR-matching, its interface up and its IP interface row read. The sum is
    the `ULONG` of line 276, modulo `2^32`. -/
def scanMetric (DeviceLuid : BitVec 64) (Addr : SOCKADDR_INET) (Row : MIB_IPFORWARD_ROW2)
    (If : InterfaceAnswers) : Option (BitVec 32) :=
  if Row.InterfaceLuid == DeviceLuid then none
  else if Addr.si_family == AF_INET && !CidrMaskMatchV4 Addr.Ipv4.sin_addr Row.DestinationPrefix then none
  else if Addr.si_family == AF_INET6 && !CidrMaskMatchV6 Addr.Ipv6.sin6_addr Row.DestinationPrefix then none
  else if If.GetIfEntry2 != some IfOperStatusUp then none
  else (If.GetIpInterfaceEntry Addr.si_family).map fun IfMetric => Row.Metric + IfMetric

/-- The best-so-far once `Row` has been taken with `Metric` (lines 282-285). -/
def ScanState.of (Row : MIB_IPFORWARD_ROW2) (Metric : BitVec 32) : ScanState :=
  ⟨Row.InterfaceIndex, Row.DestinationPrefix.PrefixLength.setWidth 32, Metric, Row.InterfaceLuid⟩

theorem scanCidrV6_run (Row : MIB_IPFORWARD_ROW2) (If : InterfaceAnswers) (s : ScanState) (Addr : SOCKADDR_INET) :
    (scanCidrV6 Row If s).run Addr =
      if Addr.si_family == AF_INET6 && !CidrMaskMatchV6 Addr.Ipv6.sin6_addr Row.DestinationPrefix then s
      else (scanInterface Row If s).run Addr := by
  simp only [scanCidrV6, Reads.run_read]
  by_cases h6 : (Addr.si_family == AF_INET6) = true
  · simp only [h6, Bool.true_and, if_true, Reads.run_read]
    split <;> rfl
  · simp only [h6, Bool.false_and, Bool.false_eq_true, if_false]

theorem scanEntry_run (DeviceLuid : BitVec 64) (Row : MIB_IPFORWARD_ROW2) (If : InterfaceAnswers) (s : ScanState)
    (Addr : SOCKADDR_INET) :
    (scanEntry DeviceLuid Row If s).run Addr =
      if Row.InterfaceLuid == DeviceLuid then s
      else if Row.DestinationPrefix.PrefixLength.setWidth 32 < s.BestCidr then s
      else if Addr.si_family == AF_INET && !CidrMaskMatchV4 Addr.Ipv4.sin_addr Row.DestinationPrefix then s
      else (scanCidrV6 Row If s).run Addr := by
  simp only [scanEntry]
  split
  · rfl
  split
  · rfl
  simp only [Reads.run_read]
  by_cases h4 : (Addr.si_family == AF_INET) = true
  · simp only [h4, Bool.true_and, if_true, Reads.run_read]
    split <;> rfl
  · simp only [h4, Bool.false_and, Bool.false_eq_true, if_false]

theorem scanInterface_run (Row : MIB_IPFORWARD_ROW2) (If : InterfaceAnswers) (s : ScanState) (Addr : SOCKADDR_INET) :
    (scanInterface Row If s).run Addr =
      if If.GetIfEntry2 != some IfOperStatusUp then s
      else match If.GetIpInterfaceEntry Addr.si_family with
        | none => s
        | some IfMetric =>
          if Row.DestinationPrefix.PrefixLength.setWidth 32 == s.BestCidr && Row.Metric + IfMetric > s.BestMetric
          then s else ScanState.of Row (Row.Metric + IfMetric) := by
  simp only [scanInterface]
  rcases If.GetIfEntry2 with _ | OperStatus
  · rfl
  by_cases hu : OperStatus = IfOperStatusUp
  · subst hu
    simp only [bne_self_eq_false, Bool.false_eq_true, if_false, Reads.run_read]
    rcases If.GetIpInterfaceEntry Addr.si_family with _ | IfMetric
    · rfl
    · dsimp only
      split <;> rfl
  · have hne : (OperStatus != IfOperStatusUp) = true := bne_iff_ne.mpr hu
    have hne' : (some OperStatus != some IfOperStatusUp) = true := bne_iff_ne.mpr (by simpa using hu)
    simp only [hne, hne', if_true, Reads.run_pure]

theorem setWidth_prefixLength_toNat (PrefixLength : BitVec 8) : (PrefixLength.setWidth 32).toNat = PrefixLength.toNat :=
  by simp only [BitVec.toNat_setWidth]; exact Nat.mod_eq_of_lt (Nat.lt_trans PrefixLength.isLt (by decide))

@[simp] theorem ScanState.of_BestCidr_toNat (Row : MIB_IPFORWARD_ROW2) (Metric : BitVec 32) :
    (ScanState.of Row Metric).BestCidr.toNat = Row.DestinationPrefix.PrefixLength.toNat :=
  setWidth_prefixLength_toNat _

/-- An entry that fails a test leaves the best-so-far as it is. -/
theorem scanEntry_run_of_none {DeviceLuid : BitVec 64} {Addr : SOCKADDR_INET} {Row : MIB_IPFORWARD_ROW2}
    {If : InterfaceAnswers} (s : ScanState) (h : scanMetric DeviceLuid Addr Row If = none) :
    (scanEntry DeviceLuid Row If s).run Addr = s := by
  unfold scanMetric at h
  rw [scanEntry_run, scanCidrV6_run, scanInterface_run]
  by_cases hl : (Row.InterfaceLuid == DeviceLuid) = true
  · rw [if_pos hl]
  rw [if_neg hl] at h ⊢
  split
  · rfl
  by_cases h4 : (Addr.si_family == AF_INET && !CidrMaskMatchV4 Addr.Ipv4.sin_addr Row.DestinationPrefix) = true
  · rw [if_pos h4]
  rw [if_neg h4] at h ⊢
  by_cases h6 : (Addr.si_family == AF_INET6 && !CidrMaskMatchV6 Addr.Ipv6.sin6_addr Row.DestinationPrefix) = true
  · rw [if_pos h6]
  rw [if_neg h6] at h ⊢
  by_cases hg : (If.GetIfEntry2 != some IfOperStatusUp) = true
  · rw [if_pos hg]
  rw [if_neg hg] at h ⊢
  rw [Option.map_eq_none'.mp h]

/-- An entry that passes every test is taken unless its prefix is shorter
    than the best so far's, or as long with a larger metric. -/
theorem scanEntry_run_of_some {DeviceLuid : BitVec 64} {Addr : SOCKADDR_INET} {Row : MIB_IPFORWARD_ROW2}
    {If : InterfaceAnswers} {Metric : BitVec 32} (s : ScanState) (h : scanMetric DeviceLuid Addr Row If = some Metric) :
    (scanEntry DeviceLuid Row If s).run Addr =
      if Row.DestinationPrefix.PrefixLength.toNat < s.BestCidr.toNat ∨
          (Row.DestinationPrefix.PrefixLength.toNat = s.BestCidr.toNat ∧ s.BestMetric < Metric) then s
      else ScanState.of Row Metric := by
  unfold scanMetric at h
  split at h
  · cases h
  next hl =>
  split at h
  · cases h
  next h4 =>
  split at h
  · cases h
  next h6 =>
  split at h
  · cases h
  next hg =>
  obtain ⟨IfMetric, hi, rfl⟩ := Option.map_eq_some'.mp h
  have hPL := setWidth_prefixLength_toNat Row.DestinationPrefix.PrefixLength
  rw [scanEntry_run, scanCidrV6_run, scanInterface_run, if_neg hl]
  by_cases h1 : Row.DestinationPrefix.PrefixLength.toNat < s.BestCidr.toNat
  · rw [if_pos (by rw [BitVec.lt_def, hPL]; exact h1), if_pos (.inl h1)]
  rw [if_neg (by rw [BitVec.lt_def, hPL]; exact h1), if_neg h4, if_neg h6, if_neg hg, hi]
  dsimp only
  have hc : (Row.DestinationPrefix.PrefixLength.setWidth 32 == s.BestCidr &&
      decide (Row.Metric + IfMetric > s.BestMetric)) = true ↔
      Row.DestinationPrefix.PrefixLength.toNat = s.BestCidr.toNat ∧ s.BestMetric < Row.Metric + IfMetric := by
    simp only [Bool.and_eq_true, beq_iff_eq, decide_eq_true_eq, BitVec.toNat_eq, hPL, gt_iff_lt]
  by_cases h2 : Row.DestinationPrefix.PrefixLength.toNat = s.BestCidr.toNat ∧ s.BestMetric < Row.Metric + IfMetric
  · rw [if_pos (hc.mpr h2), if_pos (.inr h2)]
  · rw [if_neg (mt hc.mp h2), if_neg (not_or.mpr ⟨h1, h2⟩)]

@[simp] theorem ScanState.of_BestMetric (Row : MIB_IPFORWARD_ROW2) (Metric : BitVec 32) :
    (ScanState.of Row Metric).BestMetric = Metric := rfl

@[simp] theorem ScanState.of_BestIndex (Row : MIB_IPFORWARD_ROW2) (Metric : BitVec 32) :
    (ScanState.of Row Metric).BestIndex = Row.InterfaceIndex := rfl

section Selection

variable {DeviceLuid : BitVec 64} {Addr : SOCKADDR_INET}

/-- `e`, taken with `Metric`, is kept over the entries `A` scanned before it
    and `B` scanned after it: each of them that passes every test has a
    shorter prefix, or one as long with a metric no smaller (before `e`) or
    larger (after `e`). -/
def KeptOver (DeviceLuid : BitVec 64) (Addr : SOCKADDR_INET) (A B : List (MIB_IPFORWARD_ROW2 × InterfaceAnswers))
    (e : MIB_IPFORWARD_ROW2) (Metric : BitVec 32) : Prop :=
  (∀ e' ∈ A, ∀ m ∈ scanMetric DeviceLuid Addr e'.1 e'.2,
    e'.1.DestinationPrefix.PrefixLength.toNat < e.DestinationPrefix.PrefixLength.toNat ∨
    e'.1.DestinationPrefix.PrefixLength.toNat = e.DestinationPrefix.PrefixLength.toNat ∧ Metric ≤ m) ∧
  (∀ e' ∈ B, ∀ m ∈ scanMetric DeviceLuid Addr e'.1 e'.2,
    e'.1.DestinationPrefix.PrefixLength.toNat < e.DestinationPrefix.PrefixLength.toNat ∨
    e'.1.DestinationPrefix.PrefixLength.toNat = e.DestinationPrefix.PrefixLength.toNat ∧ Metric < m)

/-- What a scan of `Table` ends with: the initial best-so-far if no entry
    passes every test; otherwise that of an entry kept over all the others. -/
def ScanSelected (DeviceLuid : BitVec 64) (Addr : SOCKADDR_INET) (Table : List (MIB_IPFORWARD_ROW2 × InterfaceAnswers))
    (s : ScanState) : Prop :=
  ((∀ e ∈ Table, scanMetric DeviceLuid Addr e.1 e.2 = none) ∧ s = ScanState.init) ∨
  ∃ A e B Metric, Table = A ++ e :: B ∧ scanMetric DeviceLuid Addr e.1 e.2 = some Metric ∧
    KeptOver DeviceLuid Addr A B e.1 Metric ∧ s = ScanState.of e.1 Metric

/-- The kept entry is as good as every entry of the table, itself included. -/
theorem KeptOver.all {A B : List (MIB_IPFORWARD_ROW2 × InterfaceAnswers)} {e : MIB_IPFORWARD_ROW2 × InterfaceAnswers}
    {Metric : BitVec 32} (hk : KeptOver DeviceLuid Addr A B e.1 Metric)
    (he : scanMetric DeviceLuid Addr e.1 e.2 = some Metric) :
    ∀ e' ∈ A ++ e :: B, ∀ m ∈ scanMetric DeviceLuid Addr e'.1 e'.2,
      e'.1.DestinationPrefix.PrefixLength.toNat < e.1.DestinationPrefix.PrefixLength.toNat ∨
      e'.1.DestinationPrefix.PrefixLength.toNat = e.1.DestinationPrefix.PrefixLength.toNat ∧ Metric ≤ m := by
  intro e' he' m hm
  rcases List.mem_append.mp he' with he' | he'
  · exact hk.1 e' he' m hm
  rcases List.mem_cons.mp he' with rfl | he'
  · rw [he, Option.mem_def, Option.some.injEq] at hm
    exact .inr ⟨rfl, hm ▸ BitVec.le_refl _⟩
  · exact (hk.2 e' he' m hm).imp_right fun h => ⟨h.1, BitVec.le_def.mpr (Nat.le_of_lt h.2)⟩

/-- One iteration of the loop keeps `ScanSelected` of the entries scanned. -/
theorem ScanSelected.step {P : List (MIB_IPFORWARD_ROW2 × InterfaceAnswers)} {s : ScanState}
    (h : ScanSelected DeviceLuid Addr P s) (x : MIB_IPFORWARD_ROW2 × InterfaceAnswers) :
    ScanSelected DeviceLuid Addr (P ++ [x]) ((scanEntry DeviceLuid x.1 x.2 s).run Addr) := by
  rcases hm : scanMetric DeviceLuid Addr x.1 x.2 with _ | m
  · rw [scanEntry_run_of_none s hm]
    rcases h with ⟨hall, rfl⟩ | ⟨A, e, B, M, rfl, he, hk, rfl⟩
    · refine .inl ⟨fun e' he' => ?_, rfl⟩
      rcases List.mem_append.mp he' with he' | he'
      · exact hall e' he'
      · rw [List.mem_singleton.mp he']; exact hm
    · refine .inr ⟨A, e, B ++ [x], M, by simp, he, ⟨hk.1, fun e' he' m' hm' => ?_⟩, rfl⟩
      rcases List.mem_append.mp he' with he' | he'
      · exact hk.2 e' he' m' hm'
      · rw [List.mem_singleton.mp he', hm] at hm'; cases hm'
  rw [scanEntry_run_of_some s hm]
  split
  next hkeep =>
    rcases h with ⟨-, rfl⟩ | ⟨A, e, B, M, rfl, he, hk, rfl⟩
    · -- nothing beats the initial best-so-far's `BestCidr` of 0 and `BestMetric` of `~0`
      have hm32 := m.isLt
      simp only [ScanState.init, BitVec.lt_def] at hkeep
      simp at hkeep
      omega
    · refine .inr ⟨A, e, B ++ [x], M, by simp, he, ⟨hk.1, fun e' he' m' hm' => ?_⟩, rfl⟩
      rcases List.mem_append.mp he' with he' | he'
      · exact hk.2 e' he' m' hm'
      · rw [List.mem_singleton.mp he', hm, Option.mem_def, Option.some.injEq] at hm'
        rw [List.mem_singleton.mp he', ← hm']
        simpa using hkeep
  next hrep =>
    refine .inr ⟨P, x, [], m, by simp, hm, ⟨fun e' he' m' hm' => ?_, fun _ h => by cases h⟩, rfl⟩
    rcases h with ⟨hall, -⟩ | ⟨A, e, B, M, rfl, he, hk, rfl⟩
    · rw [hall e' he'] at hm'; cases hm'
    · have hle := hk.all he e' he' m' hm'
      simp only [ScanState.of_BestCidr_toNat, ScanState.of_BestMetric] at hrep
      simp only [BitVec.le_def, BitVec.lt_def] at hle hrep ⊢
      omega

theorem ScanSelected.scanTable_run {P : List (MIB_IPFORWARD_ROW2 × InterfaceAnswers)} {s : ScanState}
    (h : ScanSelected DeviceLuid Addr P s) (Table : List (MIB_IPFORWARD_ROW2 × InterfaceAnswers)) :
    ScanSelected DeviceLuid Addr (P ++ Table) ((scanTable DeviceLuid Table s).run Addr) := by
  induction Table generalizing P s with
  | nil => simpa [scanTable] using h
  | cons x Table ih =>
    obtain ⟨Row, If⟩ := x
    have := ih (h.step (Row, If))
    rw [List.append_assoc, List.singleton_append] at this
    simpa only [scanTable, Reads.run_bind] using this

/-- For every forwarding table, every address read and every answer of the
    interface queries, the scan ends with the best-so-far of an entry that
    passes every test, kept over all the others: no other such entry has a
    longer prefix, none of the same length has a smaller `ULONG` metric sum,
    and none after it an equal one (a tie goes to the later entry). If no
    entry passes, `BestIndex` stays 0 with the initial `BestCidr` and
    `BestMetric`. -/
theorem scanTable_selects (DeviceLuid : BitVec 64) (Addr : SOCKADDR_INET)
    (Table : List (MIB_IPFORWARD_ROW2 × InterfaceAnswers)) :
    ScanSelected DeviceLuid Addr Table ((scanTable DeviceLuid Table ScanState.init).run Addr) :=
  ScanSelected.scanTable_run (P := []) (.inl ⟨fun _ h => absurd h (List.not_mem_nil _), rfl⟩) Table

/-- The scan's metric is the unbounded sum, taken modulo `2^32`. -/
theorem scanMetric_eq_map (DeviceLuid : BitVec 64) (Addr : SOCKADDR_INET) (Row : MIB_IPFORWARD_ROW2)
    (If : InterfaceAnswers) :
    scanMetric DeviceLuid Addr Row If = (eligibleMetric DeviceLuid Addr Row If).map (BitVec.ofNat 32) := by
  unfold scanMetric eligibleMetric
  repeat' split
  all_goals try rfl
  rw [Option.map_map]
  rfl

end Selection

/-- When no eligible entry's route and interface metrics sum to `2^32` or
    more, the scan makes the choice `BestIndexSpec` describes: an eligible
    entry of longest prefix and, among those, of least total metric; or 0 if
    none is eligible. -/
theorem scanTable_bestIndexSpec_of_no_wrap (DeviceLuid : BitVec 64) (Addr : SOCKADDR_INET)
    (Table : List (MIB_IPFORWARD_ROW2 × InterfaceAnswers))
    (hwrap : ∀ e ∈ Table, ∀ n ∈ eligibleMetric DeviceLuid Addr e.1 e.2, n < 2 ^ 32) :
    BestIndexSpec DeviceLuid Addr Table ((scanTable DeviceLuid Table ScanState.init).run Addr).BestIndex := by
  have hsel : ScanSelected DeviceLuid Addr ([] ++ Table) ((scanTable DeviceLuid Table ScanState.init).run Addr) :=
    ScanSelected.scanTable_run (.inl ⟨fun _ h => absurd h (List.not_mem_nil _), rfl⟩) Table
  rw [List.nil_append] at hsel
  -- with no wrap, the scan's metric of an eligible entry is its total metric
  have hmetric : ∀ e ∈ Table, ∀ M, scanMetric DeviceLuid Addr e.1 e.2 = some M →
      eligibleMetric DeviceLuid Addr e.1 e.2 = some M.toNat := by
    intro e he M hM
    rw [scanMetric_eq_map] at hM
    obtain ⟨n, hn, rfl⟩ := Option.map_eq_some'.mp hM
    rw [hn, BitVec.toNat_ofNat, Nat.mod_eq_of_lt (hwrap e he n hn)]
  rcases hsel with ⟨hall, hs⟩ | ⟨A, e, B, M, hT, he, hk, hs⟩
  · refine .inr ⟨fun e he => ?_, by rw [hs]; rfl⟩
    have h := hall e he
    rwa [scanMetric_eq_map, Option.map_eq_none'] at h
  · have heT : e ∈ Table := hT ▸ List.mem_append_right A (List.mem_cons_self e B)
    refine .inl ⟨e, heT, M.toNat, hmetric e heT M he, by rw [hs]; rfl, fun e' he' m' hm' => ?_⟩
    have hM' : scanMetric DeviceLuid Addr e'.1 e'.2 = some (BitVec.ofNat 32 m') := by
      rw [scanMetric_eq_map, Option.mem_def.mp hm']; rfl
    have hle := hk.all he e' (hT ▸ he') _ hM'
    rw [BitVec.le_def, BitVec.toNat_ofNat, Nat.mod_eq_of_lt (hwrap e' he' m' hm')] at hle
    rcases hle with hlt | ⟨heq, hle⟩
    · exact .inl (BitVec.lt_def.mpr hlt)
    · exact .inr ⟨BitVec.eq_of_toNat_eq heq, hle⟩

/-- Two routes to `10.1.2.3`: the default route on interface 1 with metrics
    5 + 5, and `10.0.0.0/8` on interface 2 with metrics 30 + 1. -/
theorem scanTable_bestIndexSpec_two_routes :
    let Addr : SOCKADDR_INET := ⟨AF_INET, 0x6CCA#16, 0x0302010A#32, 0, 0⟩
    let Table : List (MIB_IPFORWARD_ROW2 × InterfaceAnswers) :=
      [(⟨1#64, 1#32, ⟨⟨AF_INET, 0, 0, 0, 0⟩, 0#8⟩, 5#32⟩, ⟨some IfOperStatusUp, fun _ => some 5#32⟩),
       (⟨2#64, 2#32, ⟨⟨AF_INET, 0, 0x0000000A#32, 0, 0⟩, 8#8⟩, 30#32⟩, ⟨some IfOperStatusUp, fun _ => some 1#32⟩)]
    (∀ e ∈ Table, ∀ n ∈ eligibleMetric 99#64 Addr e.1 e.2, n < 2 ^ 32) ∧
      BestIndexSpec 99#64 Addr Table ((scanTable 99#64 Table ScanState.init).run Addr).BestIndex :=
  ⟨by decide, scanTable_bestIndexSpec_of_no_wrap _ _ _ (by decide)⟩


end wireguard
