import WgSocket.Basic

namespace wireguard

/-- `IP_ADDRESS_PREFIX`: a prefix address and its length in bits. -/
structure IP_ADDRESS_PREFIX where
  Prefix : SOCKADDR_INET
  PrefixLength : BitVec 8
deriving DecidableEq, Repr

/-- The shift `~0U << (32 - PrefixLength)` is only defined for lengths up to 32,
    the range forwarding tables use. -/
def CidrMaskMatchV4 (Addr : IN_ADDR) (Prefix : IP_ADDRESS_PREFIX) : Bool :=
  Prefix.PrefixLength == 0#8 ||
    (Addr &&& Htonl (~~~0#32 <<< (32 - Prefix.PrefixLength.toNat))) == Prefix.Prefix.Ipv4.sin_addr

/-- `RtlEqualMemory` over the first `Length` bytes of two addresses. -/
def RtlEqualMemory (a b : IN6_ADDR) (Length : Nat) : Bool :=
  (List.range Length).all fun j => a.extractLsb' (8 * j) 8 == b.extractLsb' (8 * j) 8

/-- `((UINT32 *)Addr)[k]`. -/
def word32 (a : IN6_ADDR) (k : Nat) : BitVec 32 := a.extractLsb' (32 * k) 32

def CidrMaskMatchV6 (Addr : IN6_ADDR) (Prefix : IP_ADDRESS_PREFIX) : Bool :=
  if Prefix.PrefixLength == 0#8 then true
  else
    let WholeParts := Prefix.PrefixLength.toNat / 32
    let LeftoverBits := Prefix.PrefixLength.toNat % 32
    if !RtlEqualMemory Prefix.Prefix.Ipv6.sin6_addr Addr (WholeParts * 4) then false
    else if WholeParts == 4 || LeftoverBits == 0 then true
    else (word32 Addr WholeParts &&& Htonl (~~~0#32 <<< (32 - LeftoverBits))) ==
      word32 Prefix.Prefix.Ipv6.sin6_addr WholeParts

/-- Where network bit `i` of an address is stored: bit `7 - i % 8` of byte `i / 8`. -/
def netPos (i : Nat) : Nat := 8 * (i / 8) + (7 - i % 8)

/-- Bit `i` of an address in network bit order. -/
def netBit {w : Nat} (x : BitVec w) (i : Nat) : Bool := x.getLsbD (netPos i)

/-- The first `L` bits of two addresses, in network bit order, agree. -/
def PrefixEq {w : Nat} (a b : BitVec w) (L : Nat) : Prop := ∀ i < L, netBit a i = netBit b i

/-- No bit of a prefix address at or past its length is set. -/
def PrefixClean {w : Nat} (p : BitVec w) (L : Nat) : Prop := ∀ i < w, L ≤ i → netBit p i = false

instance {w : Nat} (a b : BitVec w) (L : Nat) : Decidable (PrefixEq a b L) :=
  inferInstanceAs (Decidable (∀ i < L, _))

instance {w : Nat} (p : BitVec w) (L : Nat) : Decidable (PrefixClean p L) :=
  inferInstanceAs (Decidable (∀ i < w, _))

theorem netPos_netPos (i : Nat) : netPos (netPos i) = i := by unfold netPos; omega

theorem PrefixEq.symm {w : Nat} {a b : BitVec w} {L : Nat} (h : PrefixEq a b L) : PrefixEq b a L :=
  fun i hi => (h i hi).symm

theorem PrefixEq.mono {w : Nat} {a b : BitVec w} {L L' : Nat} (h : PrefixEq a b L) (hle : L' ≤ L) :
    PrefixEq a b L' :=
  fun i hi => h i (by omega)

theorem getLsbD_Htonl (x : BitVec 32) (k : Nat) :
    (Htonl x).getLsbD k = (decide (k < 32) && x.getLsbD (31 - netPos k)) := by
  -- the bit of x that bit k of the swapped word reads, checked at all 32 positions
  have hpos : ∀ k < 32, 31 - netPos k = if k < 8 then 24 + k else if k - 8 < 8 then 16 + (k - 8) else
      if k - 8 - 8 < 8 then 8 + (k - 8 - 8) else 0 + (k - 8 - 8 - 8) := by decide
  simp only [Htonl, BitVec.getLsbD_append, BitVec.getLsbD_extractLsb']
  by_cases hk : k < 32
  · rw [hpos k hk]
    by_cases h1 : k < 8
    · simp only [h1, hk, decide_True, cond_true, if_true]
    by_cases h2 : k - 8 < 8
    · simp only [h1, h2, hk, decide_True, decide_False, cond_true, cond_false, if_true, if_false]
    by_cases h3 : k - 8 - 8 < 8
    · simp only [h1, h2, h3, hk, decide_True, decide_False, cond_true, cond_false, if_true, if_false]
    · simp only [h1, h2, h3, hk, show k - 8 - 8 - 8 < 8 by omega, decide_True, decide_False, cond_false,
        if_false]
  · simp only [hk, show ¬k < 8 by omega, show ¬k - 8 < 8 by omega, show ¬k - 8 - 8 < 8 by omega,
      show ¬k - 8 - 8 - 8 < 8 by omega, decide_False, cond_false, Bool.false_and]

/-- The byte-swapped mask `Htonl(~0U << (32 - n))` selects the first `n` bits
    of a word in network order. -/
theorem getLsbD_Htonl_mask {n : Nat} (hn : n ≤ 32) (k : Nat) :
    (Htonl (~~~0#32 <<< (32 - n))).getLsbD k = (decide (k < 32) && decide (netPos k < n)) := by
  rw [getLsbD_Htonl]
  by_cases hk : k < 32
  · have hpos : netPos k < 32 := by unfold netPos; omega
    have hshift : 31 - netPos k < 32 - n ↔ ¬netPos k < n := by omega
    simp only [BitVec.getLsbD_shiftLeft, BitVec.getLsbD_not, BitVec.getLsbD_zero, hk, hshift,
      show 31 - netPos k < 32 by omega, show 31 - netPos k - (32 - n) < 32 by omega, decide_not,
      Bool.not_not, decide_True, Bool.true_and, Bool.not_false, Bool.and_true]
  · simp only [hk, decide_False, Bool.false_and]

/-- A masked word equals a clean prefix word exactly when the two agree on
    the first `n` network bits. -/
theorem masked_eq_iff_prefixEq {w p : BitVec 32} {n : Nat} (hn : n ≤ 32) (hclean : PrefixClean p n) :
    (w &&& Htonl (~~~0#32 <<< (32 - n))) = p ↔ PrefixEq w p n := by
  constructor
  · intro h i hi
    have hbit := congrArg (fun x => x.getLsbD (netPos i)) h
    have hpos : netPos i < 32 := by unfold netPos; omega
    simp only [BitVec.getLsbD_and, getLsbD_Htonl_mask hn, netPos_netPos, hpos, hi, decide_True,
      Bool.and_true] at hbit
    simpa [netBit] using hbit
  · intro h
    ext k
    have hk := k.isLt
    have hpos : netPos k < 32 := by unfold netPos; omega
    rw [BitVec.getLsbD_and, getLsbD_Htonl_mask hn]
    by_cases hin : netPos k < n
    · have := h (netPos k) hin
      simp only [netBit, netPos_netPos] at this
      simp [hk, hin, this]
    · have := hclean (netPos k) hpos (by omega)
      simp only [netBit, netPos_netPos] at this
      simp [hin, this]

theorem cidrMaskMatchV4_iff_prefixEq {A : IN_ADDR} {P : IP_ADDRESS_PREFIX}
    (hL : P.PrefixLength.toNat ≤ 32) (hclean : PrefixClean P.Prefix.Ipv4.sin_addr P.PrefixLength.toNat) :
    CidrMaskMatchV4 A P = true ↔ PrefixEq A P.Prefix.Ipv4.sin_addr P.PrefixLength.toNat := by
  by_cases h0 : P.PrefixLength = 0#8
  · have hz : P.PrefixLength.toNat = 0 := by simp [h0]
    simp [CidrMaskMatchV4, h0, PrefixEq, hz]
  · have hne : (P.PrefixLength == 0#8) = false := by simpa using h0
    simp only [CidrMaskMatchV4, hne, Bool.false_or, beq_iff_eq]
    exact masked_eq_iff_prefixEq hL hclean

theorem extractByte_eq_iff {w : Nat} (a b : BitVec w) (j : Nat) :
    a.extractLsb' (8 * j) 8 = b.extractLsb' (8 * j) 8 ↔
      ∀ t < 8, a.getLsbD (8 * j + t) = b.getLsbD (8 * j + t) := by
  constructor
  · intro h t ht
    simpa [ht] using congrArg (·.getLsbD t) h
  · intro h
    ext t
    simp [h t t.isLt]

/-- Comparing the first `n` bytes is comparing the first `8n` network bits. -/
theorem rtlEqualMemory_iff_prefixEq {a b : IN6_ADDR} {n : Nat} :
    RtlEqualMemory a b n = true ↔ PrefixEq a b (8 * n) := by
  simp only [RtlEqualMemory, List.all_eq_true, List.mem_range, beq_iff_eq, extractByte_eq_iff]
  constructor
  · intro h i hi
    exact h (i / 8) (by omega) (7 - i % 8) (by omega)
  · intro h j hj t ht
    have := h (8 * j + (7 - t)) (by omega)
    have e : netPos (8 * j + (7 - t)) = 8 * j + t := by unfold netPos; omega
    rwa [netBit, netBit, e] at this

theorem netBit_word32 (a : IN6_ADDR) (k : Nat) {i : Nat} (hi : i < 32) :
    netBit (word32 a k) i = netBit a (32 * k + i) := by
  have h1 : netPos i < 32 := by unfold netPos; omega
  have h2 : netPos (32 * k + i) = 32 * k + netPos i := by unfold netPos; omega
  simp only [netBit, word32, BitVec.getLsbD_extractLsb', h1, h2, decide_True, Bool.true_and]

/-- The first `32k + lo` bits split into `k` whole words and the first `lo`
    bits of word `k`. -/
theorem prefixEq_split {a b : IN6_ADDR} {k lo : Nat} (hlo : lo ≤ 32) :
    PrefixEq a b (32 * k + lo) ↔ PrefixEq a b (32 * k) ∧ PrefixEq (word32 a k) (word32 b k) lo := by
  constructor
  · intro h
    refine ⟨h.mono (by omega), fun i hi => ?_⟩
    rw [netBit_word32 a k (by omega), netBit_word32 b k (by omega)]
    exact h _ (by omega)
  · rintro ⟨hlow, hword⟩ i hi
    by_cases hik : i < 32 * k
    · exact hlow i hik
    · have := hword (i - 32 * k) (by omega)
      rwa [netBit_word32 a k (by omega), netBit_word32 b k (by omega),
        show 32 * k + (i - 32 * k) = i by omega] at this

theorem PrefixClean.word32 {p : IN6_ADDR} {k lo : Nat} (hk : k < 4) (h : PrefixClean p (32 * k + lo)) :
    PrefixClean (word32 p k) lo := by
  intro i hi hlo
  rw [netBit_word32 p k hi]
  exact h _ (by omega) (by omega)

theorem cidrMaskMatchV6_iff_prefixEq {A : IN6_ADDR} {P : IP_ADDRESS_PREFIX}
    (hL : P.PrefixLength.toNat ≤ 128) (hclean : PrefixClean P.Prefix.Ipv6.sin6_addr P.PrefixLength.toNat) :
    CidrMaskMatchV6 A P = true ↔ PrefixEq A P.Prefix.Ipv6.sin6_addr P.PrefixLength.toNat := by
  by_cases h0 : P.PrefixLength = 0#8
  · have hz : P.PrefixLength.toNat = 0 := by simp [h0]
    simp [CidrMaskMatchV6, h0, PrefixEq, hz]
  have hne : (P.PrefixLength == 0#8) = false := by simpa using h0
  have hpos : P.PrefixLength.toNat ≠ 0 := fun h => h0 (BitVec.eq_of_toNat_eq (by simpa using h))
  simp only [CidrMaskMatchV6, hne, Bool.false_eq_true, if_false]
  generalize P.PrefixLength.toNat = L at *
  have hsplit : L = 32 * (L / 32) + L % 32 := by omega
  have hmem : RtlEqualMemory P.Prefix.Ipv6.sin6_addr A (L / 32 * 4) = true ↔
      PrefixEq A P.Prefix.Ipv6.sin6_addr (32 * (L / 32)) := by
    rw [rtlEqualMemory_iff_prefixEq, show 8 * (L / 32 * 4) = 32 * (L / 32) by omega]
    exact ⟨PrefixEq.symm, PrefixEq.symm⟩
  by_cases hm : RtlEqualMemory P.Prefix.Ipv6.sin6_addr A (L / 32 * 4) = true
  · have hlow := hmem.mp hm
    simp only [hm, Bool.not_true, Bool.false_eq_true, if_false]
    by_cases hw : L / 32 = 4 ∨ L % 32 = 0
    · have hwb : (L / 32 == 4 || L % 32 == 0) = true := by simpa using hw
      rw [if_pos hwb, show L = 32 * (L / 32) by omega]
      exact iff_of_true rfl hlow
    · have hwb : (L / 32 == 4 || L % 32 == 0) = false := by simpa using hw
      have hcl : PrefixClean P.Prefix.Ipv6.sin6_addr (32 * (L / 32) + L % 32) := by rwa [← hsplit]
      have hsplitEq := @prefixEq_split A P.Prefix.Ipv6.sin6_addr (L / 32) (L % 32) (by omega)
      rw [← hsplit] at hsplitEq
      rw [if_neg (by simp [hwb]), beq_iff_eq, masked_eq_iff_prefixEq (by omega) (hcl.word32 (by omega)),
        hsplitEq]
      exact ⟨fun h => ⟨hlow, h⟩, fun h => h.2⟩
  · have hmf : RtlEqualMemory P.Prefix.Ipv6.sin6_addr A (L / 32 * 4) = false := by simpa using hm
    simp only [hmf, Bool.not_false, if_true, Bool.false_eq_true, false_iff]
    exact fun h => hm (hmem.mpr (h.mono (by omega)))

/-- Both CIDR tests of the route scan decide exactly whether the first
    `PrefixLength` bits of the address, in network bit order, are those of a
    clean prefix: the IPv6 split into whole words compared bytewise and one
    byte-swapped leftover mask loses and adds nothing at any length. -/
theorem cidrMaskMatch_iff_first_bits_agree :
    (∀ (A : IN_ADDR) (P : IP_ADDRESS_PREFIX), P.PrefixLength.toNat ≤ 32 →
      PrefixClean P.Prefix.Ipv4.sin_addr P.PrefixLength.toNat →
      (CidrMaskMatchV4 A P = true ↔ PrefixEq A P.Prefix.Ipv4.sin_addr P.PrefixLength.toNat)) ∧
    (∀ (A : IN6_ADDR) (P : IP_ADDRESS_PREFIX), P.PrefixLength.toNat ≤ 128 →
      PrefixClean P.Prefix.Ipv6.sin6_addr P.PrefixLength.toNat →
      (CidrMaskMatchV6 A P = true ↔ PrefixEq A P.Prefix.Ipv6.sin6_addr P.PrefixLength.toNat)) :=
  ⟨fun _ _ => cidrMaskMatchV4_iff_prefixEq, fun _ _ => cidrMaskMatchV6_iff_prefixEq⟩

/-- `10.0.0.0/8` and `2001:db8::/33` (a leftover of one bit), each against an
    address inside it. -/
theorem cidrMaskMatch_ten_eight_and_doc_thirty_three :
    (CidrMaskMatchV4 0x0302010A#32 ⟨⟨AF_INET, 0, 0x0000000A#32, 0, 0⟩, 8#8⟩ = true ↔
      PrefixEq 0x0302010A#32 0x0000000A#32 8) ∧
    (CidrMaskMatchV6 0x010000000000000000000000B80D0120#128
        ⟨⟨AF_INET6, 0, 0, 0xB80D0120#128, 0⟩, 33#8⟩ = true ↔
      PrefixEq 0x010000000000000000000000B80D0120#128
        0xB80D0120#128 33) :=
  ⟨cidrMaskMatch_iff_first_bits_agree.1 _ _ (by decide) (by decide),
    cidrMaskMatch_iff_first_bits_agree.2 _ _ (by decide) (by decide)⟩

end wireguard
