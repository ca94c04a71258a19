import HttpLayers.Net.Cidr

-- A range is a block of addresses, those that begin with the bits its network begins with. Two blocks
-- therefore lie one inside the other or apart, as the branches of a tree do.

namespace HttpLayers.Net

namespace IpAddress

def number : IpAddress → Nat
  | v4 bits => bits.toNat
  | v6 bits => bits.toNat

-- The most significant bit is the first.
def bit : IpAddress → Nat → Bool
  | v4 bits => bits.getMsbD
  | v6 bits => bits.getMsbD

theorem eq_of_number {one other : IpAddress} (family : one.width = other.width)
    (same : one.number = other.number) : one = other := by
  cases one with
  | v4 bits =>
      cases other with
      | v4 others => exact congrArg v4 (BitVec.eq_of_toNat_eq same)
      | v6 others => cases family
  | v6 bits =>
      cases other with
      | v4 others => cases family
      | v6 others => exact congrArg v6 (BitVec.eq_of_toNat_eq same)

end IpAddress

namespace Cidr

section

variable {width prefixLen : Nat} {one other mask : BitVec width}

theorem getLsbD_mask (made : mask? width prefixLen = some mask) (fits : prefixLen ≤ width) {i : Nat}
    (inside : i < width) : mask.getLsbD i = decide (width - prefixLen ≤ i) := by
  by_cases empty : prefixLen = 0
  · rw [mask?,if_pos empty] at made
    cases made
    simp [empty,inside]
  · rw [mask?_eq_shift empty fits] at made
    cases made
    have reached : i - (width - prefixLen) < width := by omega
    rw [BitVec.getLsbD_shiftLeft,BitVec.getLsbD_allOnes,decide_eq_true inside,
      decide_eq_true reached,Bool.true_and,Bool.and_true,← decide_not]
    simp only [Nat.not_lt]

-- The first bits are the upper ones where bits are counted from below.
theorem upper_iff (fits : prefixLen ≤ width) :
    (∀ i < width, width - prefixLen ≤ i → one.getLsbD i = other.getLsbD i) ↔
      ∀ i < prefixLen, one.getMsbD i = other.getMsbD i := by
  constructor
  · intro upper i counted
    have same := upper (width - 1 - i) (by omega) (by omega)
    rw [BitVec.getMsbD_eq_getLsbD,BitVec.getMsbD_eq_getLsbD,same]
  · intro front i inside upper
    have same := front (width - 1 - i) (by omega)
    have counted : width - 1 - i < width := by omega
    have mirrored : width - 1 - (width - 1 - i) = i := by omega
    rwa [BitVec.getMsbD_eq_getLsbD,BitVec.getMsbD_eq_getLsbD,mirrored,decide_eq_true counted,
      Bool.true_and,Bool.true_and] at same

theorem and_mask_eq_iff (made : mask? width prefixLen = some mask) (fits : prefixLen ≤ width) :
    one &&& mask = other &&& mask ↔ ∀ i < prefixLen, one.getMsbD i = other.getMsbD i := by
  rw [← upper_iff fits,BitVec.eq_of_getLsbD_eq_iff]
  apply forall_congr'
  intro i
  apply imp_congr_right
  intro inside
  rw [BitVec.getLsbD_and,BitVec.getLsbD_and,getLsbD_mask made fits inside]
  by_cases upper : width - prefixLen ≤ i <;> simp [upper]

theorem map_mask_eq_iff (fits : prefixLen ≤ width) :
    ((mask? width prefixLen).map fun mask => one &&& mask == other &&& mask) = some true ↔
      ∀ i < prefixLen, one.getMsbD i = other.getMsbD i := by
  obtain ⟨mask,made⟩ := Option.isSome_iff_exists.mp (mask?_isSome fits)
  rw [made,Option.map_some,Option.some.injEq,beq_iff_eq]
  exact and_mask_eq_iff made fits

theorem div_eq_iff (fits : prefixLen ≤ width) :
    one.toNat / Nat.pow 2 (width - prefixLen) = other.toNat / Nat.pow 2 (width - prefixLen) ↔
      ∀ i < prefixLen, one.getMsbD i = other.getMsbD i := by
  have bits : ∀ (whole : BitVec width) i,
      (whole.toNat / Nat.pow 2 (width - prefixLen)).testBit i =
        whole.getLsbD (i + (width - prefixLen)) :=
    fun whole i => Nat.testBit_div_two_pow whole.toNat i
  rw [← upper_iff fits]
  constructor
  · intro same i inside upper
    have shifted := congrArg (Nat.testBit · (i - (width - prefixLen))) same
    simp only [bits] at shifted
    rwa [Nat.sub_add_cancel upper] at shifted
  · intro upper
    apply Nat.eq_of_testBit_eq
    intro i
    rw [bits,bits]
    by_cases inside : i + (width - prefixLen) < width
    · exact upper _ inside (Nat.le_add_left ..)
    · have beyond := Nat.not_lt.mp inside
      rw [BitVec.getLsbD_of_ge _ _ beyond,BitVec.getLsbD_of_ge _ _ beyond]

end

variable {range one other : Cidr} {address : IpAddress}

theorem contains?_eq (range : Cidr) (address : IpAddress) :
    range.contains? address = some (range.contains address) :=
  (Option.some_get _).symm

theorem contains_iff_bits : range.contains address = true ↔
    range.network.width = address.width ∧
      ∀ i < range.prefixLen, range.network.bit i = address.bit i := by
  rw [← Option.some_inj,← contains?_eq]
  obtain ⟨network,prefixLen,fits⟩ := range
  cases network with
  | v4 network =>
      cases address with
      | v4 bits => exact (map_mask_eq_iff fits).trans (and_iff_right rfl).symm
      | v6 bits => simp [contains?,IpAddress.width]
  | v6 network =>
      cases address with
      | v4 bits => simp [contains?,IpAddress.width]
      | v6 bits => exact (map_mask_eq_iff fits).trans (and_iff_right rfl).symm

theorem front_eq_iff (family : range.network.width = address.width) :
    range.network.number / Nat.pow 2 (range.network.width - range.prefixLen) =
        address.number / Nat.pow 2 (range.network.width - range.prefixLen) ↔
      ∀ i < range.prefixLen, range.network.bit i = address.bit i := by
  obtain ⟨network,prefixLen,fits⟩ := range
  cases network with
  | v4 network =>
      cases address with
      | v4 bits => exact div_eq_iff fits
      | v6 bits => cases family
  | v6 network =>
      cases address with
      | v4 bits => cases family
      | v6 bits => exact div_eq_iff fits

theorem contains_iff : range.contains address = true ↔
    range.network.width = address.width ∧
      range.network.number / Nat.pow 2 (range.network.width - range.prefixLen) =
        address.number / Nat.pow 2 (range.network.width - range.prefixLen) := by
  rw [contains_iff_bits]
  exact and_congr_right fun family => (front_eq_iff family).symm

-- One address in both is enough for the longer prefix to begin with all of the shorter one.
theorem contains_of_shared {shared : IpAddress} (shorter : one.prefixLen ≤ other.prefixLen)
    (first : one.contains shared = true) (second : other.contains shared = true)
    (inside : other.contains address = true) : one.contains address = true := by
  obtain ⟨firstFamily,firstBits⟩ := contains_iff_bits.mp first
  obtain ⟨secondFamily,secondBits⟩ := contains_iff_bits.mp second
  obtain ⟨family,bits⟩ := contains_iff_bits.mp inside
  apply contains_iff_bits.mpr
  refine ⟨firstFamily.trans (secondFamily.symm.trans family),?_⟩
  intro i counted
  have further := Nat.lt_of_lt_of_le counted shorter
  calc
    one.network.bit i = shared.bit i := firstBits i counted
    _ = other.network.bit i := (secondBits i further).symm
    _ = address.bit i := bits i further

theorem contains_network (range : Cidr) : range.contains range.network = true :=
  contains_iff.mpr ⟨rfl,rfl⟩

theorem contains_full (full : range.prefixLen = range.network.width) :
    range.contains address = true ↔ address = range.network := by
  constructor
  · intro inside
    obtain ⟨family,same⟩ := contains_iff.mp inside
    rw [full,Nat.sub_self] at same
    apply IpAddress.eq_of_number family.symm
    simpa using same.symm
  · intro same
    rw [same]
    exact range.contains_network

theorem contains_congr (same : other.prefixLen = range.prefixLen)
    (inside : range.contains other.network = true) (address : IpAddress) :
    other.contains address = range.contains address := by
  rw [Bool.eq_iff_iff]
  constructor
  · exact contains_of_shared (Nat.le_of_eq same.symm) inside other.contains_network
  · exact contains_of_shared (Nat.le_of_eq same) other.contains_network inside

theorem nested_or_apart (one other : Cidr) :
    (∀ address, ¬(one.contains address = true ∧ other.contains address = true)) ∨
    (∀ address, one.contains address = true → other.contains address = true) ∨
    ∀ address, other.contains address = true → one.contains address = true := by
  by_cases apart : ∀ address, ¬(one.contains address = true ∧ other.contains address = true)
  · exact .inl apart
  · obtain ⟨shared,both⟩ := Classical.not_forall.mp apart
    obtain ⟨first,second⟩ := Classical.not_not.mp both
    rcases Nat.le_total one.prefixLen other.prefixLen with shorter | longer
    · exact .inr (.inr fun _ => contains_of_shared shorter first second)
    · exact .inr (.inl fun _ => contains_of_shared longer second first)

-- The answer is never lost to a shift by the whole width: the one length that would need it needs none.
theorem contains_exactly (range : Cidr) :
    (∀ address, range.contains? address = some (range.contains address)) ∧
    (∀ address, range.contains? address = some true ↔ range.network.width = address.width ∧
      range.network.number / Nat.pow 2 (range.network.width - range.prefixLen) =
        address.number / Nat.pow 2 (range.network.width - range.prefixLen)) ∧
    (∀ address, range.contains? address = some true ↔ range.network.width = address.width ∧
      ∀ i < range.prefixLen, range.network.bit i = address.bit i) ∧
    (∃ shift, shift + range.prefixLen = range.network.width ∧
      (range.prefixLen = 0 ∧ mask? range.network.width range.prefixLen = some 0 ∨
        shift < range.network.width ∧ mask? range.network.width range.prefixLen =
          some (BitVec.allOnes range.network.width <<< shift))) ∧
    (range.prefixLen = 0 → ∀ address,
      range.contains address = true ↔ range.network.width = address.width) ∧
    (range.prefixLen = range.network.width → ∀ address,
      range.contains address = true ↔ address = range.network) ∧
    (∀ other : Cidr, other.prefixLen = range.prefixLen → range.contains other.network = true →
      ∀ address, other.contains address = range.contains address) ∧
    ∀ other : Cidr,
      (∀ address, ¬(range.contains address = true ∧ other.contains address = true)) ∨
      (∀ address, range.contains address = true → other.contains address = true) ∨
      ∀ address, other.contains address = true → range.contains address = true := by
  have answers : ∀ address, range.contains? address = some true ↔ range.contains address = true :=
    fun address => by rw [contains?_eq,Option.some_inj]
  refine ⟨range.contains?_eq,fun address => (answers address).trans contains_iff,
    fun address => (answers address).trans contains_iff_bits,?shift,?none,
    fun full _ => contains_full full,fun _ => contains_congr,range.nested_or_apart⟩
  case shift =>
    refine ⟨range.network.width - range.prefixLen,Nat.sub_add_cancel range.prefixLen_le,?_⟩
    by_cases empty : range.prefixLen = 0
    · exact .inl ⟨empty,if_pos empty⟩
    · have fits := range.prefixLen_le
      exact .inr ⟨by omega,mask?_eq_shift empty fits⟩
  case none =>
    intro empty address
    rw [contains_iff_bits,empty]
    simp

end Cidr

end HttpLayers.Net
