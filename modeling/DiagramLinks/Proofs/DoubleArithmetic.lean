import DiagramLinks.Proofs.Rounding

namespace DiagramLinks.Double

open Float.Model Float.Model.UnpackedFloat

variable {x y : Float} {a b v : ℚ} {m k n : Nat} {e f t : Int} {s : Sign}

/-- The double with a sign, a mantissa and an exponent. -/
def ofParts (s : Sign) (m : Nat) (e : Int) (positive : 0 < m) : Float :=
  ⟨Float.Model.pack (.finite s m e positive)⟩

/-- A positive normal double and its value. -/
def Holds (x : Float) (v : ℚ) : Prop :=
  ∃ m e positive, IsNormal m e ∧ x = ofParts .positive m e positive ∧ v = m * 2 ^ e

/-- A double that a number is rounded to. -/
def RoundsTo (v : ℚ) (x : Float) : Prop :=
  ∃ m e positive, Rounds v m e ∧ x = ofParts .positive m e positive

theorem RoundsTo.near (h : RoundsTo v x) : ∃ q, Holds x q ∧ ∀ t : Int, v < 2 ^ t → |q - v| ≤ 2 ^ (t - 54) := by
  obtain ⟨m, e, positive, rounds, rfl⟩ := h
  exact ⟨m * 2 ^ e, ⟨m, e, positive, rounds.normal, rfl, rfl⟩, rounds.near⟩

theorem RoundsTo.holds (h : RoundsTo v x) (normal : IsNormal k f) (hv : v = k * 2 ^ f) : Holds x v := by
  obtain ⟨m, e, positive, rounds, rfl⟩ := h
  obtain ⟨rfl, rfl⟩ := rounds.exact k f normal hv
  exact ⟨m, e, positive, normal, rfl, hv⟩

namespace IsNormal

theorem toNat_exponent (h : IsNormal m e) : ((BitVec.ofNat 11 (e + 1075).toNat).toNat : Int) = e + 1075 := by
  have := h.bottom
  have := h.top
  rw [BitVec.toNat_ofNat, Nat.mod_eq_of_lt (by omega)]
  omega

theorem pack (h : IsNormal m e) (positive : 0 < m) :
    UnpackedFloat.pack Format.binary64 (.finite s m e positive) =
      packComponents Format.binary64 s (BitVec.ofNat 11 (e + 1075).toNat) (BitVec.ofNat 52 m) := by
  have full : m.log2 + 1 = Format.binary64.mantissaBits := by
    rw [(Nat.log2_eq_iff positive.ne').mpr ⟨h.low, h.high⟩]
    rfl
  have biased : (e + Format.binary64.exponentBias + Format.binary64.mantissaBitsWithoutImplicit).toNat =
      (e + 1075).toNat := by
    congr 1
    rw [add_assoc]
    rfl
  have finite : ¬2 ^ Format.binary64.exponentBits ≤ (e + 1075).toNat + 1 := by
    have := h.top
    dsimp only
    omega
  simp only [UnpackedFloat.pack, biased]
  rw [if_neg finite, if_pos full]

theorem unpack (h : IsNormal m e) (positive : 0 < m) :
    (ofParts s m e positive).toModel.unpack = .finite s m e positive := by
  have bottom := h.bottom
  have top := h.top
  have exponent := h.toNat_exponent
  have mantissa : (1#1 ++ BitVec.ofNat 52 m).toNat = m := by
    have := h.low
    have := h.high
    rw [BitVec.toNat_append, ← Nat.shiftLeft_add_eq_or_of_lt (BitVec.isLt _), BitVec.toNat_ofNat,
      BitVec.toNat_ofNat, Nat.shiftLeft_eq]
    omega
  show UnpackedFloat.unpack Format.binary64 (UnpackedFloat.pack Format.binary64 _) = _
  rw [h.pack positive]
  generalize BitVec.ofNat 11 (e + 1075).toNat = E at exponent
  have finite : E ≠ -1#11 := by
    rintro rfl
    have : (2047 : Int) = e + 1075 := exponent
    omega
  have normal : E ≠ 0#11 := by
    rintro rfl
    have : (0 : Int) = e + 1075 := exponent
    omega
  have unbiased : (E.toNat : Int) -
      (Format.binary64.exponentBias + Format.binary64.mantissaBitsWithoutImplicit) = e := by
    rw [exponent]
    show e + 1075 - 1075 = e
    omega
  simp only [UnpackedFloat.unpack, unpackExponent_packComponents, unpackMantissa_packComponents,
    unpackSign_packComponents, Sign.ofBitVec_toBitVec]
  rw [if_neg finite, if_neg normal]
  simp only [mantissa, unbiased]

/-- Read as a number, a bit pattern counts the doubles below. -/
theorem toBits (h : IsNormal m e) (positive : 0 < m) :
    ((ofParts .positive m e positive).toBits.toNat : Int) = (e + 1074) * 2 ^ 52 + m := by
  have := h.low
  have := h.high
  have := h.bottom
  have exponent := h.toNat_exponent
  show ((UnpackedFloat.pack Format.binary64 (.finite .positive m e positive)).toNat : Int) = _
  rw [h.pack positive]
  generalize BitVec.ofNat 11 (e + 1075).toNat = E at exponent
  have unsigned : (Sign.positive.toBitVec ++ E).toNat = E.toNat := by
    rw [BitVec.toNat_append]
    simp [Sign.toBitVec]
  rw [packComponents, BitVec.toNat_append, ← Nat.shiftLeft_add_eq_or_of_lt (BitVec.isLt _), unsigned,
    Nat.shiftLeft_eq, BitVec.toNat_ofNat]
  push_cast
  rw [exponent]
  omega

end IsNormal

theorem orderKey_ofParts (h : IsNormal m e) (positive : 0 < m) :
    orderKey (ofParts .positive m e positive) = (e + 1074) * 2 ^ 52 + m := by
  have bits := h.toBits positive
  have := h.high
  have := h.top
  rw [orderKey, if_pos, bits]
  show _ < 0x8000000000000000
  omega

namespace Holds

theorem orderKey_pos (h : Holds x v) : 0 < orderKey x := by
  obtain ⟨m, e, positive, normal, rfl, -⟩ := h
  have := normal.bottom
  rw [orderKey_ofParts normal positive]
  omega

theorem pos (h : Holds x v) : 0 < v := by
  obtain ⟨m, e, positive, -, -, rfl⟩ := h
  positivity

/-- Doubles are ordered like their values. -/
theorem orderKey_lt (hx : Holds x a) (hy : Holds y b) (lt : a < b) : orderKey x < orderKey y := by
  obtain ⟨m, e, positive, normal, rfl, rfl⟩ := hx
  obtain ⟨k, f, positive', normal', rfl, rfl⟩ := hy
  rw [orderKey_ofParts normal, orderKey_ofParts normal']
  have := normal.low
  have := normal.high
  have := normal'.low
  have := normal'.high
  have le : e ≤ f := by
    have := lt_of_two_zpow normal.binade.1 (lt.trans normal'.binade.2)
    omega
  rcases le.lt_or_eq with below | rfl
  · omega
  · have : (m : ℚ) < k := lt_of_mul_lt_mul_right lt (two_zpow_pos e).le
    have : m < k := by exact_mod_cast this
    omega

theorem isNaN (h : Holds x v) : x.isNaN = false := by
  obtain ⟨m, e, positive, normal, rfl, -⟩ := h
  show (ofParts .positive m e positive).toModel.unpack.isNaN = false
  rw [normal.unpack positive]
  rfl

end Holds

theorem IsNormal.neg (h : IsNormal m e) (positive : 0 < m) : -ofParts s m e positive = ofParts (-s) m e positive := by
  show Float.ofModel (.pack (.neg (ofParts s m e _).toModel.unpack)) = _
  rw [h.unpack positive]
  rfl

theorem ofParts_bne_zero (h : IsNormal m e) (positive : 0 < m) : (ofParts s m e positive != 0.0) = true := by
  show (!(ofParts s m e positive).toModel.unpack.beq (0.0 : Float).toModel.unpack) = true
  have zero : (0.0 : Float).toModel.unpack = .zero .positive := rfl
  rw [h.unpack positive, zero]
  cases s <;> rfl

theorem Holds.bne_zero (h : Holds x v) : (x != 0.0) = true := by
  obtain ⟨m, e, positive, normal, rfl, -⟩ := h
  exact ofParts_bne_zero normal positive

theorem decreaseExponent_value (le : t ≤ e) : ((decreaseExponent m e t).1 : ℚ) * 2 ^ t = m * 2 ^ e := by
  obtain ⟨n, rfl⟩ := Int.le.dest le
  have more : (t + n - t).toNat = n := by omega
  simp only [decreaseExponent, more, Nat.shiftLeft_eq]
  rw [zpow_add₀ (by norm_num), zpow_natCast]
  push_cast
  ring

theorem normalize_natCast (pos : 0 < n) : UnpackedFloat.normalize Format.binary64 n e s =
    UnpackedFloat.round Format.binary64 .positive n e := by
  have gt : compare (n : Int) 0 = .gt := Int.compare_eq_gt.mpr (by omega)
  simp only [UnpackedFloat.normalize, gt, Int.toNat_natCast]

theorem roundsTo_of_normalize (pos : 0 < n) (hv : v = n * 2 ^ e) (bottom : 2 ^ (-1022 : Int) ≤ v)
    (top : v < 2 ^ (1023 : Int)) : RoundsTo v ⟨Float.Model.pack (UnpackedFloat.normalize Format.binary64 n e s)⟩ := by
  obtain ⟨k, f, positive, parts, rounds⟩ := round_rounds pos hv bottom top
  rw [normalize_natCast pos, parts]
  exact ⟨k, f, positive, rounds, rfl⟩

theorem IsNormal.le_value (h : IsNormal m e) : (2 : ℚ) ^ (-1022 : Int) ≤ m * 2 ^ e :=
  (two_zpow_mono (by have := h.bottom; omega)).trans h.binade.1

/-- What division leaves out is a fraction of the divisor. -/
theorem leavesOut_accuracyOfFraction (lt : n < k) : LeavesOut (accuracyOfFraction n k) (n / k) := by
  have pos : (0 : ℚ) < k := by exact_mod_cast (Nat.zero_le n).trans_lt lt
  rw [accuracyOfFraction]
  by_cases zero : n = 0
  · rw [if_pos zero, zero, Nat.cast_zero, zero_div]
    rfl
  have more : (0 : ℚ) < n := by exact_mod_cast Nat.pos_of_ne_zero zero
  rw [if_neg zero]
  cases half : compare (2 * n) k with
  | lt =>
    have : (2 * n : ℚ) < k := by exact_mod_cast Nat.compare_eq_lt.mp half
    exact ⟨by positivity, by rw [div_lt_div_iff₀ pos two_pos]; linarith⟩
  | eq =>
    have : (2 * n : ℚ) = k := by exact_mod_cast Nat.compare_eq_eq.mp half
    show (n / k : ℚ) = 1 / 2
    rw [div_eq_div_iff pos.ne' two_ne_zero]
    linarith
  | gt =>
    have : (k : ℚ) < 2 * n := by exact_mod_cast Nat.compare_eq_gt.mp half
    have : (n : ℚ) < k := by exact_mod_cast lt
    exact ⟨by rw [div_lt_div_iff₀ two_pos pos]; linarith, by rw [div_lt_one pos]; assumption⟩

/-- With 53 more bits the quotient of two mantissas has bits enough. -/
theorem divCore_eq (hm : IsNormal m e) (hk : IsNormal k f) (range : -1021 ≤ e - f) :
    divCore Format.binary64 m e k f = ((m <<< 53) / k, e - f - 53, accuracyOfFraction ((m <<< 53) % k) k) := by
  have positive : m ≠ 0 := by have := hm.low; omega
  have positive' : k ≠ 0 := by have := hk.low; omega
  have size : m.log2 = 52 := (Nat.log2_eq_iff positive).mpr ⟨hm.low, hm.high⟩
  have size' : k.log2 = 52 := (Nat.log2_eq_iff positive').mpr ⟨hk.low, hk.high⟩
  have target : min (e - f) (Format.binary64.targetExponent (totalExponent m e - totalExponent k f)) =
      e - f - 53 := by
    simp only [totalExponent, size, size', Format.targetExponent, Format.mantissaBits, Format.minExponent]
    norm_num
    omega
  have shift : (e - f - (e - f - 53)).toNat = 53 := by omega
  simp only [divCore, target, shift]

theorem quotient_value {q r : Nat} (pos : 0 < k) (divided : m <<< 53 = k * q + r) :
    (m * 2 ^ e / (k * 2 ^ f) : ℚ) = (q + r / k) * 2 ^ (e - f - 53) := by
  rw [Nat.shiftLeft_eq] at divided
  have divided : (m * 2 ^ 53 : ℚ) = k * q + r := by exact_mod_cast divided
  have := (two_zpow_pos f).ne'
  have : (k : ℚ) ≠ 0 := by exact_mod_cast pos.ne'
  rw [zpow_sub₀ (by norm_num), zpow_sub₀ (by norm_num)]
  field_simp
  exact divided

namespace Holds

theorem add (hx : Holds x a) (hy : Holds y b) (top : a + b < 2 ^ (1023 : Int)) : RoundsTo (a + b) (x + y) := by
  obtain ⟨m, e, positive, normal, rfl, rfl⟩ := hx
  obtain ⟨k, f, positive', normal', rfl, rfl⟩ := hy
  have left := decreaseExponent_value (m := m) (min_le_left e f)
  have right := decreaseExponent_value (m := k) (min_le_right e f)
  have sum : ofParts .positive m e positive + ofParts .positive k f positive' =
      ⟨Float.Model.pack (UnpackedFloat.normalize Format.binary64
        ((decreaseExponent m e (min e f)).1 + (decreaseExponent k f (min e f)).1 : Nat) (min e f) .positive)⟩ := by
    show Float.ofModel (.pack (.add _ (ofParts _ m e _).toModel.unpack (ofParts _ k f _).toModel.unpack)) = _
    rw [normal.unpack, normal'.unpack]
    simp only [UnpackedFloat.add, Sign.apply, Nat.cast_add]
  have bits : 0 < (decreaseExponent m e (min e f)).1 := Nat.shiftLeft_pos_iff.mpr positive
  rw [sum]
  apply roundsTo_of_normalize (by omega)
  · push_cast
    rw [add_mul, left, right]
  · have : 0 ≤ (k : ℚ) * 2 ^ f := by positivity
    linarith [normal.le_value]
  · exact top

theorem sub (hx : Holds x a) (hy : Holds y b) (bottom : 2 ^ (-1022 : Int) ≤ a - b)
    (top : a - b < 2 ^ (1023 : Int)) : RoundsTo (a - b) (x - y) := by
  have more : 0 < a - b := (two_zpow_pos _).trans_le bottom
  obtain ⟨m, e, positive, normal, rfl, rfl⟩ := hx
  obtain ⟨k, f, positive', normal', rfl, rfl⟩ := hy
  have left := decreaseExponent_value (m := m) (min_le_left e f)
  have right := decreaseExponent_value (m := k) (min_le_right e f)
  have less : (decreaseExponent k f (min e f)).1 < (decreaseExponent m e (min e f)).1 := by
    rw [← left, ← right, ← sub_mul, mul_pos_iff_of_pos_right (two_zpow_pos _), sub_pos] at more
    exact_mod_cast more
  have difference : ofParts .positive m e positive - ofParts .positive k f positive' =
      ⟨Float.Model.pack (UnpackedFloat.normalize Format.binary64
        ((decreaseExponent m e (min e f)).1 - (decreaseExponent k f (min e f)).1 : Nat) (min e f) .positive)⟩ := by
    show Float.ofModel (.pack (.sub _ (ofParts _ m e _).toModel.unpack (ofParts _ k f _).toModel.unpack)) = _
    rw [normal.unpack, normal'.unpack]
    simp only [UnpackedFloat.sub, Sign.apply, Nat.cast_sub less.le]
  rw [difference]
  apply roundsTo_of_normalize (Nat.sub_pos_of_lt less)
  · rw [Nat.cast_sub less.le, sub_mul, left, right]
  · exact bottom
  · exact top

theorem mul (hx : Holds x a) (hy : Holds y b) (bottom : 2 ^ (-1022 : Int) ≤ a * b) (top : a * b < 2 ^ (1023 : Int)) :
    RoundsTo (a * b) (x * y) := by
  obtain ⟨m, e, positive, normal, rfl, rfl⟩ := hx
  obtain ⟨k, f, positive', normal', rfl, rfl⟩ := hy
  have bits : 2 ^ 52 ≤ m * k := normal.low.trans (Nat.le_mul_of_pos_right m positive')
  have nothing : LeavesOut .exact 0 := rfl
  have value : (m * 2 ^ e * (k * 2 ^ f) : ℚ) = ((m * k : Nat) + 0) * 2 ^ (e + f) := by
    rw [zpow_add₀ (by norm_num)]
    push_cast
    ring
  obtain ⟨n, g, positive'', parts, rounds⟩ :=
    roundWithAccuracy_rounds (s := .positive * .positive) bits nothing value bottom top
  refine ⟨n, g, positive'', rounds, ?_⟩
  show Float.ofModel (.pack (.mul _ (ofParts _ m e _).toModel.unpack (ofParts _ k f _).toModel.unpack)) = _
  rw [normal.unpack, normal'.unpack]
  simp only [UnpackedFloat.mul]
  rw [parts]
  rfl

theorem div (hx : Holds x a) (hy : Holds y b) (bottom : 2 ^ (-1021 : Int) ≤ a / b)
    (top : a / b < 2 ^ (1023 : Int)) : RoundsTo (a / b) (x / y) := by
  obtain ⟨m, e, positive, normal, rfl, rfl⟩ := hx
  obtain ⟨k, f, positive', normal', rfl, rfl⟩ := hy
  obtain ⟨low, high⟩ := normal.binade
  obtain ⟨low', high'⟩ := normal'.binade
  -- The quotient is less than `2 ^ (e - f + 1)`.
  have range : -1021 < e + 53 - (f + 52) := by
    apply lt_of_two_zpow bottom
    rw [div_lt_iff₀ ((two_zpow_pos _).trans_le low'), zpow_sub₀ (by norm_num), div_mul_eq_mul_div,
      lt_div_iff₀ (two_zpow_pos _)]
    exact mul_lt_mul high low' (two_zpow_pos _) (two_zpow_pos _).le
  have core := divCore_eq normal normal' (by omega)
  have bits : 2 ^ 52 ≤ (m <<< 53) / k := by
    have := normal.low
    have := normal'.high
    rw [Nat.le_div_iff_mul_le positive', Nat.shiftLeft_eq]
    omega
  have divided := (Nat.div_add_mod (m <<< 53) k).symm
  have less : (m <<< 53) % k < k := Nat.mod_lt _ positive'
  generalize (m <<< 53) / k = q at core bits divided
  generalize (m <<< 53) % k = r at core divided less
  have value := quotient_value (e := e) (f := f) positive' divided
  have left := leavesOut_accuracyOfFraction less
  have wider : (2 : ℚ) ^ (-1022 : Int) ≤ 2 ^ (-1021 : Int) := two_zpow_mono (by decide)
  obtain ⟨n, g, positive'', parts, rounds⟩ := roundWithAccuracy_rounds (s := .positive / .positive) bits left
    value (wider.trans bottom) top
  refine ⟨n, g, positive'', rounds, ?_⟩
  show Float.ofModel (.pack (.div _ (ofParts _ m e _).toModel.unpack (ofParts _ k f _).toModel.unpack)) = _
  rw [normal.unpack, normal'.unpack]
  simp only [UnpackedFloat.div, core]
  rw [parts]
  rfl

end Holds

theorem orderKey_zero : orderKey 0.0 = 0 := rfl

theorem Holds.sub_zero (h : Holds x v) : x - (0 : Nat).toFloat = x := by
  obtain ⟨m, e, positive, normal, rfl, -⟩ := h
  show Float.ofModel (.pack (.sub _ (ofParts _ m e _).toModel.unpack _)) = _
  rw [normal.unpack]
  rfl

/-- A double that is zero or positive and normal, and its value. -/
def Measures (x : Float) (v : ℚ) : Prop :=
  x = 0.0 ∧ v = 0 ∨ Holds x v

namespace Measures

theorem isNaN (h : Measures x v) : x.isNaN = false := by
  obtain ⟨rfl, -⟩ | h := h
  · rfl
  · exact h.isNaN

theorem orderKey_lt (hx : Measures x a) (hy : Measures y b) (lt : a < b) : orderKey x < orderKey y := by
  obtain ⟨rfl, rfl⟩ | hx := hx <;> obtain ⟨rfl, rfl⟩ | hy := hy
  · exact absurd lt (lt_irrefl 0)
  · exact orderKey_zero ▸ hy.orderKey_pos
  · exact absurd lt hx.pos.le.not_gt
  · exact hx.orderKey_lt hy lt

end Measures

theorem bne_zero_eq_false_iff : (x != 0.0) = false ↔ x = 0.0 ∨ x = -0.0 := by
  constructor
  · intro same
    have equal : x.toModel.unpack.beq (0.0 : Float).toModel.unpack = true := (Bool.not_eq_false' _).mp same
    obtain ⟨⟨bits, valid⟩⟩ := x
    obtain ⟨-, -, zero | ⟨-, signed⟩ | ⟨zero, -⟩⟩ := (unpack_beq_unpack_iff valid (0.0 : Float).toModel.valid).mp equal
    · left
      obtain rfl : bits = 0 := UInt64.toBitVec_inj.mp zero
      rfl
    · exact absurd (congrArg BitVec.toNat signed) (by decide)
    · right
      obtain rfl : bits = 0x8000000000000000 := UInt64.toBitVec_inj.mp zero
      rfl
  · rintro (rfl | rfl) <;> rfl

theorem roundsTo_toFloat {n : UInt64} (pos : 0 < n.toNat) : RoundsTo n.toNat n.toFloat := by
  have atLeast : (1 : ℚ) ≤ n.toNat := by exact_mod_cast pos
  have atMost : (n.toNat : ℚ) < 2 ^ 64 := by exact_mod_cast n.toNat_lt
  apply roundsTo_of_normalize pos (by rw [zpow_zero, mul_one])
  · calc (2 : ℚ) ^ (-1022 : Int) ≤ 2 ^ (0 : Int) := two_zpow_mono (by decide)
      _ = 1 := zpow_zero 2
      _ ≤ n.toNat := atLeast
  · calc (n.toNat : ℚ) < 2 ^ (64 : Int) := by exact_mod_cast atMost
      _ ≤ 2 ^ (1023 : Int) := two_zpow_mono (by decide)

/-- With zeros behind it a number of at most 53 bits is a mantissa. -/
theorem exists_isNormal (pos : 0 < n) (lt : n < 2 ^ 53) : ∃ k f, IsNormal k f ∧ (n : ℚ) = k * 2 ^ f := by
  obtain ⟨low, high⟩ := (Nat.log2_eq_iff pos.ne').mp rfl
  have size : n.log2 < 53 := (Nat.log2_lt pos.ne').mpr lt
  obtain ⟨z, zeros⟩ : ∃ z, n.log2 + z = 52 := ⟨52 - n.log2, by omega⟩
  refine ⟨n * 2 ^ z, -z, ⟨?_, ?_, by omega, by omega⟩, ?_⟩
  · calc 2 ^ 52 = 2 ^ n.log2 * 2 ^ z := by rw [← pow_add, zeros]
      _ ≤ n * 2 ^ z := Nat.mul_le_mul_right _ low
  · calc n * 2 ^ z < 2 ^ (n.log2 + 1) * 2 ^ z := Nat.mul_lt_mul_of_pos_right high (by positivity)
      _ = 2 ^ 53 := by rw [← pow_add]; congr 1; omega
  · push_cast
    rw [zpow_neg, zpow_natCast, mul_assoc, mul_inv_cancel₀ (by positivity), mul_one]

theorem natCast_range (pos : 0 < n) (lt : n < 2 ^ 53) :
    2 ^ (-1022 : Int) ≤ (n : ℚ) ∧ (n : ℚ) < 2 ^ (1023 : Int) := by
  obtain ⟨k, f, normal, value⟩ := exists_isNormal pos lt
  constructor
  · exact value ▸ normal.le_value
  · calc (n : ℚ) < 2 ^ (53 : Int) := by exact_mod_cast lt
      _ ≤ 2 ^ (1023 : Int) := two_zpow_mono (by decide)

theorem RoundsTo.holds_natCast (h : RoundsTo n x) (pos : 0 < n) (lt : n < 2 ^ 53) : Holds x n := by
  obtain ⟨k, f, normal, value⟩ := exists_isNormal pos lt
  exact h.holds normal value

theorem holds_one : Holds (Float.ofBits 0x3FF0000000000000) 1 :=
  ⟨2 ^ 52, -52, by norm_num, ⟨by norm_num, by norm_num, by norm_num, by norm_num⟩, rfl, by norm_num⟩

theorem holds_ten : Holds 10.0 10 :=
  ⟨5 * 2 ^ 50, -49, by norm_num, ⟨by norm_num, by norm_num, by norm_num, by norm_num⟩, rfl, by norm_num⟩

theorem natToFloat_eq (lt : n < 2 ^ 53) :
    n.toFloat = n.toUInt64.toFloat * Float.ofBits 0x3FF0000000000000 := by
  show Float.ofScientific n false 0 = _
  rw [Float.ofScientific, dif_pos ⟨lt, by decide⟩]
  rfl

theorem holds_natToFloat (pos : 0 < n) (lt : n < 2 ^ 53) : Holds n.toFloat n := by
  obtain ⟨bottom, top⟩ := natCast_range pos lt
  have same : n.toUInt64.toNat = n := Nat.mod_eq_of_lt (lt.trans (by norm_num))
  have word : Holds n.toUInt64.toFloat n := by
    have rounds := roundsTo_toFloat (n := n.toUInt64) (by rwa [same])
    rw [same] at rounds
    exact rounds.holds_natCast pos lt
  have product := word.mul holds_one (by rw [mul_one]; exact bottom) (by rw [mul_one]; exact top)
  rw [mul_one] at product
  rw [natToFloat_eq lt]
  exact product.holds_natCast pos lt

/-- Differences of whole numbers are exact. -/
theorem holds_natToFloat_sub (less : m < n) (lt : n < 2 ^ 53) : Holds (n.toFloat - m.toFloat) (n - m : Nat) := by
  have number : Holds n.toFloat n := holds_natToFloat (by omega) lt
  rcases Nat.eq_zero_or_pos m with rfl | pos
  · rwa [number.sub_zero]
  · obtain ⟨bottom, top⟩ := natCast_range (Nat.sub_pos_of_lt less) (by omega)
    rw [Nat.cast_sub less.le] at bottom top
    have difference := number.sub (holds_natToFloat pos (by omega)) bottom top
    rw [← Nat.cast_sub less.le] at difference
    exact difference.holds_natCast (Nat.sub_pos_of_lt less) (by omega)

end DiagramLinks.Double
