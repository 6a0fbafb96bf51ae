import Mathlib
import DiagramLinks.Double

namespace DiagramLinks.Double

open Float.Model Float.Model.UnpackedFloat

variable {a : Accuracy} {x : ExtendedMantissa} {r v : ℚ} {m k : Nat} {e f t : Int} {s : Sign}

/-- What an accuracy says of the part of a unit that a mantissa leaves out. -/
def LeavesOut : Accuracy → ℚ → Prop
  | .exact, r => r = 0
  | .inexact .lt, r => 0 < r ∧ r < 1 / 2
  | .inexact .eq, r => r = 1 / 2
  | .inexact .gt, r => 1 / 2 < r ∧ r < 1

/-- A mantissa with its two further bits stands for a number. -/
def StandsFor (x : ExtendedMantissa) (v : ℚ) : Prop :=
  LeavesOut x.accuracy (v - x.mantissa)

theorem LeavesOut.bounds (h : LeavesOut a r) : 0 ≤ r ∧ r < 1 := by
  unfold LeavesOut at h
  split at h <;> constructor <;> linarith

theorem StandsFor.bounds (h : StandsFor x v) : (x.mantissa : ℚ) ≤ v ∧ v < x.mantissa + 1 := by
  have := LeavesOut.bounds h
  constructor <;> linarith

theorem standsFor_ofMantissaAndAccuracy (h : LeavesOut a r) :
    StandsFor (.ofMantissaAndAccuracy m a) (m + r) := by
  have mantissa : (ExtendedMantissa.ofMantissaAndAccuracy m a).mantissa = m := by
    unfold ExtendedMantissa.ofMantissaAndAccuracy
    split <;> rfl
  have accuracy : (ExtendedMantissa.ofMantissaAndAccuracy m a).accuracy = a := by
    unfold ExtendedMantissa.ofMantissaAndAccuracy
    split <;> rfl
  rwa [StandsFor, mantissa, accuracy, add_sub_cancel_left]

/-- The bit that is shifted out becomes the first of the two further bits. -/
theorem StandsFor.shiftRightOne (h : StandsFor x v) : StandsFor x.shiftRightOne (v / 2) := by
  obtain ⟨m, first, rest⟩ := x
  have halves : (m : ℚ) = 2 * (m / 2 : Nat) + (m % 2 : Nat) := by
    exact_mod_cast (Nat.div_add_mod m 2).symm
  simp only [StandsFor, ExtendedMantissa.shiftRightOne] at h ⊢
  rcases Nat.mod_two_eq_zero_or_one m with even | odd
  · simp only [even, Nat.cast_zero] at halves
    cases first <;> cases rest <;>
      simp only [even, ExtendedMantissa.accuracy, LeavesOut, bne_self_eq_false, Bool.or_false, Bool.or_true] at h ⊢ <;>
      first | linarith | constructor <;> linarith
  · simp only [odd, Nat.cast_one] at halves
    have bit : ((1 : Nat) != 0) = true := rfl
    cases first <;> cases rest <;>
      simp only [odd, bit, ExtendedMantissa.accuracy, LeavesOut, Bool.or_false, Bool.or_true] at h ⊢ <;>
      first | linarith | constructor <;> linarith

theorem StandsFor.shiftRight (h : StandsFor x v) (n : Nat) : StandsFor (x >>> n) (v / 2 ^ n) := by
  induction n with
  | zero =>
    show StandsFor x (v / 2 ^ 0)
    rwa [pow_zero, div_one]
  | succ n ih =>
    have next : v / 2 ^ (n + 1) = v / 2 ^ n / 2 := by rw [pow_succ, div_div]
    rw [next]
    exact ih.shiftRightOne

/-- Rounding is off by half a unit at most. -/
theorem StandsFor.rounded_near (h : StandsFor x v) : |(x.roundedMantissa : ℚ) - v| ≤ 1 / 2 := by
  obtain ⟨m, first, rest⟩ := x
  have parity : m % 2 = 0 ∨ m % 2 = 1 := Nat.mod_two_eq_zero_or_one m
  simp only [StandsFor] at h
  rw [abs_le]
  cases first <;> cases rest <;>
    simp only [ExtendedMantissa.accuracy, LeavesOut, ExtendedMantissa.roundedMantissa,
      Accuracy.roundToNearestEven] at h ⊢
  · constructor <;> linarith
  · constructor <;> linarith
  · rcases parity with p | p <;> rw [p] <;> push_cast <;> constructor <;> linarith
  · push_cast
    constructor <;> linarith

theorem StandsFor.rounded_nat (h : StandsFor x k) : x.roundedMantissa = k := by
  obtain ⟨low, high⟩ := h.bounds
  have same : x.mantissa = k := by
    have low : x.mantissa ≤ k := by exact_mod_cast low
    have high : k < x.mantissa + 1 := by exact_mod_cast high
    omega
  obtain ⟨m, first, rest⟩ := x
  subst same
  simp only [StandsFor, sub_self] at h
  cases first <;> cases rest <;>
    simp_all [ExtendedMantissa.accuracy, LeavesOut, ExtendedMantissa.roundedMantissa, Accuracy.roundToNearestEven]
  · norm_num at h

/-- Mantissa and exponent of a normal double. -/
structure IsNormal (m : Nat) (e : Int) : Prop where
  low : 2 ^ 52 ≤ m
  high : m < 2 ^ 53
  bottom : -1074 ≤ e
  top : e ≤ 971

/-- A number is rounded to a normal double. -/
structure Rounds (v : ℚ) (m : Nat) (e : Int) : Prop where
  normal : IsNormal m e
  /-- It is off by half a unit in the last place at most. -/
  near : ∀ t : Int, v < 2 ^ t → |m * 2 ^ e - v| ≤ 2 ^ (t - 54)
  exact : ∀ k f, IsNormal k f → v = k * 2 ^ f → m = k ∧ e = f

theorem two_zpow_pos (e : Int) : (0 : ℚ) < 2 ^ e := by positivity

theorem two_zpow_mono (le : e ≤ f) : (2 : ℚ) ^ e ≤ 2 ^ f :=
  zpow_le_zpow_right₀ one_le_two le

theorem lt_of_two_zpow (low : (2 : ℚ) ^ e ≤ v) (high : v < 2 ^ f) : e < f :=
  (zpow_lt_zpow_iff_right₀ (by norm_num)).mp (low.trans_lt high)

/-- With 53 bits before the point, the exponent tells the magnitude. -/
theorem binade {u : ℚ} (low : 2 ^ 52 ≤ u) (high : u < 2 ^ 53) (e : Int) :
    2 ^ (e + 52) ≤ u * 2 ^ e ∧ u * 2 ^ e < 2 ^ (e + 53) := by
  rw [zpow_add₀ (by norm_num), zpow_add₀ (by norm_num), mul_comm _ ((2 : ℚ) ^ (52 : Int)),
    mul_comm _ ((2 : ℚ) ^ (53 : Int))]
  exact ⟨mul_le_mul_of_nonneg_right low (two_zpow_pos e).le, mul_lt_mul_of_pos_right high (two_zpow_pos e)⟩

theorem IsNormal.binade (h : IsNormal m e) : (2 : ℚ) ^ (e + 52) ≤ m * 2 ^ e ∧ (m : ℚ) * 2 ^ e < 2 ^ (e + 53) :=
  Double.binade (by exact_mod_cast h.low) (by exact_mod_cast h.high) e

/-- The 53 leading bits of a number, in units of their last place, and the whole number nearest to them. -/
structure Leading (u : ℚ) (m : Nat) : Prop where
  low : 2 ^ 52 ≤ u
  high : u < 2 ^ 53
  near : |m - u| ≤ 1 / 2
  whole : ∀ k : Nat, u = k → m = k

theorem Leading.near_of_lt {u : ℚ} (h : Leading u m) (below : u * 2 ^ e < 2 ^ t) :
    |m * 2 ^ e - u * 2 ^ e| ≤ 2 ^ (t - 54) := by
  have room : e + 52 < t := lt_of_two_zpow (binade h.low h.high e).1 below
  calc |(m : ℚ) * 2 ^ e - u * 2 ^ e| = |m - u| * 2 ^ e := by
        rw [← sub_mul, abs_mul, abs_of_pos (two_zpow_pos e)]
    _ ≤ 2 ^ (-1 : Int) * 2 ^ e := by
        apply mul_le_mul_of_nonneg_right _ (two_zpow_pos e).le
        simpa using h.near
    _ = 2 ^ (-1 + e) := (zpow_add₀ (by norm_num) _ _).symm
    _ ≤ 2 ^ (t - 54) := two_zpow_mono (by omega)

/-- What is a double already, has no more than 53 bits. -/
theorem Leading.of_normal {u : ℚ} (h : Leading u m) (normal : IsNormal k f) (same : u * 2 ^ e = k * 2 ^ f) :
    m = k ∧ e = f := by
  obtain ⟨start, stop⟩ := binade h.low h.high e
  obtain ⟨low, high⟩ := normal.binade
  obtain rfl : e = f := by
    have := lt_of_two_zpow start (same ▸ high)
    have := lt_of_two_zpow low (same ▸ stop)
    omega
  exact ⟨h.whole k (mul_right_cancel₀ (two_zpow_pos e).ne' same), rfl⟩

theorem Leading.bounds {u : ℚ} (h : Leading u m) : 2 ^ 52 ≤ m ∧ m ≤ 2 ^ 53 := by
  have near := abs_le.mp h.near
  have low := h.low
  have high := h.high
  constructor
  · have : (2 ^ 52 : ℚ) < (m + 1 : Nat) := by push_cast; linarith
    have : 2 ^ 52 < m + 1 := by exact_mod_cast this
    omega
  · have : (m : ℚ) < (2 ^ 53 + 1 : Nat) := by push_cast; linarith
    have : m < 2 ^ 53 + 1 := by exact_mod_cast this
    omega

theorem Leading.rounds {u : ℚ} (h : Leading u m) (fits : m < 2 ^ 53) (bottom : -1074 ≤ e) (top : e ≤ 971) :
    Rounds (u * 2 ^ e) m e where
  normal := ⟨h.bounds.1, fits, bottom, top⟩
  near _ below := h.near_of_lt below
  exact _ _ normal same := h.of_normal normal same

/-- Rounding may carry into a further bit. -/
theorem Leading.rounds_carried {u : ℚ} (h : Leading u (2 ^ 53)) (bottom : -1074 ≤ e) (top : e ≤ 970) :
    Rounds (u * 2 ^ e) (2 ^ 52) (e + 1) where
  normal := ⟨by norm_num, by norm_num, by omega, by omega⟩
  near t below := by
    have near := h.near_of_lt below
    have same : ((2 ^ 52 : Nat) : ℚ) * 2 ^ (e + 1) = (2 ^ 53 : Nat) * 2 ^ e := by
      rw [zpow_add₀ (by norm_num)]
      push_cast
      ring
    rwa [same]
  exact k f normal same := by
    obtain ⟨carried, -⟩ := h.of_normal normal same
    exact absurd normal.high (by omega)

theorem targetExponent_eq (m : Nat) (e : Int) :
    Format.binary64.targetExponent (totalExponent m e) = max (m.log2 + e - 52) (-1074) := by
  simp only [Format.targetExponent, totalExponent, Format.mantissaBits, Format.minExponent]
  norm_num
  omega

/-- Shifting goes on until 53 bits are left. -/
theorem shiftToTargetExponent_eq {n : Nat} (size : m.log2 = 52 + n) (bottom : -1074 ≤ e + n) :
    shiftToTargetExponent Format.binary64 m e a =
      (ExtendedMantissa.ofMantissaAndAccuracy m a >>> n, e + n) := by
  have shift : (Format.binary64.targetExponent (totalExponent m e) - e).toNat = n := by
    rw [targetExponent_eq]
    omega
  simp only [shiftToTargetExponent, shiftToExponent, shift]

theorem shiftToTargetExponent_of_lt (low : 2 ^ 52 ≤ m) (high : m < 2 ^ 53) (bottom : -1074 ≤ e) :
    shiftToTargetExponent Format.binary64 m e .exact = (⟨m, false, false⟩, e) := by
  have size : m.log2 = 52 + 0 := (Nat.log2_eq_iff (by omega)).mpr ⟨low, high⟩
  have still : -1074 ≤ e + (0 : Nat) := by omega
  rw [shiftToTargetExponent_eq size still]
  simp only [Nat.cast_zero, add_zero]
  rfl

theorem shiftToTargetExponent_of_carried (bottom : -1074 ≤ e) :
    shiftToTargetExponent Format.binary64 (2 ^ 53) e .exact = (⟨2 ^ 52, false, false⟩, e + 1) := by
  have size : (2 ^ 53 : Nat).log2 = 52 + 1 := Nat.log2_two_pow
  have still : -1074 ≤ e + (1 : Nat) := by omega
  rw [shiftToTargetExponent_eq size still]
  rfl

/-- A mantissa with at least 53 bits has the leading bits of a number. -/
theorem leading_of_log2 {n : Nat} (pos : m ≠ 0) (size : m.log2 = 52 + n) (left : LeavesOut a r) :
    Leading ((m + r) / 2 ^ n) (ExtendedMantissa.ofMantissaAndAccuracy m a >>> n).roundedMantissa := by
  obtain ⟨low, high⟩ := (Nat.log2_eq_iff pos).mp size
  obtain ⟨nonneg, lt_one⟩ := left.bounds
  have stands := (standsFor_ofMantissaAndAccuracy (m := m) left).shiftRight n
  constructor
  case low =>
    have : (2 : ℚ) ^ (52 + n) ≤ m := by exact_mod_cast low
    rw [le_div_iff₀ (by positivity), ← pow_add]
    linarith
  case high =>
    have : (m + 1 : ℚ) ≤ 2 ^ (52 + n + 1) := by exact_mod_cast high
    rw [div_lt_iff₀ (by positivity), ← pow_add]
    calc (m : ℚ) + r < m + 1 := by linarith
      _ ≤ 2 ^ (53 + n) := by rwa [show 53 + n = 52 + n + 1 by omega]
  case near => exact stands.rounded_near
  case whole => exact fun k same => StandsFor.rounded_nat (same ▸ stands)

/-- A number between `m` and `m + 1` units of `2 ^ e` is rounded. -/
theorem roundWithAccuracy_rounds (bits : 2 ^ 52 ≤ m) (left : LeavesOut a r) (hv : v = (m + r) * 2 ^ e)
    (bottom : 2 ^ (-1022 : Int) ≤ v) (top : v < 2 ^ (1023 : Int)) :
    ∃ k f positive, roundWithAccuracy Format.binary64 s m e a = .finite s k f positive ∧ Rounds v k f := by
  have pos : m ≠ 0 := by omega
  obtain ⟨n, size⟩ : ∃ n, m.log2 = 52 + n := Nat.exists_eq_add_of_le ((Nat.le_log2 pos).mpr bits)
  have leading := leading_of_log2 pos size left
  have value : v = (m + r) / 2 ^ n * 2 ^ (e + n) := by
    rw [hv, zpow_add₀ (by norm_num), zpow_natCast]
    field_simp
  obtain ⟨start, stop⟩ := binade leading.low leading.high (e + n)
  rw [← value] at start stop
  have bottom : -1074 ≤ e + n := by
    have := lt_of_two_zpow bottom stop
    omega
  have top : e + n ≤ 970 := by
    have := lt_of_two_zpow start top
    omega
  rw [roundWithAccuracy, shiftToTargetExponent_eq size bottom]
  dsimp only
  generalize (ExtendedMantissa.ofMantissaAndAccuracy m a >>> n).roundedMantissa = R at leading
  obtain ⟨atLeast, atMost⟩ := leading.bounds
  rcases Nat.lt_or_eq_of_le atMost with fits | rfl
  · rw [shiftToTargetExponent_of_lt atLeast fits bottom]
    have positive : R ≠ 0 := by omega
    exact ⟨R, e + n, Nat.pos_of_ne_zero positive, dif_neg positive,
      value ▸ leading.rounds fits bottom (top.trans (by norm_num))⟩
  · rw [shiftToTargetExponent_of_carried bottom]
    exact ⟨2 ^ 52, e + n + 1, by norm_num, rfl, value ▸ leading.rounds_carried bottom top⟩

/-- A number is rounded that may have fewer bits than a double. -/
theorem round_rounds (pos : 0 < m) (hv : v = m * 2 ^ e) (bottom : 2 ^ (-1022 : Int) ≤ v)
    (top : v < 2 ^ (1023 : Int)) :
    ∃ k f positive, UnpackedFloat.round Format.binary64 s m e = .finite s k f positive ∧ Rounds v k f := by
  obtain ⟨low, high⟩ := (Nat.log2_eq_iff pos.ne').mp rfl
  -- The mantissa is given as many bits as it lacks.
  have target : -1074 ≤ m.log2 + e - 52 := by
    have above : v < (2 : ℚ) ^ (m.log2 + 1 + e) := by
      rw [hv, zpow_add₀ (by norm_num)]
      apply mul_lt_mul_of_pos_right _ (two_zpow_pos e)
      exact_mod_cast high
    have := lt_of_two_zpow bottom above
    omega
  have bits : 2 ^ 52 ≤ m <<< (52 - m.log2) := by
    rw [Nat.shiftLeft_eq]
    calc 2 ^ 52 ≤ 2 ^ (m.log2 + (52 - m.log2)) := Nat.pow_le_pow_right (by norm_num) (by omega)
      _ = 2 ^ m.log2 * 2 ^ (52 - m.log2) := pow_add _ _ _
      _ ≤ m * 2 ^ (52 - m.log2) := Nat.mul_le_mul_right _ low
  have lacks : (e - Format.binary64.targetExponent (totalExponent m e)).toNat = 52 - m.log2 := by
    rw [targetExponent_eq]
    omega
  rw [UnpackedFloat.round]
  simp only [decreaseExponent, lacks]
  have nothing : LeavesOut .exact 0 := rfl
  apply roundWithAccuracy_rounds bits nothing _ bottom top
  rw [hv, Nat.shiftLeft_eq, zpow_sub₀ (by norm_num), zpow_natCast]
  push_cast
  field_simp
  ring

end DiagramLinks.Double
