import Mathlib.Data.Int.Log
import Mathlib.Data.Rat.Floor

/-!
# The download progress in doubles

`_download_update` reports `int((downloaded / total_size) * 50)` under
`if total_size > 0`.  The true division of two ints is rounded to a double,
multiplied by `50.0` and rounded again, and `int` truncates the result, here
a nonnegative one.  The doubles are the rationals `m * 2 ^ e` with `m` an
integer of at most 53 bits and `e` at least `-1074`; `roundDouble` rounds to
the nearest of them, ties to even, as CPython's `int / int` and
`float * float` do.  The values met here stay far below the overflow
threshold.  `downloadProgressDouble` is the value the agent reports, and
`downloadProgress` the exact `50 * downloaded // total_size` it approximates.

The rounding is monotone and within half a unit in the last place of the
exact value.  Hence the reported progress is monotone in the byte count, and
for a byte count within the advertised length it lies between 0 and 50 and is
within one of the exact progress; it is not always equal to it (29 bytes of 50
give 28, not 29).
-/

namespace FleetdAgent

/-! ## Rounding to an integer, ties to even -/

/-- Rounding a rational to the nearest integer, and to the even one of the
two nearest on a tie. -/
def roundHalfEven (y : ℚ) : ℤ :=
  if y - ⌊y⌋ < 1 / 2 then ⌊y⌋
  else if 1 / 2 < y - ⌊y⌋ then ⌊y⌋ + 1
  else if ⌊y⌋ % 2 = 0 then ⌊y⌋ else ⌊y⌋ + 1

/-- What rounding to an integer does: it keeps the floor when the fraction is
at most a half, and goes one up when it is at least a half. -/
theorem roundHalfEven_spec (y : ℚ) :
    (roundHalfEven y = ⌊y⌋ ∧ y - ⌊y⌋ ≤ 1 / 2) ∨ (roundHalfEven y = ⌊y⌋ + 1 ∧ 1 / 2 ≤ y - ⌊y⌋) := by
  unfold roundHalfEven
  split_ifs with h₁ h₂
  · exact .inl ⟨rfl, h₁.le⟩
  · exact .inr ⟨rfl, h₂.le⟩
  · exact .inl ⟨rfl, not_lt.1 h₂⟩
  · exact .inr ⟨rfl, not_lt.1 h₁⟩

theorem roundHalfEven_intCast (n : ℤ) : roundHalfEven n = n := by
  simp [roundHalfEven]

theorem abs_roundHalfEven_sub_le (y : ℚ) : |(roundHalfEven y : ℚ) - y| ≤ 1 / 2 := by
  have h₀ := Int.floor_le y
  have h₁ := Int.lt_floor_add_one y
  rcases roundHalfEven_spec y with ⟨h, hy⟩ | ⟨h, hy⟩ <;> rw [h, abs_le] <;> push_cast <;>
    constructor <;> linarith

theorem roundHalfEven_mono {y y' : ℚ} (h : y ≤ y') : roundHalfEven y ≤ roundHalfEven y' := by
  have hfloor := Int.floor_mono h
  rcases roundHalfEven_spec y with ⟨hy, -⟩ | ⟨hy, h₁⟩ <;>
    rcases roundHalfEven_spec y' with ⟨hy', h₂⟩ | ⟨hy', -⟩ <;> try omega
  -- the floor is kept at `y'` but not at `y`: both are its floor plus a half
  rcases hfloor.lt_or_eq with hlt | heq
  · omega
  · obtain rfl : y = y' := le_antisymm h (by rw [← heq] at h₂; linarith)
    omega

theorem roundHalfEven_le_of_le {y : ℚ} {n : ℤ} (h : y ≤ n) : roundHalfEven y ≤ n :=
  (roundHalfEven_mono h).trans (roundHalfEven_intCast n).le

theorem le_roundHalfEven_of_le {y : ℚ} {n : ℤ} (h : (n : ℚ) ≤ y) : n ≤ roundHalfEven y :=
  (roundHalfEven_intCast n).ge.trans (roundHalfEven_mono h)

/-! ## Rounding to a double -/

/-- The exponent of the last place of the doubles around a positive `x`: 53
significant bits, and no place below the subnormals' `2 ^ -1074`. -/
def ulpExponent (x : ℚ) : ℤ := max (Int.log 2 x - 52) (-1074)

/-- Rounding to the nearest multiple of `2 ^ u`, ties to an even multiple. -/
def roundAt (u : ℤ) (x : ℚ) : ℚ := roundHalfEven (x / 2 ^ u) * 2 ^ u

/-- Rounding a nonnegative rational to the nearest double, ties to even. -/
def roundDouble (x : ℚ) : ℚ := roundAt (ulpExponent x) x

section RoundAt

variable {u : ℤ} {x y : ℚ}

theorem two_zpow_pos (u : ℤ) : (0 : ℚ) < 2 ^ u := zpow_pos two_pos u

theorem two_zpow_le_two_zpow {u v : ℤ} (h : u ≤ v) : (2 : ℚ) ^ u ≤ 2 ^ v :=
  zpow_le_zpow_right₀ one_le_two h

theorem roundAt_mono (u : ℤ) (h : x ≤ y) : roundAt u x ≤ roundAt u y :=
  mul_le_mul_of_nonneg_right
    (Int.cast_le.2 (roundHalfEven_mono ((div_le_div_iff_of_pos_right (two_zpow_pos u)).2 h)))
    (two_zpow_pos u).le

theorem roundAt_le_of_le {n : ℤ} (h : x ≤ n * 2 ^ u) : roundAt u x ≤ n * 2 ^ u :=
  mul_le_mul_of_nonneg_right
    (Int.cast_le.2 (roundHalfEven_le_of_le ((div_le_iff₀ (two_zpow_pos u)).2 h)))
    (two_zpow_pos u).le

theorem le_roundAt_of_le {n : ℤ} (h : n * 2 ^ u ≤ x) : n * 2 ^ u ≤ roundAt u x :=
  mul_le_mul_of_nonneg_right
    (Int.cast_le.2 (le_roundHalfEven_of_le ((le_div_iff₀ (two_zpow_pos u)).2 h)))
    (two_zpow_pos u).le

theorem roundAt_intCast_mul (u : ℤ) (n : ℤ) : roundAt u (n * 2 ^ u) = n * 2 ^ u :=
  le_antisymm (roundAt_le_of_le le_rfl) (le_roundAt_of_le le_rfl)

/-- Integers are multiples of `2 ^ u` for `u ≤ 0`. -/
theorem roundAt_intCast_of_nonpos (hu : u ≤ 0) (n : ℤ) : roundAt u n = n := by
  have hn : (n : ℚ) = ((n * 2 ^ (-u).toNat : ℤ) : ℚ) * 2 ^ u := by
    rw [Int.cast_mul, Int.cast_pow, Int.cast_two, ← zpow_natCast, Int.toNat_of_nonneg (by omega),
      mul_assoc, ← zpow_add₀ two_ne_zero]
    simp
  calc roundAt u n = roundAt u (((n * 2 ^ (-u).toNat : ℤ) : ℚ) * 2 ^ u) := by rw [← hn]
    _ = n := (roundAt_intCast_mul u _).trans hn.symm

theorem abs_roundAt_sub_le (u : ℤ) (x : ℚ) : |roundAt u x - x| ≤ 2 ^ u / 2 := by
  have hu := two_zpow_pos u
  have hsub : roundAt u x - x = (roundHalfEven (x / 2 ^ u) - x / 2 ^ u) * 2 ^ u := by
    rw [roundAt, sub_mul, div_mul_cancel₀ x hu.ne']
  calc |roundAt u x - x| = |(roundHalfEven (x / 2 ^ u) : ℚ) - x / 2 ^ u| * 2 ^ u := by
        rw [hsub, abs_mul, abs_of_pos hu]
    _ ≤ 1 / 2 * 2 ^ u := mul_le_mul_of_nonneg_right (abs_roundHalfEven_sub_le _) hu.le
    _ = 2 ^ u / 2 := by ring

end RoundAt

section RoundDouble

variable {x y : ℚ}

theorem two_zpow_log_le (hx : 0 < x) : (2 : ℚ) ^ Int.log 2 x ≤ x := by
  exact_mod_cast Int.zpow_log_le_self one_lt_two hx

theorem lt_two_zpow_log_add_one (x : ℚ) : x < 2 ^ (Int.log 2 x + 1) := by
  exact_mod_cast Int.lt_zpow_succ_log_self one_lt_two x

/-- `Int.log 2 x` is the exponent of the power of two just below `x`. -/
theorem log_two_eq {z : ℤ} (h₁ : (2 : ℚ) ^ z ≤ x) (h₂ : x < 2 ^ (z + 1)) : Int.log 2 x = z := by
  have hx := (two_zpow_pos z).trans_le h₁
  have hlt := (Int.lt_zpow_iff_log_lt one_lt_two hx).1 (by exact_mod_cast h₂)
  have hle := (Int.zpow_le_iff_le_log one_lt_two hx).1 (by exact_mod_cast h₁)
  omega

@[simp]
theorem roundDouble_zero : roundDouble 0 = 0 := by
  simpa using roundAt_intCast_mul (ulpExponent 0) 0

/-- Every `x` is below `2 ^ 53` places of its own. -/
theorem lt_two_pow_mul_ulp (x : ℚ) : x < (2 ^ 53 : ℤ) * 2 ^ ulpExponent x := by
  calc x < 2 ^ (Int.log 2 x + 1) := lt_two_zpow_log_add_one x
    _ = 2 ^ (53 : ℤ) * 2 ^ (Int.log 2 x - 52) := by
        rw [← zpow_add₀ two_ne_zero]; ring_nf
    _ ≤ 2 ^ (53 : ℤ) * 2 ^ ulpExponent x :=
        mul_le_mul_of_nonneg_left (two_zpow_le_two_zpow (le_max_left _ _)) (two_zpow_pos 53).le
    _ = (2 ^ 53 : ℤ) * 2 ^ ulpExponent x := by norm_num

/-- Past the subnormals, `y` has at least `2 ^ 52` places of its own. -/
theorem two_pow_mul_ulp_le (hy : 0 < y) (h : ulpExponent x < ulpExponent y) :
    (2 ^ 52 : ℤ) * 2 ^ ulpExponent y ≤ y := by
  have hnormal : ulpExponent y = Int.log 2 y - 52 := by
    have : -1074 ≤ ulpExponent x := le_max_right _ _
    unfold ulpExponent at *
    omega
  calc ((2 ^ 52 : ℤ) : ℚ) * 2 ^ ulpExponent y = 2 ^ Int.log 2 y := by
        rw [hnormal, Int.cast_pow, Int.cast_two, ← zpow_natCast, ← zpow_add₀ two_ne_zero]; ring_nf
    _ ≤ y := two_zpow_log_le hy

/-- The place of a positive `x` is at most `x / 2 ^ 52`, or a subnormal's. -/
theorem two_zpow_ulp_le (hx : 0 < x) : (2 : ℚ) ^ ulpExponent x ≤ x / 2 ^ 52 + 2 ^ (-1074 : ℤ) := by
  have h₀ := two_zpow_pos (-1074)
  rcases max_cases (Int.log 2 x - 52) (-1074) with ⟨h, -⟩ | ⟨h, -⟩ <;> rw [ulpExponent, h]
  · have hlog : (2 : ℚ) ^ (Int.log 2 x - 52) = 2 ^ Int.log 2 x / 2 ^ 52 := by
      rw [zpow_sub₀ two_ne_zero]; norm_num
    rw [hlog]
    have := div_le_div_of_nonneg_right (two_zpow_log_le hx) (by norm_num : (0 : ℚ) ≤ 2 ^ 52)
    linarith
  · have := div_nonneg hx.le (by norm_num : (0 : ℚ) ≤ 2 ^ 52)
    linarith

theorem roundDouble_nonneg (hx : 0 ≤ x) : 0 ≤ roundDouble x := by
  simpa using le_roundAt_of_le (n := 0) (u := ulpExponent x) (by simpa using hx)

/-- Rounding to a double is monotone: within one binade the places are the
same, and a binade's top is at most the next one's bottom. -/
theorem roundDouble_mono (hx : 0 ≤ x) (h : x ≤ y) : roundDouble x ≤ roundDouble y := by
  rcases hx.eq_or_lt with rfl | hx
  · simpa using roundDouble_nonneg h
  have hu : ulpExponent x ≤ ulpExponent y :=
    max_le_max (by have := Int.log_mono_right (b := 2) hx h; omega) le_rfl
  rcases hu.eq_or_lt with heq | hlt
  · rw [roundDouble, roundDouble, heq]
    exact roundAt_mono _ h
  · calc roundDouble x ≤ (2 ^ 53 : ℤ) * 2 ^ ulpExponent x :=
          roundAt_le_of_le (lt_two_pow_mul_ulp x).le
      _ = (2 ^ 52 : ℤ) * 2 ^ (ulpExponent x + 1) := by
          rw [zpow_add_one₀ two_ne_zero]; push_cast; ring
      _ ≤ (2 ^ 52 : ℤ) * 2 ^ ulpExponent y :=
          mul_le_mul_of_nonneg_left (two_zpow_le_two_zpow hlt) (by norm_num)
      _ ≤ roundDouble y := le_roundAt_of_le (two_pow_mul_ulp_le (hx.trans_le h) hlt)

/-- A double is within half a place of the rational it rounds. -/
theorem abs_roundDouble_sub_le (hx : 0 ≤ x) :
    |roundDouble x - x| ≤ x / 2 ^ 53 + 2 ^ (-1075 : ℤ) := by
  have h₀ : (2 : ℚ) ^ (-1075 : ℤ) = 2 ^ (-1074 : ℤ) / 2 := by
    rw [show (-1074 : ℤ) = -1075 + 1 by norm_num, zpow_add_one₀ two_ne_zero]; ring
  rcases hx.eq_or_lt with rfl | hx
  · rw [roundDouble_zero, sub_zero, abs_zero]; positivity
  calc |roundDouble x - x| ≤ 2 ^ ulpExponent x / 2 := abs_roundAt_sub_le _ _
    _ ≤ (x / 2 ^ 52 + 2 ^ (-1074 : ℤ)) / 2 :=
        div_le_div_of_nonneg_right (two_zpow_ulp_le hx) zero_le_two
    _ = x / 2 ^ 53 + 2 ^ (-1075 : ℤ) := by rw [h₀]; ring

/-- Integers below `2 ^ 53` are doubles. -/
theorem roundDouble_natCast {n : ℕ} (h : n < 2 ^ 53) : roundDouble n = n := by
  rcases Nat.eq_zero_or_pos n with rfl | hn
  · simp
  have hlog := (Int.lt_zpow_iff_log_lt one_lt_two (x := 53) (Nat.cast_pos.2 hn : (0 : ℚ) < n)).1
    (by exact_mod_cast h)
  have hu : ulpExponent n ≤ 0 := by unfold ulpExponent; omega
  simpa using roundAt_intCast_of_nonpos hu (n : ℤ)

@[simp]
theorem roundDouble_one : roundDouble 1 = 1 := by
  simpa using roundDouble_natCast (n := 1) (by norm_num)

/-- Below `2 ^ k`, a double is within `2 ^ k / 2 ^ 52` of the rational it rounds. -/
theorem abs_roundDouble_sub_le_of_le {k : ℕ} (hx : 0 ≤ x) (hk : x ≤ 2 ^ k) :
    |roundDouble x - x| ≤ 2 ^ k / 2 ^ 52 := by
  have hsub : (2 : ℚ) ^ (-1075 : ℤ) ≤ 2 ^ k / 2 ^ 53 := by
    rw [← zpow_natCast, ← zpow_natCast, ← zpow_sub₀ two_ne_zero]
    exact two_zpow_le_two_zpow (by omega)
  have := abs_roundDouble_sub_le hx
  have := div_le_div_of_nonneg_right hk (by norm_num : (0 : ℚ) ≤ 2 ^ 53)
  calc |roundDouble x - x| ≤ 2 ^ k / 2 ^ 53 + 2 ^ k / 2 ^ 53 := by linarith
    _ = 2 ^ k / 2 ^ 52 := by ring

end RoundDouble

/-! ## The progress in doubles -/

/-- `50 * downloaded // total_size`: the download progress in exact
arithmetic, which the agent's doubles approximate. -/
def downloadProgress (downloaded : Nat) (totalSize : Int) : Int := 50 * downloaded / totalSize

/-- `int((downloaded / total_size) * 50)`, under the `if total_size > 0` that
guards it: the quotient is rounded to a double, its product by `50.0` is
rounded again, and `int` of the nonnegative result is its floor. -/
def downloadProgressDouble (downloaded : Nat) (totalSize : Int) : Int :=
  ⌊roundDouble (roundDouble ((downloaded : ℚ) / totalSize) * 50)⌋

section Progress

variable {d d' : Nat} {totalSize : Int}

theorem downloadProgressDouble_mono (hpos : 0 < totalSize) (h : d ≤ d') :
    downloadProgressDouble d totalSize ≤ downloadProgressDouble d' totalSize := by
  have ht : (0 : ℚ) < totalSize := Int.cast_pos.2 hpos
  have hq : (0 : ℚ) ≤ d / totalSize := div_nonneg (Nat.cast_nonneg d) ht.le
  have h₁ := roundDouble_mono hq (div_le_div_of_nonneg_right (Nat.cast_le.2 h) ht.le)
  exact Int.floor_mono (roundDouble_mono
    (mul_nonneg (roundDouble_nonneg hq) (by norm_num)) (by linarith))

theorem downloadProgressDouble_nonneg (d : Nat) (hpos : 0 < totalSize) :
    0 ≤ downloadProgressDouble d totalSize := by
  simpa [downloadProgressDouble] using downloadProgressDouble_mono (d := 0) hpos (Nat.zero_le d)

/-- Up to the advertised length the quotient is at most `1.0`, a double. -/
theorem roundDouble_fraction_le_one (hpos : 0 < totalSize) (h : d ≤ totalSize) :
    roundDouble (d / totalSize) ≤ 1 := by
  have ht : (0 : ℚ) < totalSize := Int.cast_pos.2 hpos
  have hle : (d : ℚ) / totalSize ≤ 1 := by rw [div_le_one ht]; exact_mod_cast h
  exact roundDouble_one ▸ roundDouble_mono (div_nonneg (Nat.cast_nonneg d) ht.le) hle

theorem downloadProgressDouble_le_fifty (hpos : 0 < totalSize) (h : d ≤ totalSize) :
    downloadProgressDouble d totalSize ≤ 50 := by
  have ht : (0 : ℚ) < totalSize := Int.cast_pos.2 hpos
  have hq : (0 : ℚ) ≤ d / totalSize := div_nonneg (Nat.cast_nonneg d) ht.le
  have h50 : roundDouble (roundDouble (d / totalSize) * 50) ≤ roundDouble ((50 : ℕ) : ℚ) :=
    roundDouble_mono (mul_nonneg (roundDouble_nonneg hq) (by norm_num))
      (by have := roundDouble_fraction_le_one hpos h; push_cast; linarith)
  rw [roundDouble_natCast (by norm_num)] at h50
  exact Int.floor_le_iff.2 (by push_cast; linarith)

/-- The exact progress is the floor of fifty times the exact quotient. -/
theorem downloadProgress_eq_floor (hpos : 0 < totalSize) :
    downloadProgress d totalSize = ⌊(50 : ℚ) * (d / totalSize)⌋ := by
  rw [downloadProgress, ← Int.toNat_of_nonneg hpos.le, ← Rat.floor_intCast_div_natCast]
  push_cast
  ring_nf

/-- Two rationals less than one apart have floors at most one apart. -/
theorem abs_floor_sub_floor_le {a b : ℚ} (h : |a - b| < 1) : |⌊a⌋ - ⌊b⌋| ≤ 1 := by
  rw [abs_lt] at h
  have h₁ : ⌊a⌋ ≤ ⌊b⌋ + 1 := by rw [← Int.floor_add_one]; exact Int.floor_mono (by linarith)
  have h₂ : ⌊b⌋ ≤ ⌊a⌋ + 1 := by rw [← Int.floor_add_one]; exact Int.floor_mono (by linarith)
  rw [abs_le]; constructor <;> omega

/-- Up to the advertised length, the two roundings move fifty times the
quotient by less than one, so the progress is within one of the exact one. -/
theorem abs_downloadProgressDouble_sub_le (hpos : 0 < totalSize) (h : d ≤ totalSize) :
    |downloadProgressDouble d totalSize - downloadProgress d totalSize| ≤ 1 := by
  have ht : (0 : ℚ) < totalSize := Int.cast_pos.2 hpos
  set q : ℚ := d / totalSize
  have hq : 0 ≤ q := div_nonneg (Nat.cast_nonneg d) ht.le
  have hq1 : q ≤ 1 := by rw [div_le_one ht]; exact_mod_cast h
  have hr := roundDouble_nonneg hq
  have hr1 := roundDouble_fraction_le_one hpos h
  have e₁ := abs_roundDouble_sub_le_of_le (k := 0) hq (by simpa using hq1)
  have e₂ := abs_roundDouble_sub_le_of_le (k := 6) (mul_nonneg hr (by norm_num : (0 : ℚ) ≤ 50))
    (by norm_num; linarith)
  rw [downloadProgress_eq_floor hpos, downloadProgressDouble]
  apply abs_floor_sub_floor_le
  calc |roundDouble (roundDouble q * 50) - 50 * q|
        ≤ |roundDouble (roundDouble q * 50) - roundDouble q * 50| + |roundDouble q * 50 - 50 * q| :=
          abs_sub_le _ _ _
    _ = |roundDouble (roundDouble q * 50) - roundDouble q * 50| + 50 * |roundDouble q - q| := by
          rw [show roundDouble q * 50 - 50 * q = 50 * (roundDouble q - q) by ring, abs_mul,
            abs_of_pos (by norm_num : (0 : ℚ) < 50)]
    _ ≤ 2 ^ 6 / 2 ^ 52 + 50 * (2 ^ 0 / 2 ^ 52) :=
          add_le_add e₂ (mul_le_mul_of_nonneg_left e₁ (by norm_num))
    _ < 1 := by norm_num

end Progress

/-- For byte counts within the advertised length, the progress the agent
computes in doubles starts at 0 or above, never goes back as bytes arrive,
stays at most 50, and is within one of the exact `50 * downloaded // total_size`. -/
theorem download_progress_doubles_within_one (d d' : Nat) (totalSize : Int)
    (hpos : 0 < totalSize) (hd : d ≤ d') (hd' : d' ≤ totalSize) :
    0 ≤ downloadProgressDouble d totalSize ∧
      downloadProgressDouble d totalSize ≤ downloadProgressDouble d' totalSize ∧
      downloadProgressDouble d' totalSize ≤ 50 ∧
      |downloadProgressDouble d totalSize - downloadProgress d totalSize| ≤ 1 :=
  ⟨downloadProgressDouble_nonneg d hpos, downloadProgressDouble_mono hpos hd,
    downloadProgressDouble_le_fifty hpos hd',
    abs_downloadProgressDouble_sub_le hpos ((Int.ofNat_le.2 hd).trans hd')⟩

/-- At 29 bytes of 50 the doubles give 28 where the exact progress is 29:
`29 / 50` rounds down to `5224175567749775 * 2 ^ -53`, and fifty times that
rounds to `8162774324609023 * 2 ^ -48`, just below 29. -/
theorem download_progress_doubles_at_29_of_50 :
    (0 : Int) < 50 ∧ 29 ≤ 50 ∧ ((50 : Nat) : Int) ≤ 50 ∧
      (0 ≤ downloadProgressDouble 29 50 ∧
        downloadProgressDouble 29 50 ≤ downloadProgressDouble 50 50 ∧
        downloadProgressDouble 50 50 ≤ 50 ∧
        |downloadProgressDouble 29 50 - downloadProgress 29 50| ≤ 1) ∧
      downloadProgressDouble 29 50 = 28 ∧ downloadProgress 29 50 = 29 := by
  have r₁ : roundDouble ((29 : ℕ) / (50 : ℤ) : ℚ) = 5224175567749775 / 2 ^ 53 := by
    rw [roundDouble, roundAt, ulpExponent, log_two_eq (z := -1) (by norm_num) (by norm_num)]
    norm_num [roundHalfEven]
  have r₂ : roundDouble ((5224175567749775 / 2 ^ 53 : ℚ) * 50) = 8162774324609023 / 2 ^ 48 := by
    rw [roundDouble, roundAt, ulpExponent, log_two_eq (z := 4) (by norm_num) (by norm_num)]
    norm_num [roundHalfEven]
  refine ⟨by norm_num, by norm_num, by norm_num,
    download_progress_doubles_within_one 29 50 50 (by norm_num) (by norm_num) (by norm_num), ?_,
    by decide⟩
  rw [downloadProgressDouble, r₁, r₂]
  norm_num

end FleetdAgent
