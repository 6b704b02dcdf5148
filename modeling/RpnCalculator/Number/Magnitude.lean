/-! The magnitude of a binary64 number is named by the sixty-three bits below its sign, read as one
natural number. Finite magnitudes come first, in the order of their values; then infinity; every
later pattern is a NaN. -/

namespace RpnCalculator.Magnitude

-- Powers of natural numbers are those of the core library, whatever else is in scope.
attribute [local instance(high)] instPowNat

def binade : Nat := 0x10000000000000

def infinity : Nat := 2047 * binade

/-! ## Values

The unit of all finite values is the step, the least positive number. -/

def stepDepth : Nat := 1074

/-- How often the significand is doubled. The two lowest exponents share the step itself. -/
def shift (magnitude : Nat) : Nat := magnitude / binade - 1

def significand (magnitude : Nat) : Nat := magnitude - shift magnitude * binade

def steps (magnitude : Nat) : Nat := significand magnitude * 2 ^ shift magnitude

theorem significand_lt (magnitude : Nat) : significand magnitude < 2 * binade := by
  unfold significand shift binade
  omega

theorem shift_eq_zero_of_significand_lt {magnitude : Nat}
    (small : significand magnitude < binade) : shift magnitude = 0 := by
  unfold significand shift binade at *
  omega

theorem shift_mul_add_significand (magnitude : Nat) :
    shift magnitude * binade + significand magnitude = magnitude := by
  unfold significand shift binade
  omega

theorem log2_steps (magnitude : Nat) : (steps magnitude).log2 - 52 = shift magnitude := by
  have power : binade = 2 ^ 52 := rfl
  by_cases small : significand magnitude < binade
  · simp only [steps, shift_eq_zero_of_significand_lt small, Nat.pow_zero, Nat.mul_one]
    by_cases zero : significand magnitude = 0
    · simp [zero]
    · rw [power] at small
      have := (Nat.log2_lt zero).mpr small
      omega
  · have bound := significand_lt magnitude
    have positive := Nat.two_pow_pos (shift magnitude)
    have log : (steps magnitude).log2 = 52 + shift magnitude := by
      have leading : 0 < binade := by decide
      refine (Nat.log2_eq_iff (Nat.mul_ne_zero (by omega) (by omega))).mpr ⟨?_, ?_⟩
      · rw [Nat.pow_add, ← power]
        exact Nat.mul_le_mul_right _ (by omega)
      · rw [show 52 + shift magnitude + 1 = 1 + 52 + shift magnitude by omega, Nat.pow_add,
          Nat.pow_add, ← power]
        exact Nat.mul_lt_mul_of_pos_right bound positive
    omega

/-! ## Rounding -/

def divideToEven (dividend divisor : Nat) : Nat :=
  let quotient := dividend / divisor
  let twice := 2 * (dividend % divisor)
  if twice < divisor ∨ (twice = divisor ∧ quotient % 2 = 0) then quotient
  else quotient + 1

example : (List.range 7).map (divideToEven · 2) = [0, 0, 1, 2, 2, 2, 3] := by decide

/-- The magnitude nearest to `numerator / denominator`, a tie to the even one. A significand
that is rounded up to two binades carries into the exponent by itself, and all that would come
after the last finite magnitude is infinity. -/
def nearest (numerator denominator : Nat) : Nat :=
  let dividend := numerator * 2 ^ stepDepth
  let shift := (dividend / denominator).log2 - 52
  min (shift * binade + divideToEven dividend (denominator * 2 ^ shift)) infinity

theorem divideToEven_mul {divisor : Nat} (quotient : Nat) (positive : 0 < divisor) :
    divideToEven (quotient * divisor) divisor = quotient := by
  simp [divideToEven, positive]

theorem divideToEven_eq_zero_iff {dividend divisor : Nat} (positive : 0 < divisor) :
    divideToEven dividend divisor = 0 ↔ 2 * dividend ≤ divisor := by
  by_cases small : dividend < divisor
  · simp only [divideToEven, Nat.div_eq_of_lt small, Nat.mod_eq_of_lt small, Nat.zero_mod, and_true]
    split <;> omega
  · have quotient := Nat.div_pos (Nat.not_lt.mp small) positive
    simp only [divideToEven]
    split <;> omega

theorem nearest_eq_zero_iff {numerator denominator : Nat} (positive : 0 < denominator) :
    nearest numerator denominator = 0 ↔ 2 * (numerator * 2 ^ stepDepth) ≤ denominator := by
  have leading : infinity ≠ 0 ∧ binade ≠ 0 := by decide
  by_cases shifted : (numerator * 2 ^ stepDepth / denominator).log2 ≤ 52
  · have unshifted : (numerator * 2 ^ stepDepth / denominator).log2 - 52 = 0 := by omega
    have rounded := @divideToEven_eq_zero_iff (numerator * 2 ^ stepDepth) denominator positive
    simp only [nearest, unshifted, Nat.zero_mul, Nat.zero_add, Nat.pow_zero, Nat.mul_one]
    omega
  · -- Whatever is shifted is at least a binade.
    have quotient : numerator * 2 ^ stepDepth / denominator ≠ 0 := by
      intro zero
      rw [zero] at shifted
      exact shifted (by decide)
    have large : denominator ≤ numerator * 2 ^ stepDepth :=
      Nat.not_lt.mp fun small => quotient (Nat.div_eq_of_lt small)
    have shift : binade ≤ ((numerator * 2 ^ stepDepth / denominator).log2 - 52) * binade :=
      Nat.le_mul_of_pos_left _ (by omega)
    simp only [nearest]
    omega

theorem nearest_eq_zero {numerator denominator : Nat}
    (small : 2 * (numerator * 2 ^ stepDepth) < denominator) :
    nearest numerator denominator = 0 :=
  (nearest_eq_zero_iff (Nat.zero_lt_of_lt small)).mpr (Nat.le_of_lt small)

theorem nearest_eq_infinity {numerator denominator length : Nat} (long : 2047 + 52 ≤ length)
    (large : 2 ^ length ≤ numerator * 2 ^ stepDepth / denominator) :
    nearest numerator denominator = infinity := by
  have positive := Nat.two_pow_pos length
  have log := (Nat.le_log2 (by omega)).mpr large
  simp only [nearest, infinity, binade]
  omega

theorem nearest_of_steps {magnitude numerator denominator : Nat}
    (finite : magnitude < infinity) (positive : 0 < denominator)
    (equal : numerator * 2 ^ stepDepth = steps magnitude * denominator) :
    nearest numerator denominator = magnitude := by
  have quotient : numerator * 2 ^ stepDepth / denominator = steps magnitude := by
    rw [equal, Nat.mul_div_cancel _ positive]
  have product : steps magnitude * denominator =
      significand magnitude * (denominator * 2 ^ shift magnitude) := by
    rw [steps, Nat.mul_assoc, Nat.mul_comm denominator]
  simp only [nearest, quotient, log2_steps]
  rw [equal, product, divideToEven_mul _ (Nat.mul_pos positive (Nat.two_pow_pos _)),
    shift_mul_add_significand]
  omega

end RpnCalculator.Magnitude
