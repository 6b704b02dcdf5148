import RpnCalculator.Number.Magnitude

/-! Unsigned decimal numbers, the binary64 magnitude nearest to each, and the decimal number that is
chosen to stand for a magnitude. -/

namespace RpnCalculator

-- Powers of natural numbers are those of the core library, whatever else is in scope.
attribute [local instance(high)] instPowNat

structure Decimal where
  digits : Nat
  scale : Int
  deriving DecidableEq, Repr

namespace Decimal

open Magnitude

/-! ## Nearest magnitude -/

/-- The magnitude nearest to a decimal number. A number of at least `10 ^ 401`, and one below
half a step, are recognised by their scale, so that no exponent is expanded further than the
digits beside it require. -/
def magnitude : Decimal → Nat
  | ⟨digits, scale⟩ =>
    if digits = 0 then 0
    else if scale < -400 then infinity
    else if digits.log2 + 1076 ≤ 3 * scale then 0
    else nearest (digits * 10 ^ (-scale).toNat) (10 ^ scale.toNat)

example : magnitude ⟨15, 1⟩ = 0x3FF8000000000000 := by decide +kernel
example : magnitude ⟨1, 99999999999⟩ = 0 ∧ magnitude ⟨1, -99999999999⟩ = infinity := by
  decide +kernel

theorem magnitude_eq_nearest (digits : Nat) (scale : Int) :
    magnitude ⟨digits, scale⟩ =
      nearest (digits * 10 ^ (-scale).toNat) (10 ^ scale.toNat) := by
  have powers (exponent : Nat) : 2 ^ (3 * exponent) ≤ 10 ^ exponent := by
    rw [Nat.pow_mul]
    exact Nat.pow_le_pow_left (by decide) exponent
  have depth : stepDepth = 1074 := rfl
  rw [magnitude]
  split
  next zero =>
    rw [zero, Nat.zero_mul]
    refine (nearest_eq_zero ?_).symm
    rw [Nat.zero_mul, Nat.mul_zero]
    exact Nat.pow_pos (by decide)
  next nonzero =>
    split
    next large =>
      have long : 2047 + 52 ≤ 3 * (-scale).toNat + stepDepth := by omega
      refine (nearest_eq_infinity long ?_).symm
      rw [show scale.toNat = 0 by omega, Nat.pow_zero, Nat.div_one]
      calc 2 ^ (3 * (-scale).toNat + stepDepth)
        _ = 2 ^ (3 * (-scale).toNat) * 2 ^ stepDepth := Nat.pow_add ..
        _ ≤ digits * 10 ^ (-scale).toNat * 2 ^ stepDepth :=
          Nat.mul_le_mul_right _ (Nat.le_trans (powers _)
            (Nat.le_mul_of_pos_left _ (Nat.pos_of_ne_zero nonzero)))
    next notLarge =>
      split
      next small =>
        refine (nearest_eq_zero ?_).symm
        rw [show (-scale).toNat = 0 by omega, Nat.pow_zero, Nat.mul_one]
        calc 2 * (digits * 2 ^ stepDepth)
          _ < 2 * (2 ^ (digits.log2 + 1) * 2 ^ stepDepth) := by
            refine Nat.mul_lt_mul_of_pos_left ?_ (by decide)
            exact Nat.mul_lt_mul_of_pos_right Nat.lt_log2_self (Nat.two_pow_pos _)
          _ = 2 ^ (digits.log2 + 2 + stepDepth) := by
            rw [← Nat.pow_add, ← Nat.pow_succ']
            exact congrArg (2 ^ ·) (by omega)
          _ ≤ 2 ^ (3 * scale.toNat) := Nat.pow_le_pow_right (by decide) (by omega)
          _ ≤ 10 ^ scale.toNat := powers _
      next => rfl

theorem magnitude_le_infinity (decimal : Decimal) : decimal.magnitude ≤ infinity := by
  rw [show decimal = ⟨decimal.digits, decimal.scale⟩ from rfl, magnitude_eq_nearest]
  exact Nat.min_le_right _ _

theorem magnitude_eq_zero_iff {digits places : Nat} :
    magnitude ⟨digits, places⟩ = 0 ↔ 2 * (digits * 2 ^ stepDepth) ≤ 10 ^ places := by
  rw [magnitude_eq_nearest, show (-(places : Int)).toNat = 0 by omega, Int.toNat_natCast,
    Nat.pow_zero, Nat.mul_one, nearest_eq_zero_iff (Nat.pow_pos (by decide))]

theorem magnitude_eq_zero_of_le {digits places larger largerPlaces : Nat}
    (le : digits * 10 ^ largerPlaces ≤ larger * 10 ^ places)
    (zero : magnitude ⟨larger, largerPlaces⟩ = 0) : magnitude ⟨digits, places⟩ = 0 := by
  have positive : 0 < 10 ^ largerPlaces := Nat.pow_pos (by decide)
  rw [magnitude_eq_zero_iff] at zero ⊢
  refine Nat.le_of_mul_le_mul_right ?_ positive
  generalize 2 ^ stepDepth = unit at zero ⊢
  calc 2 * (digits * unit) * 10 ^ largerPlaces
    _ = 2 * unit * (digits * 10 ^ largerPlaces) := by ac_rfl
    _ ≤ 2 * unit * (larger * 10 ^ places) := Nat.mul_le_mul_left _ le
    _ = 2 * (larger * unit) * 10 ^ places := by ac_rfl
    _ ≤ 10 ^ largerPlaces * 10 ^ places := Nat.mul_le_mul_right _ zero
    _ = 10 ^ places * 10 ^ largerPlaces := Nat.mul_comm _ _

/-! ## The exact expansion -/

def ofSteps (steps : Nat) : Decimal := ⟨steps * 5 ^ stepDepth, stepDepth⟩

theorem magnitude_ofSteps {magnitude : Nat} (finite : magnitude < infinity) :
    (ofSteps (steps magnitude)).magnitude = magnitude := by
  rw [ofSteps, magnitude_eq_nearest]
  apply nearest_of_steps finite (Nat.pow_pos (by decide))
  rw [show (-(stepDepth : Int)).toNat = 0 from rfl, Int.toNat_natCast, Nat.pow_zero,
    Nat.mul_one, Nat.mul_assoc, ← Nat.mul_pow]

/-! ## Grids

A grid holds the multiples of one power of ten. All grids are counted in units of
`1 / 10 ^ gridDepth`, the place of the seventeenth digit of one step. -/

def gridDepth : Nat := 340

def gridUnits (magnitude : Nat) : Nat := steps magnitude * 10 ^ gridDepth / 2 ^ stepDepth

def withoutFinalZeros : (digits places : Nat) → Decimal
  | digits, 0 => ⟨digits, 0⟩
  | digits, places + 1 =>
    if digits % 10 = 0 then withoutFinalZeros (digits / 10) places
    else ⟨digits, (places + 1 : Nat)⟩

def gridPoint (count place : Nat) : Decimal :=
  if gridDepth ≤ place then ⟨count * 10 ^ (place - gridDepth), 0⟩
  else withoutFinalZeros count (gridDepth - place)

/-- Of the two neighbours of a magnitude on a grid, the one that reads back as this magnitude:
the nearer one if both do, the upper one in a tie. -/
def onGrid? (magnitude place : Nat) : Option Decimal :=
  let count := gridUnits magnitude / 10 ^ place
  let below := gridPoint count place
  let above := gridPoint (count + 1) place
  if below.magnitude = magnitude then
    if above.magnitude = magnitude ∧
        (2 * count + 1) * 10 ^ place * 2 ^ stepDepth ≤ 2 * steps magnitude * 10 ^ gridDepth then
      some above
    else some below
  else if above.magnitude = magnitude then some above
  else none

theorem magnitude_of_onGrid? {magnitude place : Nat} {decimal : Decimal}
    (found : onGrid? magnitude place = some decimal) : decimal.magnitude = magnitude := by
  simp only [onGrid?] at found
  split at found
  · split at found <;> grind
  · split at found <;> grind

/-! ## The shortest decimal -/

/-- The number of decimal digits, found from the number of binary ones: `301 / 1000` is just
below the ratio of the two. It is exact on numbers of up to twenty thousand bits. -/
def digitCount (number : Nat) : Nat :=
  let certain := number.log2 * 301 / 1000 + 1
  if 10 ^ certain ≤ number then certain + 1 else certain

example : [0, 9, 10, 99, 100, 10 ^ 340 - 1, 10 ^ 340].map digitCount =
    [1, 1, 2, 2, 3, 340, 341] := by decide +kernel

/-- The decimal number with the fewest significant digits that reads back as this magnitude.
Seventeen digits suffice for every one; the exact expansion stands behind them. -/
def shortest (magnitude : Nat) : Decimal :=
  let length := digitCount (gridUnits magnitude)
  ((List.range 17).findSome? fun index => onGrid? magnitude (length - (index + 1))).getD
    (ofSteps (steps magnitude))

example : shortest 0x3FB999999999999A = ⟨1, 1⟩ := by decide +kernel
example : shortest 0x3FD3333333333334 = ⟨30000000000000004, 17⟩ := by decide +kernel
example : shortest 0x444B1AE4D6E2EF50 = ⟨1000000000000000000000, 0⟩ := by decide +kernel
example : shortest 0x3E60000000000000 = ⟨29802322387695313, 24⟩ := by decide +kernel
example : shortest 0 = ⟨0, 0⟩ ∧ shortest 1 = ⟨5, 324⟩ := by decide +kernel

theorem magnitude_shortest {magnitude : Nat} (finite : magnitude < infinity) :
    (shortest magnitude).magnitude = magnitude := by
  simp only [shortest]
  generalize search : List.findSome? _ _ = found
  cases found with
  | none => exact magnitude_ofSteps finite
  | some decimal =>
    obtain ⟨index, _, hit⟩ := List.exists_of_findSome?_eq_some search
    exact magnitude_of_onGrid? hit

theorem scale_withoutFinalZeros (digits places : Nat) :
    0 ≤ (withoutFinalZeros digits places).scale := by
  induction places generalizing digits with
  | zero => simp [withoutFinalZeros]
  | succ places induction =>
    rw [withoutFinalZeros]
    split
    · exact induction (digits / 10)
    · exact Int.natCast_nonneg _

theorem scale_gridPoint (count place : Nat) : 0 ≤ (gridPoint count place).scale := by
  rw [gridPoint]
  split
  · exact Int.le_refl 0
  · exact scale_withoutFinalZeros count (gridDepth - place)

theorem scale_of_onGrid? {magnitude place : Nat} {decimal : Decimal}
    (found : onGrid? magnitude place = some decimal) : 0 ≤ decimal.scale := by
  simp only [onGrid?] at found
  split at found
  · split at found <;> exact Option.some.inj found ▸ scale_gridPoint _ _
  · split at found
    · exact Option.some.inj found ▸ scale_gridPoint _ _
    · exact absurd found (by simp)

theorem scale_shortest (magnitude : Nat) : 0 ≤ (shortest magnitude).scale := by
  simp only [shortest]
  generalize search : List.findSome? _ _ = found
  cases found with
  | none =>
    rw [Option.getD_none, ofSteps]
    exact Int.natCast_nonneg _
  | some decimal =>
    obtain ⟨index, _, hit⟩ := List.exists_of_findSome?_eq_some search
    exact scale_of_onGrid? hit

end Decimal

end RpnCalculator
