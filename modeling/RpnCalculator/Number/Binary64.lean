import RpnCalculator.Number.Magnitude

/-! Binary64 numbers as a sign and a magnitude. -/

namespace RpnCalculator.Binary64

def ofMagnitude (magnitude : Nat) : Float := Float.ofBits (UInt64.ofNat magnitude)

/-- The number of magnitudes, and the place of the sign bit above them. -/
def signBit : Nat := 0x8000000000000000

def magnitude (value : Float) : Nat := value.toBits.toNat % signBit

def isNegative (value : Float) : Bool := signBit ≤ value.toBits.toNat

/-- The magnitude of what is no number. -/
def notANumber : Nat := 0x7FF8000000000000

example : isNegative (-0.0) = true ∧ magnitude (-0.0) = 0 := by decide +kernel
example : magnitude (1 / 0) = Magnitude.infinity ∧ magnitude (0 / 0) = notANumber := by
  decide +kernel

end RpnCalculator.Binary64
