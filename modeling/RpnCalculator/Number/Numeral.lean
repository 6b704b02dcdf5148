import RpnCalculator.Number.Binary64
import RpnCalculator.Number.Decimal

/-! The text of a number. A written numeral is positional, never with an exponent, and has the
fewest digits that read back. What is read is wider: an optional sign, then `inf`, `infinity` or
`nan` in any mixture of ASCII capitals, or ASCII digits around at most one point with an optional
exponent. Nothing may precede or follow. -/

namespace RpnCalculator

-- Powers of natural numbers are those of the core library, whatever else is in scope.
attribute [local instance(high)] instPowNat

/-! ## Decimal numbers -/

namespace Decimal

def written (decimal : Decimal) : List Char :=
  let number := Nat.toDigits 10 (decimal.digits * 10 ^ (-decimal.scale).toNat)
  List.replicate (decimal.scale.toNat + 1 - number.length) '0' ++ number

def whole (decimal : Decimal) : List Char :=
  decimal.written.take (decimal.written.length - decimal.scale.toNat)

def places (decimal : Decimal) : List Char :=
  decimal.written.drop (decimal.written.length - decimal.scale.toNat)

def text (decimal : Decimal) : List Char :=
  decimal.whole ++ if decimal.places.isEmpty then [] else '.' :: decimal.places

example : text ⟨7, 0⟩ = ['7'] ∧ text ⟨7, 2⟩ = ['0', '.', '0', '7'] ∧
    text ⟨752, 2⟩ = ['7', '.', '5', '2'] ∧ text ⟨7, -1⟩ = ['7', '0'] := by decide +kernel

end Decimal

namespace Numeral

def natural? (characters : List Char) : Option Nat :=
  if characters.isEmpty then none
  else if characters.all Char.isDigit then some (Nat.ofDigitChars 10 characters 0)
  else none

def integer? : List Char → Option Int
  | '+' :: digits => (natural? digits).map Int.ofNat
  | '-' :: digits => (natural? digits).map fun number => -Int.ofNat number
  | digits => (natural? digits).map Int.ofNat

/-- What may follow the digits of a decimal number: nothing, or an exponent. -/
def exponent? : List Char → Option Int
  | [] => some 0
  | mark :: rest => if mark = 'e' ∨ mark = 'E' then integer? rest else none

def fraction : List Char → List Char × List Char
  | '.' :: rest => (rest.takeWhile Char.isDigit, rest.dropWhile Char.isDigit)
  | rest => ([], rest)

def decimal? (characters : List Char) : Option Decimal :=
  let whole := characters.takeWhile Char.isDigit
  let (places, ending) := fraction (characters.dropWhile Char.isDigit)
  let digits := whole ++ places
  if digits.isEmpty then none
  else (exponent? ending).map fun exponent =>
    ⟨Nat.ofDigitChars 10 digits 0, places.length - exponent⟩

def magnitude? (characters : List Char) : Option Nat :=
  let word := String.ofList (characters.map Char.toLower)
  if word = "inf" ∨ word = "infinity" then some Magnitude.infinity
  else if word = "nan" then some Binary64.notANumber
  else (decimal? characters).map Decimal.magnitude

def unsigned? (characters : List Char) : Option Float :=
  (magnitude? characters).map Binary64.ofMagnitude

/-- The number that a text stands for, if the whole of it is a numeral. A minus sign negates
what the rest stands for. -/
def read? (text : String) : Option Float :=
  match text.toList with
  | '-' :: characters => (unsigned? characters).map (- ·)
  | '+' :: characters => unsigned? characters
  | characters => unsigned? characters

def ofMagnitude (magnitude : Nat) : List Char :=
  if magnitude = Magnitude.infinity then ['i', 'n', 'f']
  else (Decimal.shortest magnitude).text

def write (value : Float) : String :=
  let magnitude := Binary64.magnitude value
  if Magnitude.infinity < magnitude then "NaN"
  else if Binary64.isNegative value then String.ofList ('-' :: ofMagnitude magnitude)
  else String.ofList (ofMagnitude magnitude)

end Numeral

end RpnCalculator
