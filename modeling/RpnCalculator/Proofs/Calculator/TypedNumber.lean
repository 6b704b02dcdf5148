import RpnCalculator.Number.Numeral.Lemmas
import RpnCalculator.Text.Blank
import RpnCalculator.Text.Search

/-! Numbers as they are typed. A typed number may end in a point, and it may have more zeros than it
needs, so that one value can be typed in many ways. Every typed number can be read. -/

namespace RpnCalculator

structure Digit where
  character : Char
  isDigit : character.isDigit = true

/-- A number as it is typed: perhaps a minus sign, one or more digits, and perhaps a point with
any number of digits behind it. -/
structure TypedNumber where
  negative : Bool
  whole : List Digit
  places? : Option (List Digit)
  whole_ne_nil : whole ≠ []

namespace TypedNumber

/-! ## Text and value -/

def places (number : TypedNumber) : List Digit := number.places?.getD []

def unsigned (number : TypedNumber) : List Char :=
  number.whole.map Digit.character ++
    match number.places? with
    | none => []
    | some places => '.' :: places.map Digit.character

def sign (number : TypedNumber) : List Char := if number.negative then ['-'] else []

def characters (number : TypedNumber) : List Char := number.sign ++ number.unsigned

def text (number : TypedNumber) : String := String.ofList number.characters

def decimal (number : TypedNumber) : Decimal :=
  ⟨Nat.ofDigitChars 10 ((number.whole ++ number.places).map Digit.character) 0, number.places.length⟩

def value (number : TypedNumber) : Float :=
  let magnitude := Binary64.ofMagnitude number.decimal.magnitude
  if number.negative then -magnitude else magnitude

end TypedNumber

def IsTyped (text : String) : Prop := ∃ number : TypedNumber, text = number.text

namespace TypedNumber

theorem isDigit_of_mem_digits {digits : List Digit} :
    ∀ character ∈ digits.map Digit.character, character.isDigit = true := by
  intro character member
  rcases List.mem_map.mp member with ⟨digit, _, rfl⟩
  exact digit.isDigit

variable (number : TypedNumber)

theorem characters_of_negative (negative : number.negative = true) :
    number.characters = '-' :: number.unsigned := by
  rw [characters, sign, if_pos negative, List.singleton_append]

theorem characters_of_positive (positive : number.negative = false) :
    number.characters = number.unsigned := by
  rw [characters, sign, if_neg (Bool.eq_false_iff.mp positive), List.nil_append]

theorem unsigned_eq_cons : ∃ digit rest, number.unsigned = digit :: rest ∧ digit.isDigit = true := by
  cases whole : number.whole with
  | nil => exact absurd whole number.whole_ne_nil
  | cons digit rest =>
      exact ⟨digit.character, _, by rw [unsigned, whole]; rfl, digit.isDigit⟩

theorem mem_unsigned {character : Char} (member : character ∈ number.unsigned) :
    character.isDigit = true ∨ character = '.' := by
  rcases List.mem_append.mp member with whole | behind
  · exact .inl (isDigit_of_mem_digits character whole)
  · split at behind
    · exact nomatch behind
    · rcases List.mem_cons.mp behind with point | places
      · exact .inr point
      · exact .inl (isDigit_of_mem_digits character places)

theorem decimal?_unsigned : Numeral.decimal? number.unsigned = some number.decimal := by
  have nonempty : number.whole.map Digit.character ≠ [] :=
    fun empty => number.whole_ne_nil (List.map_eq_nil_iff.mp empty)
  rw [unsigned, decimal, places]
  cases number.places? with
  | none =>
      rw [List.append_nil, Numeral.decimal?_whole nonempty isDigit_of_mem_digits]
      simp
  | some places =>
      rw [Numeral.decimal?_point nonempty isDigit_of_mem_digits isDigit_of_mem_digits]
      simp

theorem unsigned?_unsigned :
    Numeral.unsigned? number.unsigned = some (Binary64.ofMagnitude number.decimal.magnitude) := by
  rcases number.unsigned_eq_cons with ⟨digit, rest, unsigned, isDigit⟩
  rw [Numeral.unsigned?, unsigned, Numeral.magnitude?_of_isDigit isDigit, ← unsigned,
    decimal?_unsigned]
  rfl

theorem read?_text : Numeral.read? number.text = some number.value := by
  rw [text, value]
  cases negative : number.negative with
  | true =>
      rw [number.characters_of_negative negative, Numeral.read?_minus, unsigned?_unsigned]
      rfl
  | false =>
      rcases number.unsigned_eq_cons with ⟨digit, rest, unsigned, isDigit⟩
      have notSign : ∀ sign : Char, sign.isDigit = false → digit ≠ sign := by
        rintro sign notDigit rfl
        exact absurd (isDigit.symm.trans notDigit) (by decide)
      rw [number.characters_of_positive negative, unsigned,
        Numeral.read?_unsigned (notSign '-' rfl) (notSign '+' rfl), ← unsigned,
        unsigned?_unsigned]
      rfl

theorem sign_eq : number.sign = [] ∨ number.sign = ['-'] := by
  rw [sign]
  split
  · exact .inr rfl
  · exact .inl rfl

theorem mem_sign {character : Char} (member : character ∈ number.sign) : character = '-' := by
  rcases number.sign_eq with unsigned | minus
  · rw [unsigned] at member
    exact nomatch member
  · rw [minus] at member
    exact List.mem_singleton.mp member

theorem characters_ne_sign : ¬(number.characters = [] ∨ number.characters = ['-']) := by
  rcases number.unsigned_eq_cons with ⟨digit, rest, unsigned, isDigit⟩
  have member : digit ∈ number.characters := by
    rw [characters, unsigned]
    exact List.mem_append_right _ List.mem_cons_self
  rintro (empty | minus)
  · exact List.ne_nil_of_mem member empty
  · rw [minus] at member
    rw [List.mem_singleton.mp member] at isDigit
    exact absurd isDigit (by decide)

theorem trim_text : Text.trim number.text = number.text := by
  apply Text.trim_eq_self
  intro character member
  rw [text, String.toList_ofList, characters, List.mem_append] at member
  rcases member.imp number.mem_sign number.mem_unsigned with rfl | digit | rfl
  · decide
  · exact Text.isBlank_eq_false_of_isDigit digit
  · decide

theorem magnitude_value : Binary64.magnitude number.value = number.decimal.magnitude := by
  have bound := number.decimal.magnitude_le_infinity
  simp only [value]
  split
  · exact Binary64.magnitude_neg_ofMagnitude bound
  · exact Binary64.magnitude_ofMagnitude bound

theorem value_beq_zero_iff : (number.value == 0) = true ↔ number.decimal.magnitude = 0 := by
  rw [Binary64.beq_zero_iff, magnitude_value]

/-! ## Editing -/

def ofDigit (digit : Digit) : TypedNumber := ⟨false, [digit], none, List.cons_ne_nil digit []⟩

def zeroPoint : TypedNumber := ⟨false, [⟨'0', rfl⟩], some [], List.cons_ne_nil _ _⟩

def withDigit (number : TypedNumber) (digit : Digit) : TypedNumber :=
  match number.places? with
  | none =>
    { number with
      whole := number.whole ++ [digit]
      whole_ne_nil := List.append_ne_nil_of_right_ne_nil _ (List.cons_ne_nil digit []) }
  | some places => { number with places? := some (places ++ [digit]) }

def withPoint (number : TypedNumber) : TypedNumber := { number with places? := some number.places }

def negated (number : TypedNumber) : TypedNumber := { number with negative := !number.negative }

/-- The number with its sign changed. A zero gets no minus sign, but one that it has is taken
away. -/
def toggled (number : TypedNumber) : TypedNumber :=
  if number.negative = false ∧ number.value == 0 then number else number.negated

/-- The number without its last digit, or without its point if it ends in one. A single digit
cannot be taken away. -/
def withoutLast? (number : TypedNumber) : Option TypedNumber :=
  match number.places? with
  | some [] => some { number with places? := none }
  | some places => some { number with places? := some places.dropLast }
  | none =>
    if single : number.whole.dropLast = [] then none
    else some { number with whole := number.whole.dropLast, whole_ne_nil := single }

theorem characters_withDigit (digit : Digit) :
    (number.withDigit digit).characters = number.characters ++ [digit.character] := by
  rcases number with ⟨negative, whole, places?, nonempty⟩
  cases places? <;> simp [characters, unsigned, withDigit] <;> rfl

theorem point_mem_characters :
    '.' ∈ number.characters ↔ number.places?.isSome = true := by
  have notDigit : ∀ digits : List Digit, '.' ∉ digits.map Digit.character :=
    fun digits member => absurd (isDigit_of_mem_digits '.' member) (by decide)
  have notSign : '.' ∉ number.sign := fun member => absurd (number.mem_sign member) (by decide)
  rw [characters, unsigned, List.mem_append, List.mem_append, or_iff_right notSign,
    or_iff_right (notDigit number.whole)]
  cases number.places? <;> simp

theorem contains_point : Text.contains number.text "." = number.places?.isSome := by
  have point : ".".toList = ['.'] := rfl
  rw [Bool.eq_iff_iff, ← number.point_mem_characters, Text.contains, point, Text.occurs_iff,
    List.singleton_infix_iff, text, String.toList_ofList]

theorem characters_withPoint :
    number.withPoint.characters =
      if number.places?.isSome then number.characters else number.characters ++ ['.'] := by
  rcases number with ⟨negative, whole, places?, nonempty⟩
  cases places? with
  | none => simp [characters, unsigned, withPoint, places]; rfl
  | some places => rfl

theorem text_negated_of_negative (negative : number.negative = true) :
    number.negated.text = String.ofList number.unsigned := by
  have positive : number.negated.negative = false := by simp [negated, negative]
  rw [text, number.negated.characters_of_positive positive]
  rfl

theorem text_negated_of_positive (positive : number.negative = false) :
    number.negated.text = String.ofList ('-' :: number.unsigned) := by
  have negative : number.negated.negative = true := by simp [negated, positive]
  rw [text, number.negated.characters_of_negative negative]
  rfl

theorem dropLast_unsigned :
    number.unsigned.dropLast = number.withoutLast?.elim [] unsigned := by
  rcases number with ⟨negative, whole, places?, nonempty⟩
  match places? with
  | none =>
      by_cases single : whole.dropLast = []
      · simp [unsigned, withoutLast?, single, ← List.map_dropLast]
      · simp [unsigned, withoutLast?, single, ← List.map_dropLast]
  | some [] => simp [unsigned, withoutLast?]
  | some (first :: more) =>
      -- With a digit behind the point the last character is one of the places.
      have places : ('.' :: (first :: more).map Digit.character).dropLast =
          '.' :: (first :: more).dropLast.map Digit.character := by
        rw [List.dropLast_cons_of_ne_nil (by simp), List.map_dropLast]
      rw [unsigned, List.dropLast_append_of_ne_nil (List.cons_ne_nil _ _), places]
      rfl

theorem sign_of_withoutLast? {shorter : TypedNumber} (erased : number.withoutLast? = some shorter) :
    shorter.sign = number.sign := by
  rcases number with ⟨negative, whole, places?, nonempty⟩
  match places? with
  | none =>
      simp only [withoutLast?] at erased
      split at erased
      · exact nomatch erased
      · cases erased
        rfl
  | some [] => cases erased; rfl
  | some (first :: more) => cases erased; rfl

theorem dropLast_characters :
    number.characters.dropLast = number.withoutLast?.elim number.sign characters := by
  rcases number.unsigned_eq_cons with ⟨digit, rest, nonempty, _⟩
  rw [characters, List.dropLast_append_of_ne_nil (nonempty ▸ List.cons_ne_nil digit rest),
    dropLast_unsigned]
  cases erased : number.withoutLast? with
  | none => exact List.append_nil _
  | some shorter => rw [← number.sign_of_withoutLast? erased]; rfl

end TypedNumber

end RpnCalculator
