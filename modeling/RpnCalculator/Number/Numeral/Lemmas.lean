import RpnCalculator.Number.Binary64.Lemmas
import RpnCalculator.Number.Numeral

/-! What is written reads back. -/

namespace RpnCalculator

/-! ## Decimal numbers -/

namespace Decimal

theorem isDigit_of_mem_written {decimal : Decimal} {character : Char}
    (member : character ∈ decimal.written) : character.isDigit = true := by
  rcases List.mem_append.mp member with zero | digit
  · rw [(List.mem_replicate.mp zero).2]
    rfl
  · exact Nat.isDigit_of_mem_toDigits (by decide) (by decide) digit

theorem length_written (decimal : Decimal) :
    decimal.scale.toNat < decimal.written.length := by
  simp only [written, List.length_append, List.length_replicate]
  omega

theorem whole_append_places (decimal : Decimal) :
    decimal.whole ++ decimal.places = decimal.written :=
  List.take_append_drop _ _

theorem whole_ne_nil (decimal : Decimal) : decimal.whole ≠ [] := by
  have := decimal.length_written
  simp only [whole, ne_eq, List.take_eq_nil_iff, not_or]
  exact ⟨by omega, List.ne_nil_of_length_pos (by omega)⟩

theorem length_places (decimal : Decimal) : decimal.places.length = decimal.scale.toNat := by
  have := decimal.length_written
  rw [places, List.length_drop]
  omega

theorem isDigit_of_mem_whole {decimal : Decimal} {character : Char}
    (member : character ∈ decimal.whole) : character.isDigit = true :=
  isDigit_of_mem_written (List.mem_of_mem_take member)

theorem isDigit_of_mem_places {decimal : Decimal} {character : Char}
    (member : character ∈ decimal.places) : character.isDigit = true :=
  isDigit_of_mem_written (List.mem_of_mem_drop member)

theorem ofDigitChars_written (decimal : Decimal) :
    Nat.ofDigitChars 10 decimal.written 0 = decimal.digits * 10 ^ (-decimal.scale).toNat := by
  simp [written, Nat.ofDigitChars_append, Nat.ofDigitChars_ten_toDigits]

theorem isDigit_or_of_mem_text {decimal : Decimal} {character : Char}
    (member : character ∈ decimal.text) : character.isDigit = true ∨ character = '.' := by
  rcases List.mem_append.mp member with whole | behind
  · exact .inl (isDigit_of_mem_whole whole)
  · split at behind
    · exact nomatch behind
    · rcases List.mem_cons.mp behind with point | places
      · exact .inr point
      · exact .inl (isDigit_of_mem_places places)

theorem text_eq_cons (decimal : Decimal) :
    ∃ digit rest, decimal.text = digit :: rest ∧ digit.isDigit = true := by
  cases whole : decimal.whole with
  | nil => exact absurd whole decimal.whole_ne_nil
  | cons digit rest =>
    have member : digit ∈ decimal.whole := whole ▸ List.mem_cons_self
    exact ⟨digit, _, by rw [text, whole]; rfl, isDigit_of_mem_whole member⟩

end Decimal

namespace Numeral

private theorem takeWhile_all {characters : List Char}
    (digits : ∀ character ∈ characters, character.isDigit = true) :
    characters.takeWhile Char.isDigit = characters := by
  have split := @List.takeWhile_append_of_pos _ Char.isDigit characters [] digits
  simpa using split

private theorem dropWhile_all {characters : List Char}
    (digits : ∀ character ∈ characters, character.isDigit = true) :
    characters.dropWhile Char.isDigit = [] := by
  have split := @List.dropWhile_append_of_pos _ Char.isDigit characters [] digits
  simpa using split

theorem decimal?_whole {whole : List Char} (nonempty : whole ≠ [])
    (digits : ∀ character ∈ whole, character.isDigit = true) :
    decimal? whole = some ⟨Nat.ofDigitChars 10 whole 0, 0⟩ := by
  simp [decimal?, takeWhile_all digits, dropWhile_all digits, fraction, nonempty, exponent?]

theorem decimal?_point {whole places : List Char} (nonempty : whole ≠ [])
    (wholeDigits : ∀ character ∈ whole, character.isDigit = true)
    (placesDigits : ∀ character ∈ places, character.isDigit = true) :
    decimal? (whole ++ '.' :: places) =
      some ⟨Nat.ofDigitChars 10 (whole ++ places) 0, places.length⟩ := by
  have before : (whole ++ '.' :: places).takeWhile Char.isDigit = whole := by
    rw [List.takeWhile_append_of_pos wholeDigits, List.takeWhile_cons_of_neg (by decide),
      List.append_nil]
  have behind : (whole ++ '.' :: places).dropWhile Char.isDigit = '.' :: places := by
    rw [List.dropWhile_append_of_pos wholeDigits, List.dropWhile_cons_of_neg (by decide)]
  simp [decimal?, before, behind, fraction, takeWhile_all placesDigits,
    dropWhile_all placesDigits, nonempty, exponent?]

theorem decimal?_text {decimal : Decimal} (scale : 0 ≤ decimal.scale) :
    decimal? decimal.text = some decimal := by
  have number : Nat.ofDigitChars 10 (decimal.whole ++ decimal.places) 0 = decimal.digits := by
    rw [decimal.whole_append_places, decimal.ofDigitChars_written,
      show (-decimal.scale).toNat = 0 by omega, Nat.pow_zero, Nat.mul_one]
  have depth : (decimal.places.length : Int) = decimal.scale := by
    rw [decimal.length_places, Int.toNat_of_nonneg scale]
  have wholeDigits : ∀ character ∈ decimal.whole, character.isDigit = true :=
    fun _ => Decimal.isDigit_of_mem_whole
  rw [Decimal.text]
  split
  next empty =>
    rw [List.isEmpty_iff.mp empty] at number depth
    rw [List.append_nil] at number ⊢
    have integral : (0 : Int) = decimal.scale := depth
    rw [decimal?_whole decimal.whole_ne_nil wholeDigits, number, integral]
  next =>
    rw [decimal?_point decimal.whole_ne_nil wholeDigits fun _ => Decimal.isDigit_of_mem_places,
      number, depth]

/-! ## Magnitudes -/

private theorem toLower_of_isDigit {character : Char} (digit : character.isDigit = true) :
    character.toLower = character := by
  have bounds : 48 ≤ character.val ∧ character.val ≤ 57 := by simpa [Char.isDigit] using digit
  rw [Char.toLower, dif_neg]
  rintro ⟨least, _⟩
  exact absurd (UInt32.le_trans least bounds.2) (by decide)

theorem magnitude?_of_isDigit {digit : Char} {rest : List Char}
    (isDigit : digit.isDigit = true) :
    magnitude? (digit :: rest) = (decimal? (digit :: rest)).map Decimal.magnitude := by
  have different : ∀ (letter : Char) (letters : List Char), letter.isDigit = false →
      String.ofList ((digit :: rest).map Char.toLower) ≠ String.ofList (letter :: letters) := by
    intro letter letters notDigit equal
    have heads := (List.cons.inj (String.ofList_injective equal)).1
    rw [toLower_of_isDigit isDigit] at heads
    rw [heads, notDigit] at isDigit
    exact absurd isDigit (by decide)
  rw [magnitude?, if_neg (not_or.mpr ⟨different 'i' _ rfl, different 'i' _ rfl⟩),
    if_neg (different 'n' _ rfl)]

theorem magnitude?_ofMagnitude {magnitude : Nat} (bound : magnitude ≤ Magnitude.infinity) :
    magnitude? (ofMagnitude magnitude) = some magnitude := by
  rw [ofMagnitude]
  split
  next equal =>
    subst equal
    rfl
  next different =>
    obtain ⟨digit, rest, text, isDigit⟩ := (Decimal.shortest magnitude).text_eq_cons
    rw [text, magnitude?_of_isDigit isDigit, ← text,
      decimal?_text (Decimal.scale_shortest magnitude), Option.map_some,
      Decimal.magnitude_shortest (by omega)]

theorem ofMagnitude_eq_cons (magnitude : Nat) :
    ∃ first rest, ofMagnitude magnitude = first :: rest ∧ first ≠ '-' ∧ first ≠ '+' := by
  rw [ofMagnitude]
  split
  · exact ⟨'i', ['n', 'f'], rfl, by decide, by decide⟩
  · obtain ⟨digit, rest, text, isDigit⟩ := (Decimal.shortest magnitude).text_eq_cons
    refine ⟨digit, rest, text, ?_, ?_⟩ <;> rintro rfl <;> exact absurd isDigit (by decide)

/-! ## Numbers -/

theorem read?_unsigned {first : Char} {rest : List Char} (notMinus : first ≠ '-')
    (notPlus : first ≠ '+') :
    read? (String.ofList (first :: rest)) = unsigned? (first :: rest) := by
  rw [read?, String.toList_ofList]
  split <;> simp_all

theorem read?_minus (characters : List Char) :
    read? (String.ofList ('-' :: characters)) = (unsigned? characters).map (- ·) := by
  simp only [read?, String.toList_ofList]

/-- Every number is read back from its text, bit for bit. -/
theorem read?_write (value : Float) : read? (write value) = some value := by
  simp only [write]
  split
  next beyond =>
    rw [Binary64.eq_notANumber beyond]
    decide +kernel
  next bound =>
    have unsigned : unsigned? (ofMagnitude (Binary64.magnitude value)) =
        some (Binary64.ofMagnitude (Binary64.magnitude value)) := by
      rw [unsigned?, magnitude?_ofMagnitude (by omega), Option.map_some]
    split
    next negative =>
      rw [read?_minus, unsigned, Option.map_some, Binary64.neg_ofMagnitude_magnitude negative]
    next positive =>
      obtain ⟨first, rest, text, notMinus, notPlus⟩ :=
        ofMagnitude_eq_cons (Binary64.magnitude value)
      rw [text] at unsigned ⊢
      rw [read?_unsigned notMinus notPlus, unsigned,
        Binary64.ofMagnitude_magnitude (by simpa using positive)]

theorem write_ne_empty (value : Float) : write value ≠ "" := by
  intro empty
  have read := read?_write value
  rw [empty] at read
  exact nomatch read

end Numeral

end RpnCalculator
