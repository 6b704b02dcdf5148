import RpnCalculator.Proofs.Calculator.Typing

/-! The sign key leaves a typed zero as it is, and no digit or point makes a zero of another number.
But a backspace can: it takes the last digit away, whatever the sign, and a negative number may have
no other digit than zeros before it. -/

namespace RpnCalculator

namespace TypedNumber

variable (number : TypedNumber)

def IsSignedZero (number : TypedNumber) : Prop :=
  number.negative = true ∧ (number.value == 0) = true

theorem toggled_not_isSignedZero : ¬number.toggled.IsSignedZero := by
  rintro ⟨negative, zero⟩
  by_cases kept : number.negative = false ∧ (number.value == 0) = true
  · rw [toggled, if_pos kept, kept.1] at negative
    exact Bool.false_ne_true negative
  · rw [toggled, if_neg kept] at negative zero
    have positive : number.negative = false := by simpa [negated] using negative
    exact kept ⟨positive, number.value_beq_zero_iff.mpr (number.negated.value_beq_zero_iff.mp zero)⟩

theorem ofDigitChars_concat_digit (digits : List Digit) (digit : Digit) :
    Nat.ofDigitChars 10 ((digits ++ [digit]).map Digit.character) 0 =
      10 * Nat.ofDigitChars 10 (digits.map Digit.character) 0 +
        (digit.character.toNat - '0'.toNat) := by
  rw [List.map_append, Nat.ofDigitChars_append]
  rfl

theorem isSignedZero_of_withDigit {digit : Digit}
    (zero : (number.withDigit digit).IsSignedZero) : number.IsSignedZero := by
  rcases zero with ⟨negative, zero⟩
  rw [value_beq_zero_iff] at zero
  refine ⟨?_, number.value_beq_zero_iff.mpr ?_⟩
  · rcases number with ⟨sign, whole, none | places, nonempty⟩ <;> exact negative
  · rcases number with ⟨sign, whole, none | places, nonempty⟩
    · refine Decimal.magnitude_eq_zero_of_le (Nat.mul_le_mul_right _ ?_) zero
      simp only [places, withDigit, Option.getD_none, List.append_nil, ofDigitChars_concat_digit]
      omega
    · refine Decimal.magnitude_eq_zero_of_le ?_ zero
      simp only [TypedNumber.places, withDigit, Option.getD_some, ← List.append_assoc,
        ofDigitChars_concat_digit, List.length_append, List.length_singleton]
      rw [Nat.pow_succ, ← Nat.mul_assoc, Nat.mul_right_comm]
      exact Nat.mul_le_mul_right _ (by omega)

end TypedNumber

namespace Calculator

variable {calculator : Calculator} {number : TypedNumber}

/-! ## Negative numbers on the display -/

def TypesNegative (calculator : Calculator) (zero : Bool) : Prop :=
  calculator.typing = true ∧ calculator.display.toList.head? = some '-' ∧
    ∃ value, calculator.displayed? = some value ∧ (value == 0) = zero

theorem typesNegative_iff (typing : calculator.typing = true)
    (typed : calculator.display = number.text) (zero : Bool) :
    calculator.TypesNegative zero ↔ number.negative = true ∧ (number.value == 0) = zero := by
  have sign : calculator.display.toList.head? = some '-' ↔ number.negative = true := by
    rw [typed, TypedNumber.text, String.toList_ofList]
    cases negative : number.negative with
    | true => simp [number.characters_of_negative negative]
    | false =>
        rcases number.unsigned_eq_cons with ⟨digit, rest, unsigned, isDigit⟩
        rw [number.characters_of_positive negative, unsigned]
        refine iff_of_false (fun minus => ?_) Bool.false_ne_true
        rw [Option.some.inj minus] at isDigit
        exact absurd isDigit (by decide)
  rw [TypesNegative, sign, displayed?_of_typed typed]
  simp [typing]

theorem typesNegative_display (typing : calculator.typing = true) (edited : TypedNumber)
    (zero : Bool) :
    { calculator with display := edited.text }.TypesNegative zero ↔
      edited.negative = true ∧ (edited.value == 0) = zero :=
  @typesNegative_iff { calculator with display := edited.text } edited typing rfl zero

theorem not_typesNegative_of_idle (idle : calculator.typing = false) (zero : Bool) :
    ¬calculator.TypesNegative zero :=
  fun types => Bool.false_ne_true (idle.symm.trans types.1)

/-! ## One key -/

theorem eraseLast_typesNegative (typing : calculator.typing = true)
    (typed : calculator.display = number.text)
    (signed : calculator.eraseLast.TypesNegative true) :
    number.negative = true := by
  rw [eraseLast_of_typed typed] at signed
  cases erased : number.withoutLast? with
  | none =>
      rw [erased] at signed
      exact absurd signed (not_typesNegative_of_idle rfl true)
  | some shorter =>
      rw [erased] at signed
      have negative := ((typesNegative_display typing shorter true).mp signed).1
      have sign := number.sign_of_withoutLast? erased
      rw [TypedNumber.sign, TypedNumber.sign, if_pos negative] at sign
      by_contra positive
      rw [if_neg positive] at sign
      exact absurd sign (List.cons_ne_nil _ _)

theorem typesNegative_of_press (shows : calculator.ShowsTyped) {action : Action}
    (key : action.isKey = true) (signed : (calculator.press action).TypesNegative true) :
    calculator.TypesNegative true ∨ action = .backspace ∧ calculator.TypesNegative false := by
  by_cases answers : calculator.Answers action
  · rw [press_eq_issue answers] at signed
    exact absurd signed (not_typesNegative_of_idle rfl true)
  cases action with
  | digit text =>
      rcases Action.exists_digit_of_isKey key with ⟨digit, rfl⟩
      rw [press] at signed
      by_cases typing : calculator.typing = true
      · rcases shows typing with ⟨number, typed⟩
        rw [typeDigit_of_typed typing typed, typesNegative_display typing] at signed
        exact .inl ((typesNegative_iff typing typed true).mpr
          (number.isSignedZero_of_withDigit signed))
      · rw [typeDigit, if_neg typing] at signed
        have fresh := (@typesNegative_iff _ (.ofDigit digit) rfl rfl true).mp signed
        exact absurd fresh.1 Bool.false_ne_true
  | point separator =>
      rw [eq_of_beq key, press] at signed
      by_cases typing : calculator.typing = true
      · rcases shows typing with ⟨number, typed⟩
        rw [typePoint_of_typed typing typed, typesNegative_display typing] at signed
        -- A point changes neither the sign nor the value.
        exact .inl ((typesNegative_iff typing typed true).mpr signed)
      · rw [typePoint, if_neg typing] at signed
        have fresh := (@typesNegative_iff _ .zeroPoint rfl rfl true).mp signed
        exact absurd fresh.1 Bool.false_ne_true
  | operation symbol =>
      have toggles := Classical.not_not.mp answers
      rcases shows toggles.1 with ⟨number, typed⟩
      rw [press_operation_of_toggles toggles, toggleSign_of_typed typed,
        typesNegative_display toggles.1] at signed
      exact absurd signed number.toggled_not_isSignedZero
  | backspace =>
      have typing : calculator.typing = true := Bool.not_eq_false _ |>.mp answers
      rcases shows typing with ⟨number, typed⟩
      rw [press_backspace_of_typing typing] at signed
      have negative := eraseLast_typesNegative typing typed signed
      cases zero : number.value == 0 with
      | true => exact .inl ((typesNegative_iff typing typed true).mpr ⟨negative, zero⟩)
      | false => exact .inr ⟨rfl, (typesNegative_iff typing typed false).mpr ⟨negative, zero⟩⟩
  | enter | storeMemory | restore =>
      rw [press_eq_self answers (by simp)] at signed
      exact .inl signed
  | save => exact .inl signed
  | clear => exact absurd signed (not_typesNegative_of_idle rfl true)
  | recallMemory => exact absurd trivial answers
  | display value => exact absurd key Bool.false_ne_true

/-! ## Runs of keys -/

/-- A zero gets a minus sign in one way only: a backspace takes the last digit away from a negative
number that was not zero. From then on it has kept its sign. -/
theorem signed_zero_of_pressAll {actions : List Action}
    (keyed : ∀ action ∈ actions, action.isKey = true)
    (signed : (new.pressAll actions).TypesNegative true) :
    ∃ earlier later, actions = earlier ++ .backspace :: later ∧
      (new.pressAll earlier).TypesNegative false ∧
      ∀ between, between <+: later →
        (new.pressAll (earlier ++ .backspace :: between)).TypesNegative true := by
  induction actions using List.reverseRecOn with
  | nil => exact absurd signed (not_typesNegative_of_idle rfl true)
  | append_singleton actions action induction =>
      have keyedBefore : ∀ action ∈ actions, action.isKey = true :=
        fun action member => keyed action (List.mem_append_left _ member)
      have start : new.ShowsTyped := showsTyped_of_idle rfl
      have last : new.pressAll (actions ++ [action]) = (new.pressAll actions).press action :=
        List.foldl_concat ..
      have before := typesNegative_of_press (start.pressAll keyedBefore)
        (keyed action (List.mem_append_right _ (List.mem_singleton_self _))) (last ▸ signed)
      rcases before with already | ⟨rfl, negative⟩
      · rcases induction keyedBefore already with ⟨earlier, later, split, negative, since⟩
        refine ⟨earlier, later ++ [action], by simp [split], negative, fun between part => ?_⟩
        rcases List.prefix_concat_iff.mp part with rfl | part
        · rwa [← List.cons_append, ← List.append_assoc, ← split]
        · exact since between part
      · refine ⟨actions, [], rfl, negative, fun between part => ?_⟩
        rwa [List.prefix_nil.mp part]

theorem signed_zero_of_pressAll_of_half :
    (new.pressAll [.point ".", .digit "5", .operation "±", .backspace, .backspace]).display = "-0" ∧
    ∃ earlier later,
      [.point ".", .digit "5", .operation "±", .backspace, .backspace] =
        earlier ++ Action.backspace :: later ∧
      (new.pressAll earlier).TypesNegative false := by
  have keyed : ∀ action ∈ [Action.point ".", .digit "5", .operation "±", .backspace, .backspace],
      action.isKey = true := by
    decide
  have signed : (new.pressAll
      [.point ".", .digit "5", .operation "±", .backspace, .backspace]).TypesNegative true :=
    ⟨by decide +kernel, by decide +kernel, -0.0, by decide +kernel, by decide +kernel⟩
  rcases signed_zero_of_pressAll keyed signed with ⟨earlier, later, split, negative, _⟩
  exact ⟨by decide +kernel, earlier, later, split, negative⟩

/-- Keys can leave a zero with a minus sign on the display, and a division by it gives a negative
infinity. -/
theorem negative_zero_of_backspace :
    (∀ action ∈ [Action.digit "0", .digit "5", .operation "±", .backspace], action.isKey = true) ∧
    (new.pressAll [.digit "0", .digit "5", .operation "±", .backspace]).TypesNegative true ∧
    (new.pressAll [.digit "0", .digit "5", .operation "±", .backspace]).display = "-0" ∧
    (new.pressAll [.digit "1", .enter, .digit "0", .digit "5", .operation "±", .backspace,
      .operation "÷"]).display = "-inf" := by
  refine ⟨by decide, ?_, by decide +kernel, by decide +kernel⟩
  exact ⟨by decide +kernel, by decide +kernel, -0.0, by decide +kernel, by decide +kernel⟩

end Calculator

end RpnCalculator
