import RpnCalculator.Proofs.Calculator.Screen
import RpnCalculator.Proofs.Calculator.Typing

/-! While a number is being typed the sign key edits the text of the number; otherwise it enters an
operation behind the program. For every number but zero the two come to the same result. -/

namespace RpnCalculator

namespace TypedNumber

variable (number : TypedNumber)

theorem negated_negated : number.negated.negated = number := by
  simp only [negated, Bool.not_not]

theorem value_of_negative (negative : number.negative = true) :
    number.value = -Binary64.ofMagnitude number.decimal.magnitude :=
  if_pos negative

theorem value_of_positive (positive : number.negative = false) :
    number.value = Binary64.ofMagnitude number.decimal.magnitude :=
  if_neg (Bool.eq_false_iff.mp positive)

theorem value_negated : number.negated.value = -number.value := by
  have decimal : number.negated.decimal = number.decimal := rfl
  have sign : number.negated.negative = !number.negative := rfl
  cases negative : number.negative with
  | true =>
      rw [number.negated.value_of_positive (by rw [sign, negative]; rfl), decimal,
        number.value_of_negative negative, Binary64.neg_neg]
  | false =>
      rw [number.negated.value_of_negative (by rw [sign, negative]; rfl), decimal,
        number.value_of_positive negative]

theorem value_beq_self : (number.value == number.value) = true :=
  Binary64.beq_self_iff.mpr (number.magnitude_value ▸ number.decimal.magnitude_le_infinity)

theorem toggled_of_nonzero (nonzero : (number.value == 0) = false) :
    number.toggled = number.negated := by
  rw [toggled, if_neg]
  simp [nonzero]

theorem toggled_toggled (nonzero : (number.value == 0) = false) :
    number.toggled.toggled = number := by
  have stillNonzero : (number.negated.value == 0) = false := by
    rw [Bool.eq_false_iff] at nonzero ⊢
    intro zero
    exact nonzero (number.value_beq_zero_iff.mpr (number.negated.value_beq_zero_iff.mp zero))
  rw [number.toggled_of_nonzero nonzero, number.negated.toggled_of_nonzero stillNonzero,
    negated_negated]

theorem value_toggled_beq : (number.toggled.value == -number.value) = true := by
  by_cases kept : number.negative = false ∧ (number.value == 0) = true
  · have zero : number.value = Binary64.ofMagnitude 0 := by
      rw [number.value_of_positive kept.1, number.value_beq_zero_iff.mp kept.2]
    rw [toggled, if_pos kept, zero]
    decide +kernel
  · rw [toggled, if_neg kept, ← value_negated]
    exact number.negated.value_beq_self

end TypedNumber

/-! ## Engine -/

namespace Engine

theorem evaluate_enter_operand (engine : Engine) (value : Float) :
    (engine.run [.pushOperand value]).evaluate = .ok value :=
  Program.evaluate_concat_leaf engine.bindings engine.program (.operand value)

theorem program_enter_negated (engine : Engine) (value : Float) :
    (engine.run [.pushOperand value, .perform "±"]).program =
      engine.program ++ [.leaf (.operand value), .unary Catalogue.negate] :=
  List.append_assoc _ _ _

theorem evaluate_enter_negated (engine : Engine) (value : Float) :
    (engine.run [.pushOperand value, .perform "±"]).evaluate = .ok (-value) := by
  have negated : (engine.run [.pushOperand value, .perform "±"]).evaluate =
      Program.evaluate (engine.program ++ [.leaf (.operand value)] ++ [.unary Catalogue.negate])
        engine.bindings := rfl
  rw [negated, Program.evaluate_concat_unary, Program.evaluate_concat_leaf]
  rfl

end Engine

namespace Calculator

variable {calculator : Calculator} {number : TypedNumber}

/-! ## Issued commands with the same result -/

theorem issue_eq_of_evaluate_eq {commands others : List Engine.Command}
    (results : (calculator.engine.run commands).evaluate = (calculator.engine.run others).evaluate)
    (bindings : (calculator.engine.run commands).bindings =
      (calculator.engine.run others).bindings) :
    calculator.issue commands = { calculator.issue others with
      engine := { (calculator.issue others).engine with
        program := (calculator.issue commands).engine.program }
      history := (calculator.issue commands).history } := by
  have result : (calculator.engine.run commands).result? = (calculator.engine.run others).result? :=
    congrArg Except.toOption results
  have message : (calculator.engine.run commands).message =
      (calculator.engine.run others).message := by
    rw [Engine.message, Engine.message, results]
  simp only [issue, showing, refreshed, result, message, ← bindings]

/-! ## The sign key and the key that enters -/

theorem press_sign_of_typed (typing : calculator.typing = true)
    (typed : calculator.display = number.text) :
    calculator.press (.operation "±") = { calculator with display := number.toggled.text } := by
  rw [press_operation_of_toggles ⟨typing, rfl⟩, toggleSign_of_typed typed]

theorem press_sign_press_enter (typing : calculator.typing = true)
    (typed : calculator.display = number.text) :
    (calculator.press (.operation "±")).press .enter =
      calculator.issue [.pushOperand number.toggled.value] := by
  rw [press_sign_of_typed typing typed,
    press_enter (@displayed?_of_typed { calculator with display := number.toggled.text } _ rfl)]
  rfl

theorem press_enter_press_sign (typed : calculator.display = number.text) :
    (calculator.press .enter).press (.operation "±") =
      calculator.issue [.pushOperand number.value, .perform "±"] := by
  have idle : ¬((calculator.issue [.pushOperand number.value]).typing = true ∧ "±" = "±") :=
    fun typing => Bool.false_ne_true typing.1
  rw [press_enter (displayed?_of_typed typed), press_operation idle, entering_issue,
    List.nil_append, issue_issue]
  rfl

/-- While a number is being typed, the sign key makes the opposite number of it and changes nothing
else. If the number is not zero, the key pressed once more gives the old text back, and it does not
matter for the result whether the key is pressed before the number is entered or afterwards: only
the programs differ, and with them their histories. -/
theorem sign_key_of_pressAll {actions : List Action}
    (keyed : ∀ action ∈ actions, action.isKey = true)
    (typing : (new.pressAll actions).typing = true) :
    let calculator := new.pressAll actions
    let toggled := calculator.press (.operation "±")
    ∃ value, calculator.displayed? = some value ∧
      (∃ opposite, toggled.displayed? = some opposite ∧ (opposite == -value) = true) ∧
      toggled = { calculator with display := toggled.display } ∧
      ((value == 0) = false →
        toggled.press (.operation "±") = calculator ∧
        let signFirst := toggled.press .enter
        let signLast := (calculator.press .enter).press (.operation "±")
        signFirst.display = signLast.display ∧ signFirst.message = signLast.message ∧
          signFirst.engine.evaluate = signLast.engine.evaluate ∧
        signFirst = { signLast with
          engine := { signLast.engine with program := signFirst.engine.program }
          history := signFirst.history } ∧
        signFirst.engine.program = calculator.engine.program ++ [.leaf (.operand (-value))] ∧
        signLast.engine.program =
          calculator.engine.program ++ [.leaf (.operand value), .unary Catalogue.negate]) := by
  intro calculator toggled
  have start : new.ShowsTyped := showsTyped_of_idle rfl
  rcases start.pressAll keyed typing with ⟨number, typed⟩
  have edited : toggled = { calculator with display := number.toggled.text } :=
    press_sign_of_typed typing typed
  have shown : toggled.display = number.toggled.text := by rw [edited]
  refine ⟨number.value, displayed?_of_typed typed,
    ⟨number.toggled.value, displayed?_of_typed shown, number.value_toggled_beq⟩, ?_, ?_⟩
  · rw [shown]
    exact edited
  intro nonzero
  have stillTyping : toggled.typing = true := by
    rw [edited]
    exact typing
  have twice : toggled.press (.operation "±") = calculator := by
    rw [press_sign_of_typed stillTyping shown, number.toggled_toggled nonzero, ← typed, edited]
  refine ⟨twice, ?_⟩
  intro signFirst signLast
  have first : signFirst = calculator.issue [.pushOperand (-number.value)] := by
    rw [← number.value_negated, ← number.toggled_of_nonzero nonzero]
    exact press_sign_press_enter typing typed
  have last : signLast = calculator.issue [.pushOperand number.value, .perform "±"] :=
    press_enter_press_sign typed
  have results : (calculator.engine.run [.pushOperand (-number.value)]).evaluate =
      (calculator.engine.run [.pushOperand number.value, .perform "±"]).evaluate := by
    rw [Engine.evaluate_enter_operand, Engine.evaluate_enter_negated]
  have same := issue_eq_of_evaluate_eq results rfl
  rw [← first, ← last] at same
  refine ⟨?_, ?_, ?_, same, ?_, ?_⟩
  · rw [same]
  · rw [same]
  · rw [first, last]
    exact results
  · rw [first]
    rfl
  · rw [last]
    exact Engine.program_enter_negated calculator.engine number.value

theorem sign_key_of_pressAll_of_half :
    ((new.pressAll [.point ".", .digit "5", .digit "0"]).press (.operation "±")).display =
      "-0.50" ∧
    (((new.pressAll [.point ".", .digit "5", .digit "0"]).press (.operation "±")).press
      .enter).display = "-0.5" ∧
    (((new.pressAll [.point ".", .digit "5", .digit "0"]).press .enter).press
      (.operation "±")).display = "-0.5" := by
  have keyed : ∀ action ∈ [Action.point ".", .digit "5", .digit "0"], action.isKey = true := by
    decide
  have typing : (new.pressAll [.point ".", .digit "5", .digit "0"]).typing = true := by
    decide +kernel
  have displayed : (new.pressAll [.point ".", .digit "5", .digit "0"]).displayed? = some 0.5 := by
    decide +kernel
  have nonzero : ((0.5 : Float) == 0) = false := by decide +kernel
  rcases sign_key_of_pressAll keyed typing with ⟨value, read, _, _, agree⟩
  rw [displayed] at read
  rw [Option.some.inj read] at nonzero
  have signFirst : (((new.pressAll [.point ".", .digit "5", .digit "0"]).press
      (.operation "±")).press .enter).display = "-0.5" := by
    decide +kernel
  refine ⟨by decide +kernel, signFirst, ?_⟩
  rw [← (agree nonzero).2.1]
  exact signFirst

end Calculator

end RpnCalculator
