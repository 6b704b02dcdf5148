import RpnCalculator.Proofs.Calculator.Effect
import RpnCalculator.Proofs.Calculator.TypedNumber

/-! The keys edit the display as plain text. What they do to it is what the editing of a typed
number does, so that the display always shows one while the typing goes on, and it can be entered at
any moment. -/

namespace RpnCalculator

namespace Calculator

/-- Can a key of the keypad stand for this action? Keys send digits one by one, and a point as
the separator. -/
def Action.isKey : Action → Bool
  | .digit text =>
    match text.toList with
    | [character] => character.isDigit
    | _ => false
  | .point separator => separator == "."
  | .display _ => false
  | _ => true

theorem Action.exists_digit_of_isKey {text : String} (key : isKey (.digit text) = true) :
    ∃ digit : Digit, text = String.singleton digit.character := by
  rw [isKey] at key
  split at key
  · next character single =>
      refine ⟨⟨character, key⟩, ?_⟩
      rw [← String.toList_inj, single, String.toList_singleton]
  · exact nomatch key

/-! ## Keys that edit the typed number -/

variable {calculator : Calculator} {number : TypedNumber}

theorem displayed?_of_typed (typed : calculator.display = number.text) :
    calculator.displayed? = some number.value := by
  rw [displayed?, typed, number.trim_text, number.read?_text]

theorem typeDigit_of_typed (typing : calculator.typing = true)
    (typed : calculator.display = number.text) (digit : Digit) :
    calculator.typeDigit (String.singleton digit.character) =
      { calculator with display := (number.withDigit digit).text } := by
  rw [typeDigit, if_pos typing, typed, TypedNumber.text, TypedNumber.text,
    number.characters_withDigit, String.ofList_append]
  rfl

theorem typePoint_of_typed (typing : calculator.typing = true)
    (typed : calculator.display = number.text) :
    calculator.typePoint "." = { calculator with display := number.withPoint.text } := by
  rw [typePoint, if_pos typing, typed, number.contains_point, TypedNumber.text, TypedNumber.text,
    number.characters_withPoint]
  split
  · rw [← TypedNumber.text, ← typed]
  · rw [String.ofList_append]

theorem toggleSign_of_typed (typed : calculator.display = number.text) :
    calculator.toggleSign = { calculator with display := number.toggled.text } := by
  have shown : calculator.display.toList = number.characters := by
    rw [typed, TypedNumber.text, String.toList_ofList]
  cases negative : number.negative with
  | true =>
      have toggled : number.toggled = number.negated := if_neg (by simp [negative])
      rw [toggled, number.text_negated_of_negative negative]
      simp only [toggleSign, displayed?_of_typed typed, shown,
        number.characters_of_negative negative]
  | false =>
      rcases number.unsigned_eq_cons with ⟨digit, rest, unsigned, isDigit⟩
      simp only [toggleSign, displayed?_of_typed typed, shown,
        number.characters_of_positive negative]
      split
      · next sign =>
          -- A number that is not negative starts with a digit.
          rw [unsigned] at sign
          rw [(List.cons.inj sign).1] at isDigit
          exact absurd isDigit (by decide)
      · split
        · next zero =>
            have toggled : number.toggled = number := if_pos ⟨negative, zero⟩
            rw [toggled, ← typed]
        · next nonzero =>
            have toggled : number.toggled = number.negated := if_neg (by simp [nonzero])
            rw [toggled, number.text_negated_of_positive negative]

theorem eraseLast_of_typed (typed : calculator.display = number.text) :
    calculator.eraseLast =
      match number.withoutLast? with
      | some shorter => { calculator with display := shorter.text }
      | none => { calculator with display := zero, typing := false } := by
  have shown : calculator.display.toList.dropLast =
      number.withoutLast?.elim number.sign TypedNumber.characters := by
    rw [typed, TypedNumber.text, String.toList_ofList, number.dropLast_characters]
  simp only [eraseLast, shown]
  cases number.withoutLast? with
  | none => exact if_pos number.sign_eq
  | some shorter => exact if_neg shorter.characters_ne_sign

/-! ## Every key -/

def ShowsTyped (calculator : Calculator) : Prop :=
  calculator.typing = true → IsTyped calculator.display

theorem showsTyped_of_idle (idle : calculator.typing = false) : calculator.ShowsTyped := by
  intro typing
  exact absurd (idle.symm.trans typing) Bool.false_ne_true

theorem ShowsTyped.typeDigit (shows : calculator.ShowsTyped) (digit : Digit) :
    (calculator.typeDigit (String.singleton digit.character)).ShowsTyped := by
  intro _
  by_cases typing : calculator.typing = true
  · rcases shows typing with ⟨number, typed⟩
    rw [typeDigit_of_typed typing typed]
    exact ⟨_, rfl⟩
  · rw [Calculator.typeDigit, if_neg typing]
    exact ⟨.ofDigit digit, rfl⟩

theorem ShowsTyped.typePoint (shows : calculator.ShowsTyped) :
    (calculator.typePoint ".").ShowsTyped := by
  intro _
  by_cases typing : calculator.typing = true
  · rcases shows typing with ⟨number, typed⟩
    rw [typePoint_of_typed typing typed]
    exact ⟨_, rfl⟩
  · rw [Calculator.typePoint, if_neg typing]
    exact ⟨.zeroPoint, rfl⟩

theorem ShowsTyped.toggleSign (shows : calculator.ShowsTyped) (typing : calculator.typing = true) :
    calculator.toggleSign.ShowsTyped := by
  intro _
  rcases shows typing with ⟨number, typed⟩
  rw [toggleSign_of_typed typed]
  exact ⟨_, rfl⟩

theorem ShowsTyped.eraseLast (shows : calculator.ShowsTyped) (typing : calculator.typing = true) :
    calculator.eraseLast.ShowsTyped := by
  rcases shows typing with ⟨number, typed⟩
  rw [eraseLast_of_typed typed]
  cases number.withoutLast? with
  | none => exact showsTyped_of_idle rfl
  | some shorter => exact fun _ => ⟨shorter, rfl⟩

theorem ShowsTyped.press (shows : calculator.ShowsTyped) {action : Action}
    (key : action.isKey = true) : (calculator.press action).ShowsTyped := by
  by_cases answers : calculator.Answers action
  · rcases press_of_answers answers with ⟨commands, issued⟩
    rw [issued]
    exact showsTyped_of_idle rfl
  cases action with
  | digit text =>
      rcases Action.exists_digit_of_isKey key with ⟨digit, rfl⟩
      exact shows.typeDigit digit
  | point separator =>
      rw [eq_of_beq key]
      exact shows.typePoint
  | operation symbol =>
      have toggles := Classical.not_not.mp answers
      rw [press_operation_of_toggles toggles]
      exact shows.toggleSign toggles.1
  | backspace =>
      have typing : calculator.typing = true := Bool.not_eq_false _ |>.mp answers
      rw [press_backspace_of_typing typing]
      exact shows.eraseLast typing
  | enter | storeMemory | restore =>
      rw [press_eq_self answers (by simp)]
      exact shows
  | recallMemory => exact absurd trivial answers
  | clear => exact showsTyped_of_idle rfl
  | save => exact shows
  | display value => exact absurd key Bool.false_ne_true

theorem ShowsTyped.pressAll (shows : calculator.ShowsTyped) {actions : List Action}
    (keyed : ∀ action ∈ actions, action.isKey = true) : (calculator.pressAll actions).ShowsTyped :=
  List.foldlRecOn actions Calculator.press shows
    fun _ shows action member => shows.press (keyed action member)

/-! ## Keys that enter the typed number -/

/-- What the keys do with a number that is being typed. It is entered as an operand, and if another
element comes with it, before this one; the memory takes it over without entering it. Each of
these keys ends the typing. -/
structure TakesOver (calculator : Calculator) (value : Float) : Prop where
  enter : (calculator.press .enter).engine = { calculator.engine with
    program := calculator.engine.program ++ [.leaf (.operand value)] }
  operation : ∀ symbol, symbol ≠ "±" →
    calculator.press (.operation symbol) = (calculator.press .enter).press (.operation symbol) ∧
    (calculator.press (.operation symbol)).engine.program =
      calculator.engine.program ++ .leaf (.operand value) :: (Catalogue.find? symbol).toList
  recallMemory : calculator.press .recallMemory = (calculator.press .enter).press .recallMemory ∧
    (calculator.press .recallMemory).engine.program = calculator.engine.program ++
      [.leaf (.operand value), .leaf (.reference memoryName)]
  storeMemory : (calculator.press .storeMemory).engine.program = calculator.engine.program ∧
    ∀ name, (calculator.press .storeMemory).engine.bindings.get? name =
      if name = memoryName then some value else calculator.engine.bindings.get? name
  endsTyping : ∀ action, action = .enter ∨ action = .recallMemory ∨ action = .storeMemory ∨
    (∃ symbol, symbol ≠ "±" ∧ action = .operation symbol) →
    (calculator.press action).typing = false

theorem takesOver_of_displayed {value : Float} (typing : calculator.typing = true)
    (displayed : calculator.displayed? = some value) : calculator.TakesOver value := by
  have enters := press_enter displayed
  have entering := entering_of_displayed typing displayed
  have operates : ∀ symbol, symbol ≠ "±" → calculator.press (.operation symbol) =
      calculator.issue [.pushOperand value, .perform symbol] := by
    intro symbol plain
    rw [press_operation fun both => plain both.2, entering, List.singleton_append]
  have recalls : calculator.press .recallMemory =
      calculator.issue [.pushOperand value, .pushVariable memoryName] := by
    rw [press_recallMemory, entering, List.singleton_append]
  have stores := press_storeMemory displayed
  constructor
  case enter =>
    rw [enters, issue_engine]
    rfl
  case operation =>
    intro symbol plain
    constructor
    · rw [operates symbol plain, enters, press_operation fun both => plain both.2, entering_issue,
        List.nil_append, issue_issue, List.singleton_append]
    · rw [operates symbol plain]
      exact List.append_assoc _ _ _
  case recallMemory =>
    constructor
    · rw [recalls, enters, press_recallMemory, entering_issue, List.nil_append, issue_issue,
        List.singleton_append]
    · have ordinary : isVariableName memoryName = true := by decide +kernel
      rw [recalls, issue_engine]
      simp [Engine.run, Engine.apply, Engine.enter, ordinary]
  case storeMemory =>
    rw [stores]
    exact ⟨rfl, fun name => calculator.engine.bindings.get?_set memoryName name value⟩
  case endsTyping =>
    rintro action (rfl | rfl | rfl | ⟨symbol, plain, rfl⟩)
    · rw [enters, issue_typing]
    · rw [recalls, issue_typing]
    · rw [stores, issue_typing]
    · rw [operates symbol plain, issue_typing]

/-- Whatever keys are pressed, a number that is being typed has one or more digits, perhaps a minus
sign before and a point among or behind them, and nothing else. So it can be read, and every key
that needs it takes it over. -/
theorem typed_number_of_pressAll {actions : List Action}
    (keyed : ∀ action ∈ actions, action.isKey = true)
    (typing : (new.pressAll actions).typing = true) :
    ∃ number : TypedNumber, (new.pressAll actions).display = number.text ∧
      (new.pressAll actions).displayed? = some number.value ∧
      (new.pressAll actions).TakesOver number.value := by
  have shows : new.ShowsTyped := showsTyped_of_idle rfl
  rcases shows.pressAll keyed typing with ⟨number, typed⟩
  have displayed := displayed?_of_typed typed
  exact ⟨number, typed, displayed, takesOver_of_displayed typing displayed⟩

theorem typed_number_of_pressAll_of_negative :
    (new.pressAll [.digit "1", .point ".", .operation "±", .digit "5"]).display = "-1.5" ∧
      (new.pressAll [.digit "1", .point ".", .operation "±", .digit "5"]).TakesOver (-1.5) := by
  have keyed : ∀ action ∈ [Action.digit "1", .point ".", .operation "±", .digit "5"],
      action.isKey = true := by
    decide
  have typing :
      (new.pressAll [.digit "1", .point ".", .operation "±", .digit "5"]).typing = true := by
    decide +kernel
  have displayed : (new.pressAll [.digit "1", .point ".", .operation "±", .digit "5"]).displayed? =
      some (-1.5) := by
    decide +kernel
  rcases typed_number_of_pressAll keyed typing with ⟨number, _, read, takes⟩
  rw [Option.some.inj (read.symm.trans displayed)] at takes
  exact ⟨by decide +kernel, takes⟩

end Calculator

end RpnCalculator
