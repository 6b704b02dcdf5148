import RpnCalculator.Proofs.Calculator.Effect

/-! A calculator that starts over differs from a new one in its message: the one says that there is
nothing to evaluate, the other says nothing yet. No key depends on the message, and any key that
brings it up to date removes the difference. -/

namespace RpnCalculator.Calculator

/-! ## Two calculators with different messages -/

def withMessage (calculator : Calculator) (text : String) : Calculator :=
  { calculator with message := text }

def Refreshes (calculator : Calculator) (action : Action) : Prop :=
  calculator.Answers action ∨ action = .clear

def RefreshesAmid (calculator : Calculator) : List Action → Prop
  | [] => False
  | action :: actions =>
    calculator.Refreshes action ∨ (calculator.press action).RefreshesAmid actions

variable {calculator : Calculator} {action : Action}

theorem answers_withMessage (text : String) :
    (calculator.withMessage text).Answers action = calculator.Answers action := by
  cases action <;> rfl

theorem commands_withMessage (text : String) :
    (calculator.withMessage text).commands action = calculator.commands action := by
  cases action <;> rfl

theorem press_withMessage_of_refreshes (refreshes : calculator.Refreshes action) (text : String) :
    (calculator.withMessage text).press action = calculator.press action := by
  rcases refreshes with answers | rfl
  · rw [press_eq_issue answers, press_eq_issue (answers_withMessage text ▸ answers),
      commands_withMessage]
    rfl
  · rfl

theorem typeDigit_withMessage (calculator : Calculator) (text digit : String) :
    (calculator.withMessage text).typeDigit digit =
      (calculator.typeDigit digit).withMessage text := by
  rw [typeDigit, typeDigit, apply_ite (withMessage · text)]
  rfl

theorem typePoint_withMessage (calculator : Calculator) (text separator : String) :
    (calculator.withMessage text).typePoint separator =
      (calculator.typePoint separator).withMessage text := by
  rw [typePoint, typePoint, apply_ite (withMessage · text), apply_ite (withMessage · text)]
  rfl

theorem toggleSign_withMessage (calculator : Calculator) (text : String) :
    (calculator.withMessage text).toggleSign = calculator.toggleSign.withMessage text := by
  have same : (calculator.withMessage text).displayed? = calculator.displayed? := rfl
  have shown : (calculator.withMessage text).display = calculator.display := rfl
  simp only [toggleSign, same, shown]
  cases calculator.displayed? with
  | none => rfl
  | some value =>
      dsimp only
      split
      · rfl
      · rw [apply_ite (withMessage · text)]
        rfl

theorem eraseLast_withMessage (calculator : Calculator) (text : String) :
    (calculator.withMessage text).eraseLast = calculator.eraseLast.withMessage text := by
  rw [eraseLast, eraseLast, apply_ite (withMessage · text)]
  rfl

theorem press_withMessage_of_not_refreshes (silent : ¬calculator.Refreshes action) (text : String) :
    (calculator.withMessage text).press action = (calculator.press action).withMessage text := by
  rcases not_or.mp silent with ⟨answers, clears⟩
  have same : ¬(calculator.withMessage text).Answers action := answers_withMessage text ▸ answers
  cases action with
  | digit digit => exact calculator.typeDigit_withMessage text digit
  | point separator => exact calculator.typePoint_withMessage text separator
  | operation symbol =>
      have toggles := Classical.not_not.mp answers
      have togglesAlso : (calculator.withMessage text).typing = true ∧ symbol = "±" := toggles
      rw [press_operation_of_toggles togglesAlso, press_operation_of_toggles toggles]
      exact calculator.toggleSign_withMessage text
  | backspace =>
      have typing : calculator.typing = true := Bool.not_eq_false _ |>.mp answers
      have typingAlso : (calculator.withMessage text).typing = true := typing
      rw [press_backspace_of_typing typingAlso, press_backspace_of_typing typing]
      exact calculator.eraseLast_withMessage text
  | enter | storeMemory | restore =>
      rw [press_eq_self same (by simp), press_eq_self answers (by simp)]
  | save | display value => rfl
  | recallMemory => exact absurd trivial answers
  | clear => exact absurd rfl clears

theorem pressAll_withMessage_of_refreshes {actions : List Action} (text : String)
    (refreshes : calculator.RefreshesAmid actions) :
    (calculator.withMessage text).pressAll actions = calculator.pressAll actions := by
  induction actions generalizing calculator with
  | nil => exact refreshes.elim
  | cons action actions induction =>
      by_cases now : calculator.Refreshes action
      · rw [pressAll_cons, pressAll_cons, press_withMessage_of_refreshes now]
      · rw [pressAll_cons, press_withMessage_of_not_refreshes now]
        exact induction (refreshes.resolve_left now)

theorem pressAll_withMessage_of_not_refreshes {actions : List Action} (text : String)
    (silent : ¬calculator.RefreshesAmid actions) :
    (calculator.withMessage text).pressAll actions =
      (calculator.pressAll actions).withMessage text := by
  induction actions generalizing calculator with
  | nil => rfl
  | cons action actions induction =>
      rcases not_or.mp silent with ⟨now, later⟩
      rw [pressAll_cons, press_withMessage_of_not_refreshes now]
      exact induction later

theorem message_pressAll_of_not_refreshes {actions : List Action}
    (silent : ¬calculator.RefreshesAmid actions) :
    (calculator.pressAll actions).message = calculator.message := by
  have unchanged : calculator.withMessage calculator.message = calculator := rfl
  have same := pressAll_withMessage_of_not_refreshes calculator.message silent
  rw [unchanged] at same
  rw [same]
  rfl

/-! ## Starting over -/

/-- A calculator that starts over is a new one with the same saved program, but for its message.
As soon as a key brings the message up to date, they are the same, whatever is pressed. Until then
the message is the only difference. -/
theorem clear_starts_over (calculator : Calculator) (actions : List Action) :
    let fresh : Calculator := { new with saved := calculator.saved }
    let cleared := calculator.press .clear
    cleared = fresh.withMessage EvalError.insufficient.message ∧
    (fresh.RefreshesAmid actions → cleared.pressAll actions = fresh.pressAll actions) ∧
    (¬fresh.RefreshesAmid actions →
      cleared.pressAll actions =
        (fresh.pressAll actions).withMessage EvalError.insufficient.message ∧
      (fresh.pressAll actions).message = "") := by
  intro fresh cleared
  have start : cleared = fresh.withMessage EvalError.insufficient.message := by
    have silence : Engine.new.message = EvalError.insufficient.message := by
      decide +kernel
    rw [← silence]
    rfl
  refine ⟨start, ?_, ?_⟩
  · intro refreshes
    rw [start]
    exact pressAll_withMessage_of_refreshes _ refreshes
  · intro silent
    rw [start]
    exact ⟨pressAll_withMessage_of_not_refreshes _ silent,
      message_pressAll_of_not_refreshes silent⟩

theorem clear_starts_over_of_enter :
    ((new.pressAll [.digit "5", .storeMemory, .recallMemory]).press .clear).pressAll
        [.digit "1", .enter] =
      new.pressAll [.digit "1", .enter] := by
  have saved : (new.pressAll [.digit "5", .storeMemory, .recallMemory]).saved = new.saved := by
    decide +kernel
  have refreshes : new.RefreshesAmid [.digit "1", .enter] := by
    have readable : ((new.press (.digit "1")).displayed?).isSome = true := by decide +kernel
    exact .inr (.inl (.inl readable))
  have started := (clear_starts_over (new.pressAll [.digit "5", .storeMemory, .recallMemory])
    [.digit "1", .enter]).2.1
  rw [saved] at started
  exact started refreshes

/-- A message is left by the key that starts over, and it stays while a number is typed. -/
theorem clear_leaves_message :
    new.message = "" ∧ (new.press .clear).message = "opérandes insuffisants" ∧
    (new.pressAll [.digit "1"]).message = "" ∧
      ((new.press .clear).pressAll [.digit "1"]).message = "opérandes insuffisants" := by
  decide +kernel

end RpnCalculator.Calculator
