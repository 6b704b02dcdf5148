import RpnCalculator.Number.Numeral.Lemmas
import RpnCalculator.Proofs.Calculator.Effect

/-! The calculator keeps three texts that the engine could give at any time: its history, its
message and the text of its result. They are kept by hand, key by key, and never become stale. -/

namespace RpnCalculator

theorem EvalError.message_ne_empty (error : EvalError) : error.message ≠ "" := by
  cases error with
  | insufficient => decide +kernel
  | unbound name =>
      have written : message (.unbound name) = "variable non définie : " ++ name := rfl
      rw [written]
      simp

namespace Engine

def answer (engine : Engine) : String :=
  match engine.evaluate with
  | .ok value => Numeral.write value
  | .error _ => ""

theorem resultText_result? (engine : Engine) :
    Calculator.resultText engine.result? = engine.answer := by
  rw [result?, answer]
  cases engine.evaluate <;> rfl

theorem answer_eq_empty_iff (engine : Engine) : engine.answer = "" ↔ engine.message ≠ "" := by
  rw [answer, message]
  cases engine.evaluate with
  | ok value => simp [Numeral.write_ne_empty]
  | error error => simp [EvalError.message_ne_empty]

end Engine

namespace Calculator

/-! ## History and message -/

/-- The kept history is that of the engine, and so is the message, unless the engine is still as
new and nothing has been said about it. -/
structure MirrorsEngine (calculator : Calculator) : Prop where
  history : calculator.history = calculator.engine.history
  message : calculator.message = calculator.engine.message ∨
    calculator.engine = .new ∧ calculator.message = ""

theorem MirrorsEngine.of_effect {before after : Calculator} (effect : Effect before after)
    (mirrors : before.MirrorsEngine) : after.MirrorsEngine := by
  cases effect with
  | issued | cleared => exact ⟨rfl, .inl rfl⟩
  | none | typed | erased | saved => exact ⟨mirrors.history, mirrors.message⟩

theorem MirrorsEngine.press {calculator : Calculator} (mirrors : calculator.MirrorsEngine)
    (action : Action) : (calculator.press action).MirrorsEngine := by
  rcases press_effect action with ⟨value, rfl⟩ | effect
  · exact ⟨mirrors.history, mirrors.message⟩
  · exact mirrors.of_effect effect

theorem mirrorsEngine_pressAll (actions : List Action) : (new.pressAll actions).MirrorsEngine :=
  List.foldlRecOn actions Calculator.press ⟨rfl, .inr ⟨rfl, rfl⟩⟩
    fun _ mirrors action _ => mirrors.press action

/-- Whatever is pressed, the history on the screen is that of the program, and the message says
why the program has no value, if it has none. Only while there is neither a program nor a variable
can this message be missing. -/
theorem history_and_message_of_pressAll (actions : List Action) :
    let calculator := new.pressAll actions
    calculator.history = calculator.engine.program.history ∧
    ((calculator.message = match calculator.engine.program.evaluate calculator.engine.bindings with
      | .ok _ => ""
      | .error error => error.message) ∨
      calculator.engine.program = [] ∧ calculator.engine.bindings = .empty ∧
        calculator.message = "") := by
  intro calculator
  have mirrors := mirrorsEngine_pressAll actions
  refine ⟨mirrors.history, ?_⟩
  rcases mirrors.message with current | ⟨fresh, silent⟩
  · exact .inl current
  · exact .inr ⟨congrArg Engine.program fresh, congrArg Engine.bindings fresh, silent⟩

/-! ## Display -/

theorem issue_display (calculator : Calculator) (commands : List Engine.Command) :
    (calculator.issue commands).display = (calculator.issue commands).engine.answer :=
  Engine.resultText_result? _

theorem issue_message (calculator : Calculator) (commands : List Engine.Command) :
    (calculator.issue commands).message = (calculator.issue commands).engine.message := rfl

def ShowsAnswer (calculator : Calculator) : Prop :=
  calculator.typing = false →
    calculator.display = zero ∨ calculator.display = calculator.engine.answer

theorem ShowsAnswer.of_effect {before after : Calculator} (effect : Effect before after)
    (shows : before.ShowsAnswer) : after.ShowsAnswer := by
  cases effect with
  | none | saved => exact shows
  | typed text => exact fun typing => nomatch typing
  | erased | cleared => exact fun _ => .inl rfl
  | issued commands => exact fun _ => .inr (issue_display before commands)

theorem showsAnswer_pressAll {actions : List Action}
    (computed : ∀ action ∈ actions, ∀ value, action ≠ .display value) :
    (new.pressAll actions).ShowsAnswer := by
  refine List.foldlRecOn actions press (fun _ => .inl rfl) ?_
  intro calculator shows action member
  rcases press_effect action with ⟨value, foreign⟩ | effect
  · exact absurd foreign (computed action member value)
  · exact shows.of_effect effect

/-- When no number is being typed, the display shows zero or the text of the program's result,
which is empty if there is none. Every key that issues commands ends the typing and shows the
result of the program that it leaves; then the display is empty just when there is a message. -/
theorem display_of_pressAll {actions : List Action}
    (computed : ∀ action ∈ actions, ∀ value, action ≠ .display value) :
    let calculator := new.pressAll actions
    (calculator.typing = false →
      calculator.display = "0" ∨ calculator.display = calculator.engine.answer) ∧
    ∀ action, calculator.Answers action →
      let after := calculator.press action
      after.typing = false ∧ after.display = after.engine.answer ∧
        (after.display = "" ↔ after.message ≠ "") := by
  intro calculator
  refine ⟨showsAnswer_pressAll computed, ?_⟩
  intro action answers after
  rcases press_of_answers answers with ⟨commands, issued⟩
  have same : after = calculator.issue commands := issued
  rw [same, issue_display, issue_message]
  exact ⟨rfl, rfl, Engine.answer_eq_empty_iff _⟩

theorem display_of_pressAll_of_product :
    ((new.pressAll [.digit "2", .enter, .digit "3"]).press (.operation "×")).display = "6" := by
  have computed : ∀ action ∈ [Action.digit "2", .enter, .digit "3"],
      ∀ value, action ≠ .display value := by
    simp
  have answers : (new.pressAll [.digit "2", .enter, .digit "3"]).Answers (.operation "×") := by
    rintro ⟨_, sign⟩
    exact absurd sign (by decide)
  have shown := ((display_of_pressAll computed).2 (.operation "×") answers).2.1
  rw [shown]
  decide +kernel

end Calculator

end RpnCalculator
