import RpnCalculator.Calculator

/-! The keys are many, but what they do is one of a few things: a key changes the typed text, starts
the calculator over, saves, or issues commands to the engine and shows the result. A number that is
being typed when commands are issued is entered by a command of its own before the others. -/

namespace RpnCalculator.Calculator

/-! ## Issued commands -/

theorem issue_engine (calculator : Calculator) (commands : List Engine.Command) :
    (calculator.issue commands).engine = calculator.engine.run commands := rfl

theorem issue_typing (calculator : Calculator) (commands : List Engine.Command) :
    (calculator.issue commands).typing = false := rfl

theorem issue_issue (calculator : Calculator) (earlier later : List Engine.Command) :
    (calculator.issue earlier).issue later = calculator.issue (earlier ++ later) := by
  have engines : (calculator.engine.run earlier).run later =
      calculator.engine.run (earlier ++ later) :=
    List.foldl_append.symm
  simp only [issue, showing, refreshed, engines]

def entering (calculator : Calculator) : List Engine.Command :=
  if calculator.typing then (calculator.displayed?.map .pushOperand).toList else []

theorem settled_issue (calculator : Calculator) (commands : List Engine.Command) :
    calculator.settled.issue commands = calculator.issue (calculator.entering ++ commands) := by
  rw [settled, entering]
  split
  · rw [enter]
    cases calculator.displayed? with
    | none => rfl
    | some value => exact issue_issue calculator [.pushOperand value] commands
  · rfl

theorem entering_issue (calculator : Calculator) (commands : List Engine.Command) :
    (calculator.issue commands).entering = [] := rfl

variable {calculator : Calculator}

theorem entering_of_displayed {value : Float} (typing : calculator.typing = true)
    (displayed : calculator.displayed? = some value) :
    calculator.entering = [.pushOperand value] := by
  rw [entering, if_pos typing, displayed]
  rfl

theorem press_enter {value : Float} (displayed : calculator.displayed? = some value) :
    calculator.press .enter = calculator.issue [.pushOperand value] := by
  rw [press, enter, displayed]

theorem press_storeMemory {value : Float} (displayed : calculator.displayed? = some value) :
    calculator.press .storeMemory = calculator.issue [.bind memoryName value, .evaluate] := by
  rw [press, storeMemory, displayed]

theorem press_operation {symbol : String} (pushes : ¬(calculator.typing = true ∧ symbol = "±")) :
    calculator.press (.operation symbol) =
      calculator.issue (calculator.entering ++ [.perform symbol]) := by
  rw [press, operate, if_neg pushes, settled_issue]

theorem press_recallMemory (calculator : Calculator) :
    calculator.press .recallMemory =
      calculator.issue (calculator.entering ++ [.pushVariable memoryName]) :=
  calculator.settled_issue [.pushVariable memoryName]

theorem press_restore {tokens : List String} (saved : calculator.saved = some tokens) :
    calculator.press .restore = calculator.issue [.load tokens, .evaluate] := by
  rw [press, restore, saved]

theorem press_backspace (idle : calculator.typing = false) :
    calculator.press .backspace = calculator.issue [.undo] := by
  rw [press, backspace, if_neg (Bool.eq_false_iff.mp idle)]

theorem press_operation_of_toggles {symbol : String}
    (toggles : calculator.typing = true ∧ symbol = "±") :
    calculator.press (.operation symbol) = calculator.toggleSign := by
  rw [press, operate, if_pos toggles]

theorem press_backspace_of_typing (typing : calculator.typing = true) :
    calculator.press .backspace = calculator.eraseLast := by
  rw [press, backspace, if_pos typing]

def commands (calculator : Calculator) : Action → List Engine.Command
  | .enter => (calculator.displayed?.map .pushOperand).toList
  | .operation symbol =>
    if calculator.typing ∧ symbol = "±" then [] else calculator.entering ++ [.perform symbol]
  | .recallMemory => calculator.entering ++ [.pushVariable memoryName]
  | .storeMemory =>
    match calculator.displayed? with
    | none => []
    | some value => [.bind memoryName value, .evaluate]
  | .restore =>
    match calculator.saved with
    | none => []
    | some tokens => [.load tokens, .evaluate]
  | .backspace => if calculator.typing then [] else [.undo]
  | .clear => [.clear, .unbindAll]
  | .digit _ | .point _ | .save | .display _ => []

/-- Does the action end with the result of the program on the display? An action that needs a
number to read, or a program to restore, does so if there is one. -/
def Answers (calculator : Calculator) : Action → Prop
  | .enter | .storeMemory => calculator.displayed?.isSome
  | .operation symbol => ¬(calculator.typing = true ∧ symbol = "±")
  | .recallMemory => True
  | .restore => calculator.saved.isSome
  | .backspace => calculator.typing = false
  | _ => False

theorem press_eq_issue {action : Action} (answers : calculator.Answers action) :
    calculator.press action = calculator.issue (calculator.commands action) := by
  cases action with
  | enter =>
      rcases Option.isSome_iff_exists.mp answers with ⟨value, displayed⟩
      rw [press_enter displayed, commands, displayed]
      rfl
  | storeMemory =>
      rcases Option.isSome_iff_exists.mp answers with ⟨value, displayed⟩
      simp only [press_storeMemory displayed, commands, displayed]
  | operation symbol => rw [press_operation answers, commands, if_neg answers]
  | recallMemory => exact calculator.press_recallMemory
  | restore =>
      rcases Option.isSome_iff_exists.mp answers with ⟨tokens, saved⟩
      simp only [press_restore saved, commands, saved]
  | backspace => rw [press_backspace answers, commands, if_neg (Bool.eq_false_iff.mp answers)]
  | digit | point | clear | save | display => exact answers.elim

theorem press_of_answers {action : Action} (answers : calculator.Answers action) :
    ∃ commands, calculator.press action = calculator.issue commands :=
  ⟨_, press_eq_issue answers⟩

/-! ## Edits -/

inductive Edit (before : Calculator) : Calculator → Prop
  | none : Edit before before
  | typed (text : String) : Edit before { before with display := text, typing := true }
  | erased : Edit before { before with display := zero, typing := false }

theorem typed_of_typing (typing : calculator.typing = true) (text : String) :
    Edit calculator { calculator with display := text } := by
  have edit : Edit calculator { calculator with display := text, typing := true } := .typed text
  rwa [← typing] at edit

theorem press_eq_self {action : Action} (silent : ¬calculator.Answers action)
    (lacks : action = .enter ∨ action = .storeMemory ∨ action = .restore) :
    calculator.press action = calculator := by
  rcases lacks with rfl | rfl | rfl
  · rw [press, enter, Option.not_isSome_iff_eq_none.mp silent]
  · rw [press, storeMemory, Option.not_isSome_iff_eq_none.mp silent]
  · rw [press, restore, Option.not_isSome_iff_eq_none.mp silent]

theorem typeDigit_edit (text : String) : Edit calculator (calculator.typeDigit text) := by
  rw [typeDigit]
  split
  · exact typed_of_typing ‹_› _
  · exact .typed text

theorem typePoint_edit (separator : String) : Edit calculator (calculator.typePoint separator) := by
  rw [typePoint]
  split
  · split
    · exact .none
    · exact typed_of_typing ‹_› _
  · exact .typed _

theorem toggleSign_edit (typing : calculator.typing = true) :
    Edit calculator calculator.toggleSign := by
  rw [toggleSign]
  split
  · exact .none
  · split
    · exact typed_of_typing typing _
    · split
      · exact .none
      · exact typed_of_typing typing _

theorem eraseLast_edit (typing : calculator.typing = true) :
    Edit calculator calculator.eraseLast := by
  simp only [eraseLast]
  split
  · exact .erased
  · exact typed_of_typing typing _

/-- An action answers, by issuing its commands; or it starts over, saves or shows a foreign value;
or else it issues nothing and edits the typed number at most. -/
theorem press_cases (calculator : Calculator) (action : Action) :
    (calculator.Answers action ∧
      calculator.press action = calculator.issue (calculator.commands action)) ∨
    (action = .clear ∨ action = .save ∨ ∃ value, action = .display value) ∨
    (calculator.commands action = [] ∧ Edit calculator (calculator.press action)) := by
  by_cases answers : calculator.Answers action
  · exact .inl ⟨answers, press_eq_issue answers⟩
  refine .inr ?_
  cases action with
  | clear => exact .inl (.inl rfl)
  | save => exact .inl (.inr (.inl rfl))
  | display value => exact .inl (.inr (.inr ⟨value, rfl⟩))
  | digit text => exact .inr ⟨rfl, typeDigit_edit text⟩
  | point separator => exact .inr ⟨rfl, typePoint_edit separator⟩
  | operation symbol =>
      have toggles := Classical.not_not.mp answers
      rw [commands, if_pos toggles, press_operation_of_toggles toggles]
      exact .inr ⟨rfl, toggleSign_edit toggles.1⟩
  | enter | storeMemory | restore =>
      rw [press_eq_self answers (by simp)]
      refine .inr ⟨?_, .none⟩
      simp [commands, Option.not_isSome_iff_eq_none.mp answers]
  | recallMemory => exact absurd trivial answers
  | backspace =>
      have typing : calculator.typing = true := Bool.not_eq_false _ |>.mp answers
      rw [commands, if_pos typing, press_backspace_of_typing typing]
      exact .inr ⟨rfl, eraseLast_edit typing⟩

/-! ## Effects -/

inductive Effect (before : Calculator) : Calculator → Prop
  | none : Effect before before
  | typed (text : String) : Effect before { before with display := text, typing := true }
  | erased : Effect before { before with display := zero, typing := false }
  | issued (commands : List Engine.Command) : Effect before (before.issue commands)
  | cleared : Effect before before.clear
  | saved : Effect before before.save

theorem Edit.effect {before after : Calculator} (edit : Edit before after) :
    Effect before after := by
  cases edit with
  | none => exact .none
  | typed text => exact .typed text
  | erased => exact .erased

theorem press_effect (action : Action) :
    (∃ value, action = .display value) ∨ Effect calculator (calculator.press action) := by
  rcases calculator.press_cases action with ⟨_, issued⟩ | (rfl | rfl | foreign) | ⟨_, edit⟩
  · exact .inr (issued ▸ .issued _)
  · exact .inr .cleared
  · exact .inr .saved
  · exact .inl foreign
  · exact .inr edit.effect

end RpnCalculator.Calculator
