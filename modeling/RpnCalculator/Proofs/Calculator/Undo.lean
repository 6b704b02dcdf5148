import RpnCalculator.Proofs.Calculator.Commands
import RpnCalculator.Proofs.Calculator.Screen

/-! Most keys do nothing to the program but enter elements at its end: none, one, or a typed number
and another element behind it. An undo takes the last element away. So a run of such keys is taken
back by as many undos as it has entered elements, whichever keys they came from. -/

namespace RpnCalculator

/-! ## Entered elements -/

namespace Engine

def Command.entry? : Command → Option Element
  | .pushOperand value => some (.leaf (.operand value))
  | .pushVariable name => if isVariableName name then some (.leaf (.reference name)) else none
  | .perform symbol => Catalogue.find? symbol
  | _ => none

def Command.Enters : Command → Prop
  | .pushOperand _ | .pushVariable _ | .perform _ => True
  | _ => False

theorem apply_of_enters (engine : Engine) {command : Command} (enters : command.Enters) :
    engine.apply command = engine.enter command.entry? := by
  cases command with
  | pushOperand | pushVariable | perform => rfl
  | undo | evaluate | clear | load | bind | unbind | unbindAll => exact enters.elim

theorem apply_of_entry?_eq_none (engine : Engine) {command : Command} (enters : command.Enters)
    (none : command.entry? = none) : engine.apply command = engine := by
  rw [apply_of_enters engine enters, none, enter, Option.toList_none, List.append_nil]

theorem run_of_enters {engine : Engine} {commands : List Command}
    (enter : ∀ command ∈ commands, command.Enters) :
    engine.run commands =
      { engine with program := engine.program ++ commands.filterMap Command.entry? } := by
  induction commands generalizing engine with
  | nil => rw [run_nil, List.filterMap_nil, List.append_nil]
  | cons command commands induction =>
      have parts := List.forall_mem_cons.mp enter
      rw [run_cons, apply_of_enters engine parts.1, induction parts.2, Engine.enter,
        List.append_assoc]
      cases entry : command.entry? with
      | none => rw [List.filterMap_cons_none entry]; rfl
      | some element => rw [List.filterMap_cons_some entry]; rfl

theorem run_undos (engine : Engine) (count : Nat) :
    engine.run (List.replicate count .undo) =
      { engine with program := engine.program.take (engine.program.length - count) } := by
  induction count generalizing engine with
  | zero => rw [List.replicate_zero, run_nil, Nat.sub_zero, List.take_length]
  | succ count induction =>
      have undone : engine.apply .undo = { engine with program := engine.program.dropLast } := rfl
      rw [List.replicate_succ, run_cons, induction, undone, List.length_dropLast,
        List.dropLast_eq_take, List.take_take]
      congr 2
      omega

end Engine

namespace Calculator

variable {calculator : Calculator}

/-- The actions that take back, start over, rebind or reload. All others only enter elements. -/
def Action.Revises (action : Action) : Prop :=
  action ∈ [.backspace, .clear, .storeMemory, .restore]

def entries (calculator : Calculator) : List Action → Program
  | [] => []
  | action :: later =>
    (calculator.commands action).filterMap Engine.Command.entry? ++
      (calculator.press action).entries later

theorem enters_of_mem_commands {action : Action} (forward : ¬action.Revises)
    {command : Engine.Command} (issued : command ∈ calculator.commands action) :
    command.Enters := by
  have entering : ∀ command ∈ calculator.entering, command.Enters := by
    rcases calculator.entering_eq with none | ⟨value, some⟩
    · simp [none]
    · simp [some, Engine.Command.Enters]
  cases action with
  | digit | point | save | display => exact absurd issued List.not_mem_nil
  | enter =>
      rcases Option.map_eq_some_iff.mp (Option.mem_toList.mp issued) with ⟨value, _, rfl⟩
      trivial
  | operation symbol =>
      rw [commands] at issued
      split at issued
      · exact absurd issued List.not_mem_nil
      · rcases List.mem_append.mp issued with typed | performed
        · exact entering command typed
        · rw [List.mem_singleton.mp performed]
          trivial
  | recallMemory =>
      rcases List.mem_append.mp issued with typed | recalled
      · exact entering command typed
      · rw [List.mem_singleton.mp recalled]
        trivial
  | backspace | clear | storeMemory | restore => exact absurd (by simp [Action.Revises]) forward

theorem engine_press_of_not_revises {action : Action} (forward : ¬action.Revises) :
    (calculator.press action).engine = { calculator.engine with
      program := calculator.engine.program ++
        (calculator.commands action).filterMap Engine.Command.entry? } := by
  rw [press_engine]
  exact Engine.run_of_enters fun _ => enters_of_mem_commands forward

theorem engine_pressAll_of_not_revises {actions : List Action}
    (forward : ∀ action ∈ actions, ¬action.Revises) :
    (calculator.pressAll actions).engine = { calculator.engine with
      program := calculator.engine.program ++ calculator.entries actions } := by
  induction actions generalizing calculator with
  | nil => rw [entries, List.append_nil]; rfl
  | cons action later induction =>
      have parts := List.forall_mem_cons.mp forward
      rw [pressAll_cons, induction parts.2, engine_press_of_not_revises parts.1, entries,
        List.append_assoc]

/-! ## Undo -/

theorem pressAll_backspaces (idle : calculator.typing = false) (count : Nat) :
    calculator.pressAll (List.replicate (count + 1) .backspace) =
      calculator.issue (List.replicate (count + 1) .undo) := by
  induction count generalizing calculator with
  | zero => exact press_backspace idle
  | succ count induction =>
      rw [List.replicate_succ, pressAll_cons, press_backspace idle,
        induction (calculator.issue_typing _), issue_issue]
      rfl

theorem engine_pressAll_backspaces (idle : calculator.typing = false) (count : Nat) :
    (calculator.pressAll (List.replicate count .backspace)).engine =
      { calculator.engine with
        program := calculator.engine.program.take (calculator.engine.program.length - count) } := by
  rw [← Engine.run_undos]
  cases count with
  | zero => rfl
  | succ count => rw [pressAll_backspaces idle, issue_engine]

theorem engine_pressAll_backspaces_of_append (idle : calculator.typing = false)
    {program added : Program} (split : calculator.engine.program = program ++ added) :
    (calculator.pressAll (List.replicate added.length .backspace)).engine =
      { calculator.engine with program } := by
  rw [engine_pressAll_backspaces idle, split, List.length_append, Nat.add_sub_cancel,
    List.take_left]

/-- Keys that do not revise the program enter elements behind it, one after the other; a refused
name and an unknown symbol enter none. When nothing is being typed, as many undos as elements were
entered lead back to the program and its history, with its result or its message. One undo takes
away the last element and nothing else, and as many as there are elements leave none. -/
theorem undo_of_pressAll (earlier : List Action) {later : List Action}
    (forward : ∀ action ∈ later, ¬action.Revises) :
    let before := new.pressAll earlier
    let after := before.pressAll later
    before.engine.program <+: after.engine.program ∧
    after.engine.program = before.engine.program ++ before.entries later ∧
    (∀ (engine : Engine) (name : String), isVariableName name = false →
      engine.apply (.pushVariable name) = engine) ∧
    (∀ (engine : Engine) (symbol : String), Catalogue.find? symbol = none →
      engine.apply (.perform symbol) = engine) ∧
    (after.typing = false → ∀ count, 1 ≤ count →
      after.engine.program.length = before.engine.program.length + count →
      let back := after.pressAll (List.replicate count .backspace)
      back.engine = before.engine ∧ back.history = before.history ∧
        back.display = before.engine.answer ∧ back.message = before.engine.message) ∧
    ∀ idle : Calculator, idle.typing = false →
      let undone := idle.press .backspace
      undone.engine = { idle.engine with program := idle.engine.program.dropLast } ∧
        undone.typing = false ∧ undone.saved = idle.saved ∧
      (idle.pressAll
        (List.replicate idle.engine.program.length .backspace)).engine.program = [] := by
  intro before after
  have engine : after.engine =
      { before.engine with program := before.engine.program ++ before.entries later } :=
    engine_pressAll_of_not_revises forward
  have program : after.engine.program = before.engine.program ++ before.entries later := by
    rw [engine]
  refine ⟨program ▸ List.prefix_append _ _, program, ?_, ?_, ?_, ?_⟩
  · intro engine name refused
    exact engine.apply_of_entry?_eq_none trivial (if_neg (Bool.eq_false_iff.mp refused))
  · intro engine symbol unknown
    exact engine.apply_of_entry?_eq_none trivial unknown
  · intro idle count positive longer back
    have entered : (before.entries later).length = count := by
      rw [program, List.length_append] at longer
      exact Nat.add_left_cancel longer
    have backEngine : back.engine = before.engine := by
      have undone := engine_pressAll_backspaces_of_append idle program
      rw [entered, engine] at undone
      exact undone
    rcases Nat.exists_eq_add_of_le' positive with ⟨fewer, rfl⟩
    have issued : back = after.issue (List.replicate (fewer + 1) .undo) :=
      pressAll_backspaces idle fewer
    refine ⟨backEngine, ?_, ?_, ?_⟩
    · rw [(mirrorsEngine_pressAll earlier).history, ← backEngine, issued]
      rfl
    · rw [← backEngine, issued, issue_display]
    · rw [← backEngine, issued, issue_message]
  · intro idle still undone
    have pressed : undone = idle.issue [.undo] := press_backspace still
    have emptied := engine_pressAll_backspaces_of_append still (List.nil_append _).symm
    rw [pressed, emptied]
    exact ⟨rfl, rfl, rfl, rfl⟩

theorem undo_of_pressAll_of_memory :
    let after := (new.pressAll [.digit "1", .enter]).pressAll
      [.digit "2", .operation "±", .recallMemory, .operation "??", .operation "+"]
    after.history = "1, -2+M=" ∧
      (after.pressAll (List.replicate 3 .backspace)).history = "1" ∧
      (after.pressAll (List.replicate 3 .backspace)).display = "1" := by
  have forward : ∀ action ∈ [Action.digit "2", .operation "±", .recallMemory, .operation "??",
      .operation "+"], ¬action.Revises := by
    simp [Action.Revises]
  have back := (undo_of_pressAll [.digit "1", .enter] forward).2.2.2.2.1 (by decide +kernel) 3
    (by decide) (by decide +kernel)
  refine ⟨by decide +kernel, ?_, ?_⟩
  · rw [back.2.1]
    decide +kernel
  · rw [back.2.2.1]
    decide +kernel

end Calculator

end RpnCalculator
