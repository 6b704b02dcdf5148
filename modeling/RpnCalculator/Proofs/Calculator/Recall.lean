import RpnCalculator.Proofs.Calculator.Commands
import RpnCalculator.Proofs.Calculator.Screen
import RpnCalculator.Proofs.Engine.Transcription
import RpnCalculator.Proofs.LastExpression

/-! What is saved is a transcript, and a transcript read back has lost its variables. So a program
without the memory comes back as it was, whatever was done in between, and any other program comes
back without its references to the memory. -/

namespace RpnCalculator

/-! ## Programs without variables -/

namespace Program

theorem withoutReferences_concat (program : Program) {element : Element}
    (plain : element.isReference = false) :
    withoutReferences (program ++ [element]) = program.withoutReferences ++ [element] := by
  simp [withoutReferences, List.filter_append, plain]

theorem EndsIn.withoutReferences {program rest : Program} {expression : Expression}
    (ends : program.EndsIn expression rest)
    (unreferenced : ∀ name, .reference name ∉ expression.leaves) :
    program.withoutReferences.EndsIn expression rest.withoutReferences := by
  induction ends with
  | missing => exact .missing
  | leaf rest item =>
      have plain : (Element.leaf item).isReference = false := by
        cases item with
        | reference name => exact absurd (List.mem_singleton_self _) (unreferenced name)
        | operand | constant => rfl
      rw [withoutReferences_concat rest plain]
      exact .leaf _ item
  | unary operation ends induction =>
      rw [withoutReferences_concat _ rfl]
      exact .unary operation (induction unreferenced)
  | binary operation rightEnds leftEnds rightInduction leftInduction =>
      rw [withoutReferences_concat _ rfl]
      exact .binary operation
        (rightInduction fun name member => unreferenced name (List.mem_append_right _ member))
        (leftInduction fun name member => unreferenced name (List.mem_append_left _ member))

end Program

theorem Engine.RefersOnlyTo.isReference_eq_false {engine : Engine} {name : String}
    (refers : engine.RefersOnlyTo name) (absent : .leaf (.reference name) ∉ engine.program) :
    ∀ element ∈ engine.program, element.isReference = false := by
  intro element member
  match element with
  | .leaf (.reference other) => exact absurd (refers other member ▸ member) absent
  | .leaf (.operand _) | .leaf (.constant _ _) | .unary _ | .binary _ => rfl

namespace Calculator

/-! ## Restoring -/

theorem press_restore_of_save (calculator : Calculator) {later : List Action}
    (kept : ∀ action ∈ later, action ≠ .save) :
    ((calculator.press .save).pressAll later).press .restore =
      ((calculator.press .save).pressAll later).issue
        [.load calculator.engine.transcript, .evaluate] := by
  have saved : ((calculator.press .save).pressAll later).saved =
      some calculator.engine.transcript :=
    pressAll_saved kept
  exact press_restore saved

/-- Saving, then doing anything but saving again, then restoring gives back the program without its
references to the memory, and its history. A program without such references is given back whole,
with its history. If only the last expression is without them, its value or error is given back,
whatever has become of the memory. -/
theorem restore_of_save (earlier : List Action) {later : List Action}
    (kept : ∀ action ∈ later, action ≠ .save) :
    let before := new.pressAll earlier
    let after := ((before.press .save).pressAll later).press .restore
    after.engine.program = before.engine.program.withoutReferences ∧
    after.history = after.engine.program.history ∧
    (.leaf (.reference memoryName) ∉ before.engine.program →
      after.engine.program = before.engine.program ∧ after.history = before.history) ∧
    ∀ (expression : Expression) (rest : Program),
      before.engine.program.EndsIn expression rest →
      .reference memoryName ∉ expression.leaves →
      after.engine.evaluate = before.engine.evaluate := by
  intro before after
  have pressed : after = ((before.press .save).pressAll later).issue
      [.load before.engine.transcript, .evaluate] :=
    press_restore_of_save before kept
  have program : after.engine.program = before.engine.program.withoutReferences := by
    rw [pressed, issue_engine]
    exact Program.ofTranscript_transcript (reachable_pressAll earlier).isEnterable
  have refers : before.engine.RefersOnlyTo memoryName := refersOnlyTo_pressAll earlier
  have history : before.history = before.engine.program.history :=
    (mirrorsEngine_pressAll earlier).history
  have restored : after.history = after.engine.program.history := by
    rw [pressed]
    rfl
  refine ⟨program, restored, ?_, ?_⟩
  · intro absent
    have whole : after.engine.program = before.engine.program := by
      rw [program, Program.withoutReferences_eq_self (refers.isReference_eq_false absent)]
    exact ⟨whole, by rw [restored, whole, history]⟩
  · intro expression rest ends absent
    -- The last expression has no variable at all, because the memory would be the only one.
    have unreferenced : ∀ name, .reference name ∉ expression.leaves := by
      intro name member
      have entered : .leaf (.reference name) ∈ before.engine.program := by
        rw [ends.append_elements]
        exact List.mem_append_right _ (Expression.mem_elements_of_mem_leaves member)
      exact absurd (refers name entered ▸ member) absent
    have endsAfter := ends.withoutReferences unreferenced
    rw [← program] at endsAfter
    rw [Engine.evaluate, Engine.evaluate, endsAfter.evaluate_eq, ends.evaluate_eq]
    exact Expression.interpret_cells_eq_of_eq_on
      fun name member => absurd member (unreferenced name)

theorem restore_of_save_of_sum :
    ((((new.pressAll [.digit "1", .enter, .digit "2", .operation "+"]).press .save).pressAll
      [.clear, .digit "7", .enter]).press .restore).history = "1+2=" := by
  have kept : ∀ action ∈ [Action.clear, .digit "7", .enter], action ≠ .save := by
    simp
  have absent : .leaf (.reference memoryName) ∉
      (new.pressAll [.digit "1", .enter, .digit "2", .operation "+"]).engine.program := by
    have plain : (new.pressAll [.digit "1", .enter, .digit "2", .operation "+"]).engine.program.all
        (fun element => !element.isReference) = true := by
      decide +kernel
    exact fun member => absurd (List.all_eq_true.mp plain _ member) Bool.false_ne_true
  have restored := ((restore_of_save [.digit "1", .enter, .digit "2", .operation "+"] kept).2.2.1
    absent).2
  rw [restored]
  decide +kernel

/-- A reference to the memory is not restored, although the memory keeps its value. -/
theorem restore_loses_memory :
    let before := new.pressAll [.digit "5", .storeMemory, .recallMemory]
    let after := (before.press .save).press .restore
    before.engine.transcript = ["M"] ∧ after.engine.transcript = [] ∧
    before.history = "M" ∧ after.history = Program.emptyHistory ∧
    before.engine.bindings.get? memoryName = some 5 ∧
      after.engine.bindings.get? memoryName = some 5 ∧
    before.engine.result? = some 5 ∧ after.engine.result? = none := by
  decide +kernel

end Calculator

end RpnCalculator
