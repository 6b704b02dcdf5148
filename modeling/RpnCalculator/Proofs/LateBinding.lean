import RpnCalculator.Proofs.Calculator.Commands
import RpnCalculator.Proofs.Calculator.Screen
import RpnCalculator.Proofs.Weight

/-! A variable is looked up when the program is evaluated. So to bind it comes to the same as to put
the value in the place of every reference to it, in the program that is evaluated and in what the
evaluation leaves over. -/

namespace RpnCalculator

/-! ## Substitution -/

def Leaf.substitute (name : String) (value : Float) : Leaf → Leaf
  | .reference other => if other = name then .operand value else .reference other
  | item => item

def Element.substitute (name : String) (value : Float) : Element → Element
  | .leaf item => .leaf (item.substitute name value)
  | operation => operation

def Program.substitute (program : Program) (name : String) (value : Float) : Program :=
  program.map (Element.substitute name value)

example : (Program.substitute [.leaf (.reference "M"), .leaf (.reference "x"),
    .binary Catalogue.plus] "M" 3).transcript = ["3", "x", "+"] := by decide +kernel

def Expression.substitute (name : String) (value : Float) : Expression → Expression
  | .missing => .missing
  | .leaf item => .leaf (item.substitute name value)
  | .unary operation argument => .unary operation (argument.substitute name value)
  | .binary operation left right =>
    .binary operation (left.substitute name value) (right.substitute name value)

variable {name : String} {value : Float}

namespace Leaf

theorem substitute_eq_self {item : Leaf} (other : item ≠ .reference name) :
    item.substitute name value = item := by
  cases item with
  | operand | constant => rfl
  | reference otherName =>
      have different : otherName ≠ name := fun same => other (same ▸ rfl)
      rw [substitute, if_neg different]

theorem cell_substitute (item : Leaf) (bindings : Bindings) :
    (cells bindings).leaf (item.substitute name value) =
      (cells (bindings.set name value)).leaf item := by
  cases item with
  | operand | constant => rfl
  | reference other =>
      rw [substitute]
      by_cases same : other = name
      · simp only [cells, Bindings.get?_set, if_pos same, Option.elim_some]
      · simp only [cells, Bindings.get?_set, if_neg same]

theorem substitute_eq_reference_iff {item : Leaf} {other : String} :
    item.substitute name value = .reference other ↔ item = .reference other ∧ other ≠ name := by
  cases item with
  | operand | constant => simp [substitute]
  | reference itself =>
      rw [substitute]
      split
      · next same => simp [same, eq_comm]
      · next different =>
        refine ⟨fun kept => ⟨kept, ?_⟩, And.left⟩
        rintro rfl
        exact different (Leaf.reference.inj kept)

end Leaf

namespace Expression

theorem interpret_cells_substitute (expression : Expression) (bindings : Bindings) :
    (expression.substitute name value).interpret (cells bindings) =
      expression.interpret (cells (bindings.set name value)) := by
  induction expression with
  | missing => rfl
  | leaf item => exact item.cell_substitute bindings
  | unary operation argument induction =>
      rw [substitute, interpret, induction]
      rfl
  | binary operation left right leftInduction rightInduction =>
      rw [substitute, interpret, leftInduction, rightInduction]
      rfl

end Expression

namespace Program

theorem substitute_concat (program : Program) (element : Element) :
    (program ++ [element]).substitute name value =
      program.substitute name value ++ [element.substitute name value] :=
  List.map_append

theorem substitute_eq_self {program : Program} (absent : .leaf (.reference name) ∉ program) :
    program.substitute name value = program := by
  refine (List.map_congr_left fun element member => ?_).trans (List.map_id program)
  cases element with
  | leaf item =>
      have other : item ≠ .reference name := fun same => absent (same ▸ member)
      rw [Element.substitute, Leaf.substitute_eq_self other]
      rfl
  | unary | binary => rfl

theorem reference_mem_substitute_iff {program : Program} {other : String} :
    .leaf (.reference other) ∈ program.substitute name value ↔
      .leaf (.reference other) ∈ program ∧ other ≠ name := by
  constructor
  · intro member
    rcases List.mem_map.mp member with ⟨element, before, replaced⟩
    cases element with
    | unary | binary => exact Element.noConfusion replaced
    | leaf item =>
        rcases Leaf.substitute_eq_reference_iff.mp (Element.leaf.inj replaced) with ⟨rfl, different⟩
        exact ⟨before, different⟩
  · rintro ⟨member, different⟩
    refine List.mem_map.mpr ⟨_, member, ?_⟩
    rw [Element.substitute, Leaf.substitute_eq_reference_iff.mpr ⟨rfl, different⟩]

namespace EndsIn

variable {program rest : Program} {expression : Expression}

theorem substitute (ends : program.EndsIn expression rest) (name : String) (value : Float) :
    (program.substitute name value).EndsIn (expression.substitute name value)
      (rest.substitute name value) := by
  induction ends with
  | missing => exact .missing
  | leaf rest item =>
      rw [substitute_concat]
      exact .leaf _ _
  | unary operation ends induction =>
      rw [substitute_concat]
      exact .unary operation induction
  | binary operation rightEnds leftEnds rightInduction leftInduction =>
      rw [substitute_concat]
      exact .binary operation rightInduction leftInduction

theorem of_elements (ends : program.EndsIn expression rest) :
    expression.elements.EndsIn expression [] := by
  rcases ends.isComplete_or with complete | rfl
  · exact endsIn_append_elements complete []
  · have whole : program = expression.elements := ends.append_elements
    exact whole ▸ ends

end EndsIn

theorem evaluateLast_substitute (program : Program) (bindings : Bindings) (name : String)
    (value : Float) :
    (program.substitute name value).evaluateLast bindings =
      (program.evaluateLast (bindings.set name value)).map fun (result, rest) =>
        (result, rest.substitute name value) := by
  rcases endsIn_exists program with ⟨expression, rest, ends⟩
  rw [(ends.substitute name value).evaluateLast_eq, ends.evaluateLast_eq,
    expression.interpret_cells_substitute]
  cases expression.interpret (cells (bindings.set name value)) <;> rfl

theorem evaluate_substitute (program : Program) (bindings : Bindings) (name : String)
    (value : Float) :
    (program.substitute name value).evaluate bindings =
      program.evaluate (bindings.set name value) := by
  rw [evaluate, evaluateLast_substitute, evaluate]
  cases program.evaluateLast (bindings.set name value) <;> rfl

end Program

/-! ## Engine -/

namespace Engine

variable {engine : Engine} {expression : Expression} {rest : Program}

theorem evaluate_bind (ends : engine.program.EndsIn expression rest) (name : String)
    (value : Float) :
    (engine.apply (.bind name value)).evaluate =
      (expression.elements.substitute name value).evaluate engine.bindings := by
  have bound : (engine.apply (.bind name value)).evaluate =
      engine.program.evaluate (engine.bindings.set name value) := rfl
  rw [bound, Program.evaluate_substitute, ends.evaluate_eq, ends.of_elements.evaluate_eq]

end Engine

namespace Calculator

/-- What the calculator shows once the memory has been stored: the value of its program, as it is
when every reference to the memory is replaced by the number on the display. -/
theorem storeMemory_shows {calculator : Calculator} {value : Float}
    (displayed : calculator.displayed? = some value) :
    let shown := (calculator.engine.program.substitute memoryName value).evaluate
      calculator.engine.bindings
    (calculator.press .storeMemory).engine.evaluate = shown ∧
      (calculator.press .storeMemory).display = resultText shown.toOption := by
  rw [press_storeMemory displayed, Program.evaluate_substitute]
  exact ⟨rfl, rfl⟩

theorem evaluate_substitute_memory (actions : List Action) (value : Float)
    (bindings other : Bindings) :
    ((new.pressAll actions).engine.program.substitute memoryName value).evaluate bindings =
      ((new.pressAll actions).engine.program.substitute memoryName value).evaluate other := by
  apply Program.evaluate_eq_of_closed
  intro name member
  rcases Program.reference_mem_substitute_iff.mp member with ⟨entered, different⟩
  exact different (refersOnlyTo_pressAll actions name entered)

/-- To bind a variable comes to the same as to put its value in the place of the references to it:
the same value or the same error, and the same elements left over. Only the references in the last
expression bear on the result, and there is no change if it has none. So what the calculator shows
once the memory is stored is the value of its program with the stored number in the place of the
memory, for which it does not matter any more what else is bound. -/
theorem late_binding_eq_substitution :
    (∀ (program : Program) (bindings : Bindings) (name : String) (value : Float),
      (program.substitute name value).evaluateLast bindings =
        (program.evaluateLast (bindings.set name value)).map fun (result, rest) =>
          (result, rest.substitute name value)) ∧
    (∀ (engine : Engine) (expression : Expression) (rest : Program) (name : String) (value : Float),
      engine.program.EndsIn expression rest →
      (engine.apply (.bind name value)).evaluate =
        (expression.elements.substitute name value).evaluate engine.bindings ∧
      (.leaf (.reference name) ∉ expression.elements →
        (engine.apply (.bind name value)).evaluate = engine.evaluate)) ∧
    (∀ (calculator : Calculator) (value : Float), calculator.displayed? = some value →
      let after := calculator.press .storeMemory
      let shown := (calculator.engine.program.substitute memoryName value).evaluate
        calculator.engine.bindings
      after.engine.program = calculator.engine.program ∧ after.engine.evaluate = shown ∧
        after.display = resultText shown.toOption) ∧
    ∀ (actions : List Action) (value : Float) (bindings other : Bindings),
      let program := (new.pressAll actions).engine.program.substitute memoryName value
      program.evaluate bindings = program.evaluate other := by
  refine ⟨Program.evaluateLast_substitute, ?_, ?_, evaluate_substitute_memory⟩
  · intro engine expression rest name value ends
    have bound := Engine.evaluate_bind ends name value
    refine ⟨bound, fun absent => ?_⟩
    rw [bound, Program.substitute_eq_self absent, Engine.evaluate, ends.evaluate_eq,
      ends.of_elements.evaluate_eq]
  · intro calculator value displayed
    refine ⟨?_, storeMemory_shows displayed⟩
    rw [press_storeMemory displayed]
    rfl

theorem late_binding_eq_substitution_of_product :
    ((new.pressAll [.recallMemory, .digit "2", .operation "×", .digit "9"]).press
      .storeMemory).display = "18" := by
  have displayed : (new.pressAll
      [.recallMemory, .digit "2", .operation "×", .digit "9"]).displayed? = some 9 := by
    decide +kernel
  have shown := (late_binding_eq_substitution.2.2.1 _ 9 displayed).2.2
  rw [shown]
  decide +kernel

end Calculator

end RpnCalculator
