import RpnCalculator.Expression
import RpnCalculator.Program.Evaluation
import RpnCalculator.Program.History

/-! The evaluator and the history read a program from its end, each by a recursion of its own. Both
stop where `Program.EndsIn` says, and what they give is an interpretation of the expression found.
-/

namespace RpnCalculator

/-! ## Values -/

/-- Values or errors. An error of the right operand comes before one of the left. -/
def cells (bindings : Bindings) : Interpretation (Except EvalError Float) where
  missing := .error .insufficient
  leaf
    | .operand value => .ok value
    | .reference name => (bindings.get? name).elim (.error (.unbound name)) .ok
    | .constant _ value => .ok value
  unary operation
    | .ok argument => .ok (operation.apply argument)
    | .error error => .error error
  binary operation
    | _, .error error => .error error
    | .error error, .ok _ => .error error
    | .ok left, .ok right => .ok (operation.apply right left)

theorem Leaf.evaluate_eq_cells (bindings : Bindings) (leaf : Leaf) :
    leaf.evaluate bindings = (cells bindings).leaf leaf := by
  cases leaf with
  | operand value => rfl
  | reference name =>
      simp only [Leaf.evaluate, cells]
      cases bindings.get? name <;> rfl
  | constant name value => rfl

namespace Expression

theorem interpret_cells_eq_of_eq_on {bindings other : Bindings} {expression : Expression}
    (equal : ∀ name, .reference name ∈ expression.leaves → bindings.get? name = other.get? name) :
    expression.interpret (cells bindings) = expression.interpret (cells other) := by
  induction expression with
  | missing => rfl
  | leaf item =>
      cases item with
      | operand | constant => rfl
      | reference name => simp only [interpret, cells, equal name (List.mem_singleton_self _)]
  | unary operation argument induction =>
      rw [interpret, interpret, induction equal]
      rfl
  | binary operation left right leftInduction rightInduction =>
      rw [interpret, interpret, leftInduction fun name member =>
        equal name (List.mem_append_left _ member), rightInduction fun name member =>
        equal name (List.mem_append_right _ member)]
      rfl

end Expression

namespace Program.EndsIn

variable {program rest : Program} {expression : Expression}

theorem evaluateLast_eq (ends : program.EndsIn expression rest) (bindings : Bindings) :
    program.evaluateLast bindings =
      (expression.interpret (cells bindings)).map fun value => (value, rest) := by
  induction ends with
  | missing => exact evaluateLast_nil bindings
  | leaf rest item => rw [evaluateLast_concat_leaf, Leaf.evaluate_eq_cells]; rfl
  | @unary program rest argument operation ends induction =>
      rw [evaluateLast_concat_unary, induction, Expression.interpret]
      cases argument.interpret (cells bindings) <;> rfl
  | @binary program between rest left right operation rightEnds leftEnds rightInduction
      leftInduction =>
      rw [evaluateLast_concat_binary, rightInduction, Expression.interpret]
      cases right.interpret (cells bindings) with
      | error error => rfl
      | ok rightValue =>
          simp only [Except.map, Except.bind, leftInduction]
          cases left.interpret (cells bindings) <;> rfl

theorem evaluate_eq (ends : program.EndsIn expression rest) (bindings : Bindings) :
    program.evaluate bindings = expression.interpret (cells bindings) := by
  rw [evaluate, ends.evaluateLast_eq bindings]
  cases expression.interpret (cells bindings) <;> rfl

end Program.EndsIn

namespace Program

theorem evaluate_eq_of_closed {program : Program} (bindings other : Bindings)
    (closed : ∀ name, .leaf (.reference name) ∉ program) :
    program.evaluate bindings = program.evaluate other := by
  rcases endsIn_exists program with ⟨expression, rest, ends⟩
  rw [ends.evaluate_eq, ends.evaluate_eq]
  apply Expression.interpret_cells_eq_of_eq_on
  intro name member
  refine absurd ?_ (closed name)
  rw [ends.append_elements]
  exact List.mem_append_right _ (Expression.mem_elements_of_mem_leaves member)

end Program

/-! ## Texts -/

namespace Expression

def precedence : Expression → Int
  | .binary operation _ _ => operation.precedence
  | _ => tightest

def text : Expression → String
  | .missing => "?"
  | .leaf item => item.text
  | .unary operation argument => operation.symbol ++ ("(" ++ argument.text ++ ")")
  | .binary operation left right =>
    (if left.precedence < operation.precedence then "(" ++ left.text ++ ")" else left.text) ++
      operation.symbol ++
      if right.precedence < operation.precedence ∨ (right.precedence = operation.precedence ∧
          (operation.symbol = "-" ∨ operation.symbol = "÷")) then
        "(" ++ right.text ++ ")"
      else right.text

end Expression

def renderings : Interpretation Rendering where
  missing := .missing
  leaf := .ofLeaf
  unary := .ofUnary
  binary := .ofBinary

theorem Rendering.regroups_eq_false_iff {symbol : String} :
    regroups symbol = false ↔ symbol = "-" ∨ symbol = "÷" := by
  simp only [regroups, Bool.and_eq_false_iff, bne_eq_false_iff_eq]

theorem Expression.interpret_renderings (expression : Expression) :
    expression.interpret renderings = ⟨expression.text, expression.precedence⟩ := by
  induction expression with
  | missing => rfl
  | leaf item => rfl
  | unary operation argument induction => rw [interpret, induction]; rfl
  | binary operation left right leftInduction rightInduction =>
      rw [interpret, leftInduction, rightInduction]
      simp only [renderings, Rendering.ofBinary, Rendering.asLeftOf, Rendering.asRightOf,
        Rendering.enclosed, Rendering.regroups_eq_false_iff, text]
      rfl

namespace Program.EndsIn

variable {program rest : Program} {expression : Expression}

/-- The history has the text of the last expression, and stops where the evaluator does. -/
theorem renderLast_eq (ends : program.EndsIn expression rest) :
    program.renderLast = (⟨expression.text, expression.precedence⟩, rest) := by
  rw [← expression.interpret_renderings]
  induction ends with
  | missing => exact renderLast_nil
  | leaf rest item => exact renderLast_concat_leaf rest item
  | unary operation ends induction => rw [renderLast_concat_unary, induction]; rfl
  | binary operation rightEnds leftEnds rightInduction leftInduction =>
      rw [renderLast_concat_binary, rightInduction, leftInduction]
      rfl

theorem pieces_eq (ends : program.EndsIn expression rest) (nonempty : program ≠ []) :
    program.pieces = rest.pieces ++ [expression.text] := by
  rw [pieces_of_ne_nil nonempty, ends.renderLast_eq]

end Program.EndsIn

end RpnCalculator
