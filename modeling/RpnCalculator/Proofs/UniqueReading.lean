import RpnCalculator.Proofs.LastExpression

/-! Unique readability: a program can be split in one way only into a complete expression at its end
and the elements before it, and both the evaluator and the history split it so. -/

namespace RpnCalculator

namespace Expression

def IsBound (bindings : Bindings) (expression : Expression) : Prop :=
  ∀ name, .reference name ∈ expression.leaves → (bindings.get? name).isSome

def value? (bindings : Bindings) : Expression → Option Float
  | .missing => none
  | .leaf (.operand value) => some value
  | .leaf (.reference name) => bindings.get? name
  | .leaf (.constant _ value) => some value
  | .unary operation argument => (argument.value? bindings).map operation.apply
  | .binary operation left right =>
    match right.value? bindings, left.value? bindings with
    | some right, some left => some (operation.apply right left)
    | _, _ => none

theorem toOption_interpret_cells (bindings : Bindings) (expression : Expression) :
    (expression.interpret (cells bindings)).toOption = expression.value? bindings := by
  induction expression with
  | missing => rfl
  | leaf item =>
      cases item with
      | operand value => rfl
      | reference name =>
          simp only [interpret, cells, value?]
          cases bindings.get? name <;> rfl
      | constant name value => rfl
  | unary operation argument induction =>
      rw [value?, ← induction, interpret]
      cases argument.interpret (cells bindings) <;> rfl
  | binary operation left right leftInduction rightInduction =>
      rw [value?, ← leftInduction, ← rightInduction, interpret]
      cases right.interpret (cells bindings) <;> cases left.interpret (cells bindings) <;> rfl

theorem interpret_cells_eq_ok_iff {bindings : Bindings} {expression : Expression} {value : Float} :
    expression.interpret (cells bindings) = .ok value ↔ expression.value? bindings = some value := by
  rw [← toOption_interpret_cells]
  cases expression.interpret (cells bindings) <;> simp [Except.toOption]

theorem isSome_value?_iff {bindings : Bindings} {expression : Expression} :
    (expression.value? bindings).isSome ↔
      expression.IsComplete ∧ expression.IsBound bindings := by
  induction expression with
  | missing => simp [value?, IsComplete]
  | leaf item => cases item <;> simp [value?, IsComplete, IsBound, leaves]
  | unary operation argument induction =>
      rw [value?, Option.isSome_map, induction]
      rfl
  | binary operation left right leftInduction rightInduction =>
      have both : (value? bindings (.binary operation left right)).isSome ↔
          (left.value? bindings).isSome ∧ (right.value? bindings).isSome := by
        rw [value?]
        cases right.value? bindings <;> cases left.value? bindings <;> simp
      have bound : IsBound bindings (.binary operation left right) ↔
          left.IsBound bindings ∧ right.IsBound bindings := by
        simp only [IsBound, leaves, List.mem_append, or_imp, forall_and]
      rw [both, leftInduction, rightInduction, bound, IsComplete]
      exact and_and_and_comm

end Expression

namespace Program

theorem EndsIn.evaluateLast_eq_ok_iff {program before rest : Program} {expression : Expression}
    {bindings : Bindings} {value : Float} (ends : program.EndsIn expression before) :
    program.evaluateLast bindings = .ok (value, rest) ↔
      expression.value? bindings = some value ∧ before = rest := by
  rw [ends.evaluateLast_eq bindings, ← Expression.interpret_cells_eq_ok_iff]
  cases expression.interpret (cells bindings) <;> simp [Except.map]

/-- Evaluation gives a value and leaves `rest` over if and only if the program is `rest` followed
by the elements of a complete expression whose variables are bound. There is no other such split;
the value is that of the expression, and the history ends in the text of the same expression,
after the pieces of `rest`. -/
theorem evaluateLast_splits_uniquely (program rest : Program) (bindings : Bindings) :
    ((∃ value, program.evaluateLast bindings = .ok (value, rest)) ↔
      ∃ expression : Expression, expression.IsComplete ∧ expression.IsBound bindings ∧
        program = rest ++ expression.elements) ∧
    ∀ expression : Expression, expression.IsComplete → program = rest ++ expression.elements →
      (∀ (other : Expression) (otherRest : Program), other.IsComplete →
        program = otherRest ++ other.elements → other = expression ∧ otherRest = rest) ∧
      (∀ value, program.evaluateLast bindings = .ok (value, rest) ↔
        expression.value? bindings = some value) ∧
      program.renderLast = (⟨expression.text, expression.precedence⟩, rest) ∧
      program.pieces = rest.pieces ++ [expression.text] := by
  constructor
  · constructor
    · rintro ⟨value, evaluated⟩
      rcases endsIn_exists program with ⟨expression, before, ends⟩
      rcases ends.evaluateLast_eq_ok_iff.mp evaluated with ⟨valued, same⟩
      have parts := Expression.isSome_value?_iff.mp (Option.isSome_of_eq_some valued)
      exact ⟨expression, parts.1, parts.2, same ▸ ends.append_elements⟩
    · rintro ⟨expression, complete, bound, split⟩
      have ends := endsIn_append_elements complete rest
      rw [← split] at ends
      rcases Option.isSome_iff_exists.mp (Expression.isSome_value?_iff.mpr ⟨complete, bound⟩)
        with ⟨value, valued⟩
      exact ⟨value, ends.evaluateLast_eq_ok_iff.mpr ⟨valued, rfl⟩⟩
  · intro expression complete split
    have ends := endsIn_append_elements complete rest
    rw [← split] at ends
    refine ⟨?_, ?_, ends.renderLast_eq, ?_⟩
    · intro other otherRest otherComplete otherSplit
      have otherEnds := endsIn_append_elements otherComplete otherRest
      rw [← otherSplit] at otherEnds
      exact otherEnds.unique ends
    · intro value
      simp only [ends.evaluateLast_eq_ok_iff, and_true]
    · apply ends.pieces_eq
      intro empty
      rw [empty] at split
      exact Expression.elements_ne_nil complete (List.append_eq_nil_iff.mp split.symm).2

theorem evaluateLast_splits_uniquely_of_sum :
    pieces [.leaf (.operand 1), .leaf (.operand 2), .leaf (.operand 3), .binary Catalogue.plus] =
      pieces [.leaf (.operand 1)] ++ ["2+3"] := by
  have complete : Expression.IsComplete
      (.binary Catalogue.plus (.leaf (.operand 2)) (.leaf (.operand 3))) := ⟨trivial, trivial⟩
  have split := (evaluateLast_splits_uniquely _ [.leaf (.operand 1)] .empty).2 _ complete rfl
  have text : Expression.text
      (.binary Catalogue.plus (.leaf (.operand 2)) (.leaf (.operand 3))) = "2+3" := by
    decide +kernel
  exact text ▸ split.2.2.2

end Program

end RpnCalculator
