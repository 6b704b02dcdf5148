import RpnCalculator.Proofs.LastExpression

/-! Evaluation from the end of a program agrees with the stack machine, which goes through it once
in the order of entry and keeps errors on its stack beside values. -/

namespace RpnCalculator.Program

theorem EndsIn.ne_nil {program rest : Program} {expression : Expression} {value : Float}
    {bindings : Bindings} (ends : program.EndsIn expression rest)
    (evaluated : expression.interpret (cells bindings) = .ok value) : program ≠ [] := by
  cases ends with
  | missing => exact nomatch evaluated
  | leaf rest item => simp
  | unary operation ends => simp
  | binary operation rightEnds leftEnds => simp

theorem evaluate_concat_binary {program : Program} {bindings : Bindings} {left right : Float}
    {below : List (Except EvalError Float)} (operation : BinaryOperation)
    (stack : (cells bindings).run program = .ok right :: .ok left :: below) :
    (program ++ [Element.binary operation]).evaluate bindings = .ok (operation.apply right left) := by
  rcases endsIn_exists (program ++ [.binary operation]) with ⟨expression, rest, ends⟩
  have popped := ends.pop_run (cells bindings)
  rw [Interpretation.run_concat, stack] at popped
  rw [ends.evaluate_eq bindings]
  exact (Prod.mk.inj popped).1.symm

/-- A program has the value, or the error, on top of the stack that it leaves. What evaluation
leaves over is an initial part of the program, and the stack of that part is what lies below. A
subtraction or a division takes the earlier operand as its left one. -/
theorem evaluate_eq_top_of_stack (program : Program) (bindings : Bindings) :
    program.evaluate bindings = ((cells bindings).pop ((cells bindings).run program)).1 ∧
    (∀ value rest, program.evaluateLast bindings = .ok (value, rest) →
      rest <+: program ∧
        (cells bindings).run program = .ok value :: (cells bindings).run rest) ∧
    (∀ left right below, (cells bindings).run program = .ok right :: .ok left :: below →
      (program ++ [Element.binary Catalogue.minus]).evaluate bindings = .ok (left - right) ∧
        (program ++ [Element.binary Catalogue.divide]).evaluate bindings = .ok (left / right)) := by
  rcases endsIn_exists program with ⟨expression, before, ends⟩
  have popped := ends.pop_run (cells bindings)
  refine ⟨?_, ?_, ?_⟩
  · rw [popped, ends.evaluate_eq bindings]
  · intro value rest evaluated
    rw [ends.evaluateLast_eq bindings] at evaluated
    cases cell : expression.interpret (cells bindings) with
    | error error => rw [cell] at evaluated; exact nomatch evaluated
    | ok found =>
        rw [cell] at evaluated popped
        cases evaluated
        constructor
        · rw [ends.append_elements]
          exact List.prefix_append before expression.elements
        · exact Interpretation.run_eq_cons _ (ends.ne_nil cell) popped
  · intro left right below stack
    exact ⟨evaluate_concat_binary Catalogue.minus stack,
      evaluate_concat_binary Catalogue.divide stack⟩

theorem evaluate_eq_top_of_stack_of_division :
    evaluate [.leaf (.operand 1), .leaf (.operand 8), .leaf (.operand 2), .binary Catalogue.divide]
        .empty = .ok (8 / 2) ∧
    (cells .empty).run [.leaf (.operand 1), .leaf (.operand 8), .leaf (.operand 2),
        .binary Catalogue.divide] =
      .ok (8 / 2) :: (cells .empty).run [.leaf (.operand 1)] := by
  have complete : Expression.IsComplete
      (.binary Catalogue.divide (.leaf (.operand 8)) (.leaf (.operand 2))) := ⟨trivial, trivial⟩
  have ends := endsIn_append_elements complete [.leaf (.operand 1)]
  constructor
  · exact ((evaluate_eq_top_of_stack [.leaf (.operand 1), .leaf (.operand 8), .leaf (.operand 2)]
      .empty).2.2 8 2 [.ok 1] rfl).2
  · exact ((evaluate_eq_top_of_stack _ .empty).2.1 _ _ (ends.evaluateLast_eq .empty)).2

end RpnCalculator.Program
