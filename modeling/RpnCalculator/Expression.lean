import RpnCalculator.Program.StackMachine

/-! Expressions: trees of leaves and operations, in which an operand may be missing. A program ends
in one of them: an operation takes first its right operand, then its left one, from the end of what
was entered before it. `Program.EndsIn` says so rule by rule, without a value of any kind; whatever
else reads a program from its end is compared with it. -/

namespace RpnCalculator

inductive Expression where
  | missing
  | leaf (leaf : Leaf)
  | unary (operation : UnaryOperation) (argument : Expression)
  | binary (operation : BinaryOperation) (left right : Expression)

namespace Expression

def elements : Expression → Program
  | .missing => []
  | .leaf item => [.leaf item]
  | .unary operation argument => argument.elements ++ [.unary operation]
  | .binary operation left right => left.elements ++ right.elements ++ [.binary operation]

def leaves : Expression → List Leaf
  | .missing => []
  | .leaf item => [item]
  | .unary _ argument => argument.leaves
  | .binary _ left right => left.leaves ++ right.leaves

def IsComplete : Expression → Prop
  | .missing => False
  | .leaf _ => True
  | .unary _ argument => argument.IsComplete
  | .binary _ left right => left.IsComplete ∧ right.IsComplete

def interpret {Value : Type} (interpretation : Interpretation Value) : Expression → Value
  | .missing => interpretation.missing
  | .leaf item => interpretation.leaf item
  | .unary operation argument => interpretation.unary operation (argument.interpret interpretation)
  | .binary operation left right =>
    interpretation.binary operation (left.interpret interpretation)
      (right.interpret interpretation)

def tree : Interpretation Expression where
  missing := .missing
  leaf := .leaf
  unary := .unary
  binary := .binary

theorem interpret_tree (expression : Expression) : expression.interpret tree = expression := by
  induction expression with
  | missing => rfl
  | leaf item => rfl
  | unary operation argument induction => rw [interpret, induction]; rfl
  | binary operation left right leftInduction rightInduction =>
      rw [interpret, leftInduction, rightInduction]; rfl

theorem elements_ne_nil {expression : Expression} (complete : expression.IsComplete) :
    expression.elements ≠ [] := by
  cases expression with
  | missing => exact complete.elim
  | leaf item => exact List.cons_ne_nil _ _
  | unary operation argument => simp [elements]
  | binary operation left right => simp [elements]

theorem mem_elements_of_mem_leaves {expression : Expression} {item : Leaf}
    (member : item ∈ expression.leaves) : .leaf item ∈ expression.elements := by
  induction expression with
  | missing => exact absurd member List.not_mem_nil
  | leaf other => rw [List.mem_singleton.mp member]; exact List.mem_singleton_self _
  | unary operation argument induction => exact List.mem_append_left _ (induction member)
  | binary operation left right leftInduction rightInduction =>
      refine List.mem_append_left _ (List.mem_append.mpr ?_)
      exact (List.mem_append.mp member).imp leftInduction rightInduction

end Expression

namespace Program

/-- `program.EndsIn expression rest`: the last expression of the program, and the elements
before it. The empty program ends in a missing operand. -/
inductive EndsIn : Program → Expression → Program → Prop
  | missing : EndsIn [] .missing []
  | leaf (rest : Program) (item : Leaf) : EndsIn (rest ++ [.leaf item]) (.leaf item) rest
  | unary {program rest : Program} {argument : Expression} (operation : UnaryOperation) :
      EndsIn program argument rest →
      EndsIn (program ++ [.unary operation]) (.unary operation argument) rest
  | binary {program between rest : Program} {left right : Expression}
      (operation : BinaryOperation) :
      EndsIn program right between →
      EndsIn between left rest →
      EndsIn (program ++ [.binary operation]) (.binary operation left right) rest

namespace EndsIn

variable {program rest : Program} {expression : Expression}

theorem append_elements (ends : program.EndsIn expression rest) :
    program = rest ++ expression.elements := by
  induction ends with
  | missing => rfl
  | leaf rest item => rfl
  | unary operation ends induction => rw [induction, Expression.elements, List.append_assoc]
  | binary operation rightEnds leftEnds rightInduction leftInduction =>
      rw [rightInduction, leftInduction, Expression.elements, List.append_assoc,
        List.append_assoc, List.append_assoc]

theorem pop_run {Value : Type} (interpretation : Interpretation Value)
    (ends : program.EndsIn expression rest) :
    interpretation.pop (interpretation.run program) =
      (expression.interpret interpretation, interpretation.run rest) := by
  induction ends with
  | missing => rfl
  | leaf rest item => rw [Interpretation.run_concat]; rfl
  | unary operation ends induction =>
      rw [Interpretation.run_concat]
      simp only [Interpretation.step, induction, Interpretation.pop_cons]
      rfl
  | binary operation rightEnds leftEnds rightInduction leftInduction =>
      rw [Interpretation.run_concat]
      simp only [Interpretation.step, rightInduction, leftInduction, Interpretation.pop_cons]
      rfl

theorem length_lt (ends : program.EndsIn expression rest) (nonempty : program ≠ []) :
    rest.length < program.length := by
  cases ends with
  | missing => exact absurd rfl nonempty
  | leaf rest item => simp
  | unary operation ends => grind [ends.append_elements]
  | binary operation rightEnds leftEnds =>
      grind [rightEnds.append_elements, leftEnds.append_elements]

theorem unique {other : Expression} {otherRest : Program}
    (ends : program.EndsIn expression rest) (otherEnds : program.EndsIn other otherRest) :
    expression = other ∧ rest = otherRest := by
  have popped := (ends.pop_run Expression.tree).symm.trans (otherEnds.pop_run Expression.tree)
  rw [Expression.interpret_tree, Expression.interpret_tree] at popped
  have same := (Prod.mk.inj popped).1
  subst same
  exact ⟨rfl, List.append_cancel_right (ends.append_elements.symm.trans otherEnds.append_elements)⟩

end EndsIn

theorem endsIn_exists (program : Program) :
    ∃ expression rest, program.EndsIn expression rest := by
  induction length : program.length using Nat.strongRecOn generalizing program with
  | _ _ induction =>
      rcases List.eq_nil_or_concat program with empty | ⟨older, element, concat⟩
      · subst empty
        exact ⟨_, _, .missing⟩
      · rw [List.concat_eq_append] at concat
        subst concat
        rw [List.length_append, List.length_singleton] at length
        rcases induction older.length (by omega) older rfl with ⟨right, between, rightEnds⟩
        cases element with
        | leaf item => exact ⟨_, _, .leaf older item⟩
        | unary operation => exact ⟨_, _, .unary operation rightEnds⟩
        | binary operation =>
            have olderLength := congrArg List.length rightEnds.append_elements
            rw [List.length_append] at olderLength
            rcases induction between.length (by omega) between rfl with ⟨left, rest, leftEnds⟩
            exact ⟨_, _, .binary operation rightEnds leftEnds⟩

theorem induction_on_last {motive : Program → Prop} (nil : motive [])
    (last : ∀ (program rest : Program) (expression : Expression), program ≠ [] →
      program.EndsIn expression rest → motive rest → motive program) (program : Program) :
    motive program := by
  induction length : program.length using Nat.strongRecOn generalizing program with
  | _ _ induction =>
      by_cases empty : program = []
      · exact empty ▸ nil
      · rcases endsIn_exists program with ⟨expression, rest, ends⟩
        exact last program rest expression empty ends
          (induction rest.length (length ▸ ends.length_lt empty) rest rfl)

/-- The elements of a complete expression denote it, whatever was entered before. -/
theorem endsIn_append_elements {expression : Expression} (complete : expression.IsComplete)
    (rest : Program) : EndsIn (rest ++ expression.elements) expression rest := by
  induction expression generalizing rest with
  | missing => exact complete.elim
  | leaf item => exact .leaf rest item
  | unary operation argument induction =>
      rw [Expression.elements, ← List.append_assoc]
      exact .unary operation (induction complete rest)
  | binary operation left right leftInduction rightInduction =>
      rw [Expression.elements, ← List.append_assoc, ← List.append_assoc]
      exact .binary operation (rightInduction complete.2 (rest ++ left.elements))
        (leftInduction complete.1 rest)

end Program

end RpnCalculator
