import RpnCalculator.Bindings
import RpnCalculator.Program

/-! The value of a program, found from its end. An operation takes first its right operand, then its
left one, from what was entered before it; the first error ends the evaluation. Variables are looked
up when the program is evaluated, not when they are entered. -/

namespace RpnCalculator

inductive EvalError where
  /-- An operation lacks an operand, or the program is empty. -/
  | insufficient
  | unbound (name : String)
  deriving DecidableEq, Repr

def EvalError.message : EvalError → String
  | .insufficient => "opérandes insuffisants"
  | .unbound name => "variable non définie : " ++ name

def Leaf.evaluate (bindings : Bindings) : Leaf → Except EvalError Float
  | .operand value => .ok value
  | .reference name =>
    match bindings.get? name with
    | some value => .ok value
    | none => .error (.unbound name)
  | .constant _ value => .ok value

namespace Program

/-! ## From the end

The functions of this section take a program newest element first. -/

/-- The value of the last expression, and the elements before it. -/
def descendValue (bindings : Bindings) : (newest : List Element) →
    Except EvalError (Float × { rest : List Element // rest.length < newest.length })
  | [] => .error .insufficient
  | .leaf leaf :: older =>
    match leaf.evaluate bindings with
    | .error error => .error error
    | .ok value => .ok (value, ⟨older, Nat.lt_succ_self _⟩)
  | .unary operation :: older =>
    match descendValue bindings older with
    | .error error => .error error
    | .ok (argument, ⟨rest, bound⟩) =>
      .ok (operation.apply argument, ⟨rest, by rw [List.length_cons]; omega⟩)
  | .binary operation :: older =>
    match descendValue bindings older with
    | .error error => .error error
    | .ok (right, ⟨between, betweenBound⟩) =>
      match descendValue bindings between with
      | .error error => .error error
      | .ok (left, ⟨rest, bound⟩) =>
        .ok (operation.apply right left, ⟨rest, by rw [List.length_cons]; omega⟩)
termination_by newest => newest.length
decreasing_by all_goals simp only [List.length_cons]; omega

/-- The value of the last expression, and the elements before it, without the bound on
their number. -/
def newestValue (bindings : Bindings) (newest : List Element) :
    Except EvalError (Float × List Element) :=
  (descendValue bindings newest).map fun (value, rest) => (value, rest.1)

variable (bindings : Bindings)

theorem newestValue_nil : newestValue bindings [] = .error .insufficient := by
  simp [newestValue, descendValue, Except.map]

theorem newestValue_leaf (leaf : Leaf) (older : List Element) :
    newestValue bindings (.leaf leaf :: older) =
      (leaf.evaluate bindings).map fun value => (value, older) := by
  simp only [newestValue, descendValue]
  cases leaf.evaluate bindings <;> rfl

theorem newestValue_unary (operation : UnaryOperation) (older : List Element) :
    newestValue bindings (.unary operation :: older) =
      (newestValue bindings older).map fun (argument, rest) =>
        (operation.apply argument, rest) := by
  simp only [newestValue, descendValue]
  cases descendValue bindings older <;> rfl

theorem newestValue_binary (operation : BinaryOperation) (older : List Element) :
    newestValue bindings (.binary operation :: older) =
      (newestValue bindings older).bind fun (right, between) =>
        (newestValue bindings between).map fun (left, rest) =>
          (operation.apply right left, rest) := by
  simp only [newestValue, descendValue]
  cases descendValue bindings older with
  | error error => rfl
  | ok right =>
      simp only [Except.map, Except.bind]
      cases descendValue bindings right.2.1 <;> rfl

/-! ## In the order of entry -/

def evaluateLast (program : Program) (bindings : Bindings) : Except EvalError (Float × Program) :=
  (newestValue bindings program.reverse).map fun (value, older) => (value, older.reverse)

def evaluate (program : Program) (bindings : Bindings) : Except EvalError Float :=
  (evaluateLast program bindings).map Prod.fst

theorem evaluateLast_nil : evaluateLast [] bindings = .error .insufficient := by
  rw [evaluateLast, List.reverse_nil, newestValue_nil]
  rfl

theorem evaluateLast_concat_leaf (program : Program) (leaf : Leaf) :
    evaluateLast (program ++ [.leaf leaf]) bindings =
      (leaf.evaluate bindings).map fun value => (value, program) := by
  rw [evaluateLast, List.reverse_concat, newestValue_leaf]
  cases leaf.evaluate bindings <;> simp [Except.map]

theorem evaluateLast_concat_unary (program : Program) (operation : UnaryOperation) :
    evaluateLast (program ++ [.unary operation]) bindings =
      (evaluateLast program bindings).map fun (argument, rest) =>
        (operation.apply argument, rest) := by
  rw [evaluateLast, List.reverse_concat, newestValue_unary, evaluateLast]
  cases newestValue bindings program.reverse <;> rfl

theorem evaluateLast_concat_binary (program : Program) (operation : BinaryOperation) :
    evaluateLast (program ++ [.binary operation]) bindings =
      (evaluateLast program bindings).bind fun (right, between) =>
        (evaluateLast between bindings).map fun (left, rest) =>
          (operation.apply right left, rest) := by
  rw [evaluateLast, List.reverse_concat, newestValue_binary, evaluateLast]
  cases newestValue bindings program.reverse with
  | error error => rfl
  | ok right =>
      simp only [Except.map, Except.bind, evaluateLast, List.reverse_reverse]
      cases newestValue bindings right.2 <;> rfl

theorem evaluate_concat_leaf (program : Program) (leaf : Leaf) :
    evaluate (program ++ [.leaf leaf]) bindings = leaf.evaluate bindings := by
  rw [evaluate, evaluateLast_concat_leaf]
  cases leaf.evaluate bindings <;> rfl

theorem evaluate_concat_unary (program : Program) (operation : UnaryOperation) :
    evaluate (program ++ [.unary operation]) bindings =
      (evaluate program bindings).map operation.apply := by
  rw [evaluate, evaluateLast_concat_unary, evaluate]
  cases evaluateLast program bindings <;> rfl

end Program

end RpnCalculator
