import RpnCalculator.Proofs.LastExpression

/-! A history is made from the end of its program. The stack machine makes the same line from the
beginning: it keeps the text of every expression so far, with the precedence that decides on
parentheses, and an entered element changes only the newest of them. -/

namespace RpnCalculator

def enclosedIf (needed : Prop) [Decidable needed] (text : String) : String :=
  if needed then "(" ++ text ++ ")" else text

def captions : Interpretation (String × Int) where
  missing := ("?", tightest)
  leaf item := (item.text, tightest)
  unary operation argument := (operation.symbol ++ "(" ++ argument.1 ++ ")", tightest)
  binary operation left right :=
    (enclosedIf (left.2 < operation.precedence) left.1 ++ operation.symbol ++
        enclosedIf (right.2 < operation.precedence ∨ (right.2 = operation.precedence ∧
          (operation.symbol = "-" ∨ operation.symbol = "÷"))) right.1,
      operation.precedence)

theorem Expression.interpret_captions (expression : Expression) :
    expression.interpret captions = (expression.text, expression.precedence) := by
  induction expression with
  | missing => rfl
  | leaf item => rfl
  | unary operation argument induction =>
      rw [interpret, induction]
      simp only [captions, text, String.append_assoc]
      rfl
  | binary operation left right leftInduction rightInduction =>
      rw [interpret, leftInduction, rightInduction]
      rfl

/-! ## The texts on a stack -/

def captionTexts (stack : List (String × Int)) : List String := (stack.map Prod.fst).reverse

theorem captionTexts_cons (top : String × Int) (below : List (String × Int)) :
    captionTexts (top :: below) = captionTexts below ++ [top.1] := by
  rw [captionTexts, List.map_cons, List.reverse_cons, captionTexts]

theorem captionTexts_below (stack : List (String × Int)) :
    captionTexts (captions.pop stack).2 = (captionTexts stack).dropLast := by
  cases stack with
  | nil => rfl
  | cons top below => rw [captionTexts_cons, List.dropLast_concat, captions.pop_cons]

theorem captionTexts_popped (stack : List (String × Int)) :
    (captions.pop stack).1.1 = (captionTexts stack).getLastD "?" := by
  cases stack with
  | nil => rfl
  | cons top below => rw [captionTexts_cons, List.getLastD_concat, captions.pop_cons]

namespace Program

theorem pieces_eq_captionTexts (program : Program) :
    program.pieces = captionTexts (captions.run program) := by
  induction program using induction_on_last with
  | nil => exact pieces_nil
  | last program rest expression nonempty ends induction =>
      have popped := ends.pop_run captions
      rw [expression.interpret_captions] at popped
      rw [captions.run_eq_cons nonempty popped, captionTexts_cons, ← induction,
        ends.pieces_eq nonempty]

theorem pieces_concat_leaf (program : Program) (item : Leaf) :
    pieces (program ++ [.leaf item]) = program.pieces ++ [item.text] := by
  rw [pieces_eq_captionTexts, pieces_eq_captionTexts, captions.run_concat]
  exact captionTexts_cons _ _

theorem pieces_concat_unary (program : Program) (operation : UnaryOperation) :
    pieces (program ++ [.unary operation]) =
      program.pieces.dropLast ++
        [operation.symbol ++ "(" ++ program.pieces.getLastD "?" ++ ")"] := by
  rw [pieces_eq_captionTexts, pieces_eq_captionTexts, captions.run_concat,
    ← captionTexts_below, ← captionTexts_popped]
  exact captionTexts_cons _ _

theorem pieces_concat_binary (program : Program) (operation : BinaryOperation) :
    ∃ leftLoose rightLoose : Bool,
      pieces (program ++ [.binary operation]) =
        program.pieces.dropLast.dropLast ++
          [enclosedIf leftLoose (program.pieces.dropLast.getLastD "?") ++ operation.symbol ++
            enclosedIf rightLoose (program.pieces.getLastD "?")] := by
  let right := captions.pop (captions.run program)
  let left := captions.pop right.2
  refine ⟨decide (left.1.2 < operation.precedence),
    decide (right.1.2 < operation.precedence ∨ (right.1.2 = operation.precedence ∧
      (operation.symbol = "-" ∨ operation.symbol = "÷"))), ?_⟩
  rw [pieces_eq_captionTexts, pieces_eq_captionTexts, captions.run_concat,
    ← captionTexts_popped, ← captionTexts_below, ← captionTexts_popped, ← captionTexts_below]
  simp only [enclosedIf, decide_eq_true_eq]
  exact captionTexts_cons _ _

theorem endsInOperation_concat (program : Program) (element : Element) :
    endsInOperation (program ++ [element]) = !element.isLeaf := by
  rw [endsInOperation, List.getLast?_concat]

/-- The history is what the machine has written once it has gone through the program: the texts
on its stack, the oldest first, and an equals sign if the last entered element is an operation.
So a leaf leaves the earlier expressions as they are, a unary operation rewrites the newest one
only, and a binary operation merges the two newest. -/
theorem history_eq_written_forward (program : Program) :
    history [] = " " ∧
    (∀ element, history (program ++ [element]) =
      ", ".intercalate (captionTexts (captions.run (program ++ [element]))) ++
        if element.isLeaf then "" else "=") ∧
    program.pieces = captionTexts (captions.run program) ∧
    (∀ item, pieces (program ++ [.leaf item]) = program.pieces ++ [item.text]) ∧
    (∀ operation, pieces (program ++ [.unary operation]) =
      program.pieces.dropLast ++
        [operation.symbol ++ "(" ++ program.pieces.getLastD "?" ++ ")"]) ∧
    ∀ operation, ∃ leftLoose rightLoose : Bool,
      pieces (program ++ [.binary operation]) =
        program.pieces.dropLast.dropLast ++
          [enclosedIf leftLoose (program.pieces.dropLast.getLastD "?") ++ operation.symbol ++
            enclosedIf rightLoose (program.pieces.getLastD "?")] := by
  refine ⟨rfl, ?_, pieces_eq_captionTexts program, pieces_concat_leaf program,
    pieces_concat_unary program, pieces_concat_binary program⟩
  intro element
  rw [history, if_neg (by simp), pieces_eq_captionTexts, endsInOperation_concat]
  cases element.isLeaf <;> rfl

end Program

end RpnCalculator
