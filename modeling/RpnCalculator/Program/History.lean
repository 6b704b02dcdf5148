import RpnCalculator.Program

/-! The history of a program: its expressions with every operation between its operands, and with no
more parentheses than the precedences ask for. The texts are made from the end of the program, as
its value is. A question mark stands for an operand that was never entered. -/

namespace RpnCalculator

structure Rendering where
  text : String
  precedence : Int
  deriving DecidableEq, Repr

namespace Rendering

def enclosed (rendering : Rendering) : String := "(" ++ rendering.text ++ ")"

/-- May the parentheses around a right operand that binds as tightly be left out? After a minus
or a division sign they may not: `3-(4-5)` is not `3-4-5`. -/
def regroups (symbol : String) : Bool := symbol != "-" && symbol != "÷"

def asLeftOf (operation : BinaryOperation) (left : Rendering) : String :=
  if left.precedence < operation.precedence then left.enclosed else left.text

def asRightOf (operation : BinaryOperation) (right : Rendering) : String :=
  if right.precedence < operation.precedence ∨
      (right.precedence = operation.precedence ∧ regroups operation.symbol = false) then
    right.enclosed
  else right.text

def missing : Rendering := ⟨"?", tightest⟩

def ofLeaf (leaf : Leaf) : Rendering := ⟨leaf.text, tightest⟩

def ofUnary (operation : UnaryOperation) (argument : Rendering) : Rendering :=
  ⟨operation.symbol ++ argument.enclosed, tightest⟩

def ofBinary (operation : BinaryOperation) (left right : Rendering) : Rendering :=
  ⟨left.asLeftOf operation ++ operation.symbol ++ right.asRightOf operation, operation.precedence⟩

end Rendering

namespace Program

/-! ## From the end

The functions of this section take a program newest element first. -/

def descendRendering : (newest : List Element) →
    Rendering × { rest : List Element // rest.length ≤ newest.length - 1 }
  | [] => (.missing, ⟨[], Nat.le_refl _⟩)
  | .leaf leaf :: older => (.ofLeaf leaf, ⟨older, Nat.le_refl _⟩)
  | .unary operation :: older =>
    match descendRendering older with
    | (argument, ⟨rest, bound⟩) =>
      (.ofUnary operation argument, ⟨rest, Nat.le_trans bound (Nat.sub_le _ _)⟩)
  | .binary operation :: older =>
    match descendRendering older with
    | (right, ⟨between, betweenBound⟩) =>
      match descendRendering between with
      | (left, ⟨rest, bound⟩) =>
        (.ofBinary operation left right,
          ⟨rest, Nat.le_trans bound (Nat.le_trans (Nat.sub_le _ _)
            (Nat.le_trans betweenBound (Nat.sub_le _ _)))⟩)
termination_by newest => newest.length
decreasing_by
  · exact Nat.lt_succ_self _
  · exact Nat.lt_succ_self _
  · exact Nat.lt_succ_of_le (Nat.le_trans betweenBound (Nat.sub_le _ _))

/-- The rendering of the last expression, and the elements before it, without the bound on
their number. -/
def newestRendering (newest : List Element) : Rendering × List Element :=
  match descendRendering newest with
  | (last, ⟨rest, _⟩) => (last, rest)

theorem newestRendering_nil : newestRendering [] = (.missing, []) := by
  simp [newestRendering, descendRendering]

theorem newestRendering_leaf (leaf : Leaf) (older : List Element) :
    newestRendering (.leaf leaf :: older) = (.ofLeaf leaf, older) := by
  simp [newestRendering, descendRendering]

theorem newestRendering_unary (operation : UnaryOperation) (older : List Element) :
    newestRendering (.unary operation :: older) =
      (.ofUnary operation (newestRendering older).1, (newestRendering older).2) := by
  simp [newestRendering, descendRendering]

theorem newestRendering_binary (operation : BinaryOperation) (older : List Element) :
    newestRendering (.binary operation :: older) =
      (.ofBinary operation (newestRendering (newestRendering older).2).1 (newestRendering older).1,
        (newestRendering (newestRendering older).2).2) := by
  simp [newestRendering, descendRendering]

theorem length_newestRendering (newest : List Element) :
    (newestRendering newest).2.length ≤ newest.length - 1 :=
  (descendRendering newest).2.2

/-- The texts of all expressions, the newest first. -/
def newestPieces : (newest : List Element) → List String
  | [] => []
  | element :: older =>
    let last := newestRendering (element :: older)
    last.1.text :: newestPieces last.2
termination_by newest => newest.length
decreasing_by
  have bound := length_newestRendering (element :: older)
  simp only [List.length_cons] at *
  omega

/-! ## In the order of entry -/

def renderLast (program : Program) : Rendering × Program :=
  let (last, older) := newestRendering program.reverse
  (last, older.reverse)

def pieces (program : Program) : List String := (newestPieces program.reverse).reverse

def emptyHistory : String := " "

def endsInOperation (program : Program) : Bool :=
  match program.getLast? with
  | some element => !element.isLeaf
  | none => false

def history (program : Program) : String :=
  if program.isEmpty then emptyHistory
  else ", ".intercalate (pieces program) ++ if endsInOperation program then "=" else ""

theorem renderLast_nil : renderLast [] = (.missing, []) := by
  simp [renderLast, newestRendering_nil]

theorem renderLast_concat_leaf (program : Program) (leaf : Leaf) :
    renderLast (program ++ [.leaf leaf]) = (.ofLeaf leaf, program) := by
  simp [renderLast, newestRendering_leaf]

theorem renderLast_concat_unary (program : Program) (operation : UnaryOperation) :
    renderLast (program ++ [.unary operation]) =
      (.ofUnary operation (renderLast program).1, (renderLast program).2) := by
  simp [renderLast, newestRendering_unary]

theorem renderLast_concat_binary (program : Program) (operation : BinaryOperation) :
    renderLast (program ++ [.binary operation]) =
      (.ofBinary operation (renderLast (renderLast program).2).1 (renderLast program).1,
        (renderLast (renderLast program).2).2) := by
  simp [renderLast, newestRendering_binary]

theorem pieces_nil : pieces [] = [] := by
  simp [pieces, newestPieces]

theorem pieces_of_ne_nil {program : Program} (nonempty : program ≠ []) :
    pieces program = pieces (renderLast program).2 ++ [(renderLast program).1.text] := by
  cases reversed : program.reverse with
  | nil => exact absurd (List.reverse_eq_nil_iff.mp reversed) nonempty
  | cons element older => simp [pieces, renderLast, reversed, newestPieces]

end Program

end RpnCalculator
