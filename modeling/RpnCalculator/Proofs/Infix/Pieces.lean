import RpnCalculator.Proofs.LastExpression
import RpnCalculator.Proofs.Infix.Grammar

/-! The pieces of a history, one for each expression of the program, and how to cut them at its
commas. -/

namespace RpnCalculator

namespace Program

/-! ## The expressions of a program -/

def expressions (program : Program) : List Expression := (Expression.tree.run program).reverse

theorem EndsIn.expressions_eq {program rest : Program} {expression : Expression}
    (ends : program.EndsIn expression rest) (nonempty : program ≠ []) :
    program.expressions = rest.expressions ++ [expression] := by
  have popped := ends.pop_run Expression.tree
  rw [Expression.interpret_tree] at popped
  rw [expressions, Expression.tree.run_eq_cons nonempty popped, List.reverse_cons, expressions]

theorem pieces_eq_map_text (program : Program) :
    program.pieces = program.expressions.map Expression.text := by
  induction program using induction_on_last with
  | nil => exact pieces_nil
  | last program rest expression nonempty ends induction =>
      rw [ends.pieces_eq nonempty, ends.expressions_eq nonempty, induction, List.map_append]
      rfl

theorem mem_of_mem_expressions {program : Program} {expression : Expression} {element : Element}
    (expressionMember : expression ∈ program.expressions)
    (elementMember : element ∈ expression.elements) : element ∈ program := by
  induction program using induction_on_last with
  | nil => exact nomatch expressionMember
  | last program rest last nonempty ends induction =>
      rw [ends.append_elements]
      rw [ends.expressions_eq nonempty] at expressionMember
      rcases List.mem_append.mp expressionMember with older | newest
      · exact List.mem_append_left _ (induction older)
      · rw [List.mem_singleton.mp newest] at elementMember
        exact List.mem_append_right _ elementMember

end Program

namespace Infix

/-! ## Cutting a history -/

def cutAtCommas : List Char → List (List Char)
  | [] => [[]]
  | ',' :: ' ' :: rest => [] :: cutAtCommas rest
  | character :: rest => (cutAtCommas rest).modifyHead (character :: ·)

theorem cutAtCommas_append {piece : List Char} (plain : ',' ∉ piece) (rest : List Char) :
    cutAtCommas (piece ++ rest) = (cutAtCommas rest).modifyHead (piece ++ ·) := by
  induction piece with
  | nil =>
      rw [List.nil_append]
      cases cutAtCommas rest <;> rfl
  | cons character more induction =>
      rw [List.cons_append, cutAtCommas, induction (List.not_mem_of_not_mem_cons plain)]
      · cases cutAtCommas rest <;> rfl
      · intro _ comma
        exact absurd comma.symm (List.ne_of_not_mem_cons plain)

theorem cutAtCommas_intercalate {pieces : List (List Char)} (nonempty : pieces ≠ [])
    (plain : ∀ piece ∈ pieces, ',' ∉ piece) :
    cutAtCommas ([',', ' '].intercalate pieces) = pieces := by
  induction pieces with
  | nil => exact absurd rfl nonempty
  | cons first more induction =>
      have parts := List.forall_mem_cons.mp plain
      cases more with
      | nil =>
          have whole := cutAtCommas_append parts.1 []
          rw [List.append_nil] at whole
          rw [List.intercalate_singleton, whole, cutAtCommas, List.modifyHead_cons,
            List.append_nil]
      | cons second others =>
          rw [List.intercalate_cons_cons, List.append_assoc, cutAtCommas_append parts.1,
            List.cons_append, List.cons_append, List.nil_append, cutAtCommas,
            induction (List.cons_ne_nil second others) parts.2, List.modifyHead_cons,
            List.append_nil]

theorem not_mem_intercalate {character : Char} {separator : List Char}
    {pieces : List (List Char)} (separates : character ∉ separator)
    (plain : ∀ piece ∈ pieces, character ∉ piece) :
    character ∉ separator.intercalate pieces := by
  induction pieces with
  | nil => exact List.not_mem_nil
  | cons first more induction =>
      have parts := List.forall_mem_cons.mp plain
      cases more with
      | nil => rw [List.intercalate_singleton]; exact parts.1
      | cons second others =>
          rw [List.intercalate_cons_cons, List.mem_append, List.mem_append]
          rintro ((first | separator) | more)
          · exact parts.1 first
          · exact separates separator
          · exact induction parts.2 more

def withoutEquals (characters : List Char) : List Char :=
  if characters.getLast? = some '=' then characters.dropLast else characters

theorem withoutEquals_append {characters : List Char} (plain : '=' ∉ characters) (ends : Bool) :
    withoutEquals (characters ++ if ends then ['='] else []) = characters := by
  cases ends with
  | true => simp [withoutEquals]
  | false =>
      rw [withoutEquals, if_neg]
      · simp
      · intro last
        rw [if_neg Bool.false_ne_true, List.append_nil] at last
        exact plain (List.mem_of_getLast? last)

/-- The pieces of a history. A lone blank, the history of the empty program, is no piece. -/
def piecesOf (history : String) : List String :=
  ((cutAtCommas (withoutEquals history.toList)).map String.ofList).filter
    (· ≠ Program.emptyHistory)

theorem piecesOf_intercalate {history : String} {pieces : List String} (nonempty : pieces ≠ [])
    (plain : ∀ piece ∈ pieces, ∀ separator ∈ [',', ' ', '='], separator ∉ piece.toList)
    (ends : Bool) (characters : history.toList =
      [',', ' '].intercalate (pieces.map String.toList) ++ if ends then ['='] else []) :
    piecesOf history = pieces := by
  have without : ∀ separator ∈ [',', ' ', '='],
      ∀ piece ∈ pieces.map String.toList, separator ∉ piece := by
    grind
  rw [piecesOf, characters,
    withoutEquals_append (not_mem_intercalate (by decide) (without '=' (by decide))),
    cutAtCommas_intercalate (by simpa using nonempty) (without ',' (by decide))]
  have same : (pieces.map String.toList).map String.ofList = pieces := by simp
  rw [same, List.filter_eq_self]
  intro piece member
  have printable := without ' ' (by decide) _ (List.mem_map_of_mem member)
  rw [decide_eq_true_iff]
  rintro rfl
  exact printable (by decide)

theorem toList_history {program : Program} (nonempty : program ≠ []) :
    program.history.toList = [',', ' '].intercalate (program.pieces.map String.toList) ++
      if program.endsInOperation then ['='] else [] := by
  rw [Program.history, if_neg (by simpa using nonempty), String.toList_append,
    String.toList_intercalate]
  cases program.endsInOperation <;> rfl

theorem piecesOf_history {program : Program}
    (plain : ∀ expression ∈ program.expressions, ∀ separator ∈ [',', ' ', '='],
      separator ∉ expression.text.toList) :
    piecesOf program.history = program.expressions.map Expression.text := by
  by_cases empty : program = []
  · subst empty
    decide +kernel
  · have nonempty : program.pieces ≠ [] := by
      rw [Program.pieces_of_ne_nil empty]
      exact List.append_ne_nil_of_right_ne_nil _ (List.cons_ne_nil _ _)
    rw [← Program.pieces_eq_map_text]
    apply piecesOf_intercalate nonempty _ _ (toList_history empty)
    rw [Program.pieces_eq_map_text]
    exact List.forall_mem_map.mpr plain

end Infix

end RpnCalculator
