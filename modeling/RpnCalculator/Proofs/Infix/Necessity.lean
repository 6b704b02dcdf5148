import RpnCalculator.Proofs.Infix.Parentheses
import RpnCalculator.Proofs.Infix.ReadingBack

/-! Why each pair of parentheses in a history is there. No text that is read as an expression opens
fewer parentheses than the expression's own, and what is regrouped keeps its text. A text without
one of its pairs can thus not be read as anything that regrouping, in either direction, turns into
the expression. -/

namespace RpnCalculator

open Relation Infix

namespace Infix

/-! ## The fewest parentheses -/

def openings (text : String) : Nat := text.toList.count '('

theorem openings_append (before after : String) :
    openings (before ++ after) = openings before + openings after := by
  rw [openings, String.toList_append, List.count_append, openings, openings]

theorem openings_eq_zero {text : String} (noOpening : '(' ∉ text.toList) : openings text = 0 :=
  List.count_eq_zero_of_not_mem noOpening

theorem openings_enclosed (text : String) : openings ("(" ++ text ++ ")") = openings text + 1 := by
  rw [openings_append, openings_append, Nat.add_comm (openings "(")]
  rfl

theorem openings_encloseIf (loose : Prop) [Decidable loose] (text : String) :
    openings (if loose then "(" ++ text ++ ")" else text) =
      openings text + if loose then 1 else 0 := by
  split
  · exact openings_enclosed text
  · rfl

theorem openings_write (value : Float) : openings (Numeral.write value) = 0 := by
  apply openings_eq_zero
  rcases Numeral.write_eq_word value with isWord | ⟨word, isWord, written⟩
  · exact isWord.not_mem_of_separates (by decide)
  · rw [written]
    exact not_mem_toList_append (by decide) (isWord.not_mem_of_separates (by decide))

theorem openings_leafOfWord? {word : String} {leaf : Leaf} (isWord : IsWord word)
    (stands : leafOfWord? word = some leaf) : openings leaf.text = 0 := by
  have plain : openings word = 0 :=
    openings_eq_zero (isWord.not_mem_of_separates (by decide))
  rw [leafOfWord?] at stands
  split at stands
  · cases stands
    exact plain
  · next item named =>
      cases stands
      rcases Option.or_eq_some_iff.mp named with found | ⟨_, read⟩
      · have same : leaf.text = word := Catalogue.text_of_find? found
        rw [same]
        exact plain
      · rcases Option.map_eq_some_iff.mp read with ⟨value, _, equal⟩
        cases equal
        exact openings_write value
  · cases stands

theorem openings_text_unary (operation : UnaryOperation) (argument : Expression) :
    openings (Expression.unary operation argument).text =
      openings operation.symbol + (openings argument.text + 1) := by
  rw [Expression.text, openings_append, openings_enclosed]

theorem openings_text_binary (operation : BinaryOperation) (left right : Expression) :
    openings (Expression.binary operation left right).text =
      openings left.text + (if left.precedence < operation.precedence then 1 else 0) +
        openings operation.symbol +
        (openings right.text + if right.precedence < operation.precedence ∨
          (right.precedence = operation.precedence ∧
            (operation.symbol = "-" ∨ operation.symbol = "÷")) then 1 else 0) := by
  rw [Expression.text, openings_append, openings_append, openings_encloseIf, openings_encloseIf]

/-- No text that is read as an expression opens fewer parentheses than the expression's own text,
together with the pair that the expression needs where it is too loose for its level. -/
theorem Reads.openings_text_le {level : Level} {text : String} {expression : Expression}
    (reads : Reads level text expression) :
    openings expression.text + (if expression.precedence < level.loosest then 1 else 0) ≤
      openings text := by
  induction reads with
  | missing => decide
  | word isWord stands =>
      rw [Expression.text, openings_leafOfWord? isWord stands]
      exact Nat.zero_le _
  | negative isWord read =>
      rw [Expression.text, Leaf.text, openings_write]
      exact Nat.zero_le _
  | enclosed reads induction =>
      rw [openings_enclosed]
      grind
  | @unary text operation argument known reads induction =>
      have tight : ¬tightest < Level.operand.loosest := by decide
      have whole : (Expression.unary operation argument).precedence = tightest := rfl
      rw [openings_text_unary, openings_append, openings_enclosed, whole, if_neg tight]
      omega
  | ofOperand reads induction => grind [Level.loosest]
  | ofProduct reads induction => grind [Level.loosest]
  | @times before after left right operation multiplies leftReads rightReads leftFewest
      rightFewest =>
      have equal := precedence_of_times multiplies
      have whole : (Expression.binary operation left right).precedence = operation.precedence := rfl
      rw [openings_text_binary, openings_append, openings_append, whole]
      grind [Level.loosest]
  | @plus before after left right operation adds leftReads rightReads leftFewest rightFewest =>
      have equal := precedence_of_plus adds
      have whole : (Expression.binary operation left right).precedence = operation.precedence := rfl
      rw [openings_text_binary, openings_append, openings_append, whole]
      grind [Level.loosest]

theorem IsPair.openings_eq {text : String} {start inside rest : List Char}
    (pair : IsPair text.toList start inside rest) :
    openings text = openings (String.ofList (start ++ inside ++ rest)) + 1 := by
  simp [openings, pair.split]
  omega

end Infix

/-! ## Expressions -/

namespace Expression

variable {expression other : Expression}

theorem text_eq_of_eqvGen (regrouped : EqvGen Reassociates expression other) :
    expression.text = other.text := by
  induction regrouped with
  | rel _ _ step => exact step.text_eq.symm
  | refl => rfl
  | symm _ _ _ induction => exact induction.symm
  | trans _ _ _ _ _ first second => exact first.trans second

theorem exists_other_reading (legible : expression.IsLegible) {start inside rest : List Char}
    (pair : IsPair expression.text.toList start inside rest) :
    ∃ reading, (∀ other, Reads .sum (String.ofList (start ++ inside ++ rest)) other ↔
      other = reading) ∧ ¬EqvGen Reassociates reading expression := by
  rcases exists_reading legible with ⟨regrouped, textReads, _⟩
  rcases ((textReads regrouped).mpr rfl).canDropPairs pair with ⟨reading, reads⟩
  refine ⟨reading, fun other => ⟨fun otherReads => otherReads.unique reads, ?_⟩, ?_⟩
  · rintro rfl
    exact reads
  · intro equivalent
    have fewest := reads.openings_text_le
    rw [text_eq_of_eqvGen equivalent, pair.openings_eq] at fewest
    omega

end Expression

/-! ## Histories -/

namespace Infix

theorem IsPair.cases_intercalate {pieces : List (List Char)}
    {final before inside after : List Char} (balanced : ∀ piece ∈ pieces, IsBalanced piece)
    (noOpening : '(' ∉ final)
    (pair : IsPair ([',', ' '].intercalate pieces ++ final) before inside after) :
    ∃ earlier piece later start rest, pieces = earlier ++ piece :: later ∧
      IsPair piece start inside rest ∧
      before ++ inside ++ after =
        [',', ' '].intercalate (earlier ++ (start ++ inside ++ rest) :: later) ++ final := by
  induction pieces generalizing before with
  | nil => exact absurd pair.mem noOpening
  | cons first more induction =>
      have parts := List.forall_mem_cons.mp balanced
      by_cases last : more = []
      · subst last
        rw [List.intercalate_singleton] at pair
        rcases pair.cases_append parts.1 with ⟨rest, rfl, firstPair⟩ | ⟨_, _, finalPair⟩
        · refine ⟨[], first, [], before, rest, rfl, firstPair, ?_⟩
          rw [List.nil_append, List.intercalate_singleton]
          simp only [List.append_assoc]
        · exact absurd finalPair.mem noOpening
      · rw [List.intercalate_cons_of_ne_nil last, List.append_assoc, List.append_assoc] at pair
        rcases pair.cases_append parts.1 with ⟨rest, rfl, firstPair⟩ | ⟨start, rfl, later⟩
        · refine ⟨[], first, more, before, rest, rfl, firstPair, ?_⟩
          rw [List.nil_append, List.intercalate_cons_of_ne_nil last]
          simp only [List.append_assoc]
        have separator : IsBalanced [',', ' '] := isBalanced_of_not_mem (by decide) (by decide)
        rcases later.cases_append separator with ⟨_, _, separatorPair⟩ | ⟨start, rfl, laterPair⟩
        · exact absurd separatorPair.mem (by decide)
        rcases induction parts.2 laterPair with
          ⟨earlier, piece, later, head, rest, split, piecePair, same⟩
        refine ⟨first :: earlier, piece, later, head, rest, by rw [split]; rfl, piecePair, ?_⟩
        have nonempty : earlier ++ (head ++ inside ++ rest) :: later ≠ [] := by simp
        calc first ++ ([',', ' '] ++ start) ++ inside ++ after
          _ = first ++ [',', ' '] ++ (start ++ inside ++ after) := by simp
          _ = _ := by
            rw [same, List.cons_append, List.intercalate_cons_of_ne_nil nonempty]
            simp only [List.append_assoc]

end Infix

namespace Program

variable {program : Program} {before inside after : List Char}

theorem isLegible_of_mem_expressions (legible : ∀ element ∈ program, element.IsLegible)
    {expression : Expression} (member : expression ∈ program.expressions) : expression.IsLegible :=
  fun element inside => legible element (mem_of_mem_expressions member inside)

theorem exists_reads_of_mem_expressions (legible : ∀ element ∈ program, element.IsLegible)
    {expression : Expression} (member : expression ∈ program.expressions) :
    ∃ reading, Reads .sum expression.text reading := by
  rcases Expression.exists_reading (isLegible_of_mem_expressions legible member) with
    ⟨reading, reads, _⟩
  exact ⟨reading, (reads reading).mpr rfl⟩

theorem cases_pair (legible : ∀ element ∈ program, element.IsLegible)
    (pair : IsPair program.history.toList before inside after) :
    ∃ earlier expression later start rest, program.expressions = earlier ++ expression :: later ∧
      IsPair expression.text.toList start inside rest ∧
      before ++ inside ++ after = [',', ' '].intercalate
        ((earlier.map Expression.text ++ String.ofList (start ++ inside ++ rest) ::
          later.map Expression.text).map String.toList) ++
        if program.endsInOperation then ['='] else [] := by
  have nonempty : program ≠ [] := by
    rintro rfl
    exact absurd pair.mem (by decide +kernel)
  rw [toList_history nonempty, pieces_eq_map_text, List.map_map] at pair
  have balanced : ∀ piece ∈ program.expressions.map (String.toList ∘ Expression.text),
      IsBalanced piece := by
    rw [List.forall_mem_map]
    intro expression member
    rcases exists_reads_of_mem_expressions legible member with ⟨reading, reads⟩
    exact reads.isBalanced
  have noOpening : '(' ∉ if program.endsInOperation then ['='] else [] := by
    cases program.endsInOperation <;> decide
  rcases pair.cases_intercalate balanced noOpening with
    ⟨earlier, piece, later, start, rest, split, piecePair, shorter⟩
  rcases List.map_eq_append_iff.mp split with ⟨earlierExpressions, others, whole, rfl, othersSplit⟩
  rcases List.map_eq_cons_iff.mp othersSplit with ⟨expression, laterExpressions, rfl, rfl, rfl⟩
  refine ⟨earlierExpressions, expression, laterExpressions, start, rest, whole, piecePair, ?_⟩
  rw [shorter]
  simp

/-- Every pair of parentheses in a history is necessary. It stands in the text of one expression.
Without it the history has the same pieces but for this one, which has exactly one reading, and no
regrouping, in either direction, turns the reading into the expression. -/
theorem parentheses_necessary (legible : ∀ element ∈ program, element.IsLegible)
    (pair : IsPair program.history.toList before inside after) :
    ∃ (earlier : List Expression) (expression : Expression) (later : List Expression)
      (start rest : List Char) (reading : Expression),
      program.expressions = earlier ++ expression :: later ∧
      expression.text.toList = start ++ '(' :: inside ++ ')' :: rest ∧
      piecesOf (String.ofList (before ++ inside ++ after)) =
        earlier.map Expression.text ++
          String.ofList (start ++ inside ++ rest) :: later.map Expression.text ∧
      (∀ other, Reads .sum (String.ofList (start ++ inside ++ rest)) other ↔ other = reading) ∧
      ¬EqvGen Expression.Reassociates reading expression := by
  rcases cases_pair legible pair with
    ⟨earlier, expression, later, start, rest, whole, piecePair, shorter⟩
  have expressionLegible : expression.IsLegible :=
    isLegible_of_mem_expressions legible (by simp [whole])
  rcases Expression.exists_other_reading expressionLegible piecePair with
    ⟨reading, reads, different⟩
  have readable : ∀ piece ∈ earlier.map Expression.text ++
      String.ofList (start ++ inside ++ rest) :: later.map Expression.text,
        ∃ reading, Reads .sum piece reading := by
    rw [List.forall_mem_append, List.forall_mem_cons, List.forall_mem_map, List.forall_mem_map]
    refine ⟨?_, ⟨reading, (reads reading).mpr rfl⟩, ?_⟩
    · exact fun other member => exists_reads_of_mem_expressions legible (by simp [whole, member])
    · exact fun other member => exists_reads_of_mem_expressions legible (by simp [whole, member])
  refine ⟨earlier, expression, later, start, rest, reading, whole, piecePair.split, ?_, reads,
    different⟩
  apply piecesOf_intercalate (by simp) _ program.endsInOperation
  · rw [String.toList_ofList, shorter]
  · intro piece member separator separates
    rcases readable piece member with ⟨_, pieceReads⟩
    exact pieceReads.separator_not_mem separates

theorem parentheses_necessary_of_root :
    ∃ reading, (∀ other, Reads .sum "√(1+2×3)" other ↔ other = reading) ∧
      ¬EqvGen Expression.Reassociates reading (.unary Catalogue.squareRoot
        (.binary Catalogue.times (.binary Catalogue.plus (.leaf (.operand 1)) (.leaf (.operand 2)))
          (.leaf (.operand 3)))) := by
  obtain ⟨program, entered⟩ : ∃ program : Program, program =
      [.leaf (.operand 1), .leaf (.operand 2), .binary Catalogue.plus, .leaf (.operand 3),
        .binary Catalogue.times, .unary Catalogue.squareRoot] := ⟨_, rfl⟩
  have legible : ∀ element ∈ program, element.IsLegible := by
    simp only [entered, List.forall_mem_cons]
    exact ⟨⟨.operand 1, nofun⟩, ⟨.operand 2, nofun⟩,
      ⟨.known (by simp [Catalogue.elements]), nofun⟩, ⟨.operand 3, nofun⟩,
      ⟨.known (by simp [Catalogue.elements]), nofun⟩,
      ⟨.known (by simp [Catalogue.elements]), nofun⟩, nofun⟩
  have history : program.history = "√((1+2)×3)=" := by rw [entered]; decide +kernel
  have pair : IsPair program.history.toList ['√', '('] ['1', '+', '2'] ['×', '3', ')', '='] := by
    refine ⟨by rw [history]; rfl, isBalanced_of_not_mem (by decide) (by decide), ?_⟩
    intro operation known
    simp only [Catalogue.elements, List.mem_cons, List.not_mem_nil, or_false, reduceCtorEq,
      false_or, Element.unary.injEq] at known
    rcases known with rfl | rfl | rfl | rfl <;> decide
  rcases parentheses_necessary legible pair with
    ⟨earlier, expression, later, start, rest, reading, whole, _, pieces, reads, different⟩
  have shortened : piecesOf (String.ofList
      (['√', '('] ++ ['1', '+', '2'] ++ ['×', '3', ')', '='])) = ["√(1+2×3)"] := by
    decide +kernel
  rw [shortened, List.singleton_eq_append_iff] at pieces
  rcases pieces with ⟨noEarlier, last⟩ | ⟨_, absent⟩
  · rw [List.map_eq_nil_iff] at noEarlier
    rcases List.cons.inj last with ⟨text, noLater⟩
    rw [List.map_eq_nil_iff.mp noLater, noEarlier, entered] at whole
    rw [text] at reads
    cases List.head_eq_of_cons_eq whole
    exact ⟨reading, reads, different⟩
  · exact absurd absent (List.cons_ne_nil _ _)

end Program

end RpnCalculator
