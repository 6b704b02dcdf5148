import RpnCalculator.Proofs.Infix.Necessity
import RpnCalculator.Proofs.Weight

/-! A history read from left to right shows every element of the program once: the leaves in the
order of entry, and each operation at its place between them or before its argument. A question mark
stands for every operand that is missing, and an operand can be missing in the oldest expression
only, because nothing was entered before it. -/

namespace RpnCalculator

open Infix

/-! ## Reading from left to right -/

namespace Infix

def elementOfWord (word : String) : Element :=
  (Element.ofToken? word).getD (.leaf (.reference word))

/-- The elements that a text shows, one after the other, told by its tokens alone. A minus sign
where an operand is due belongs to the number behind it. All other signs that name no operation
show no element: question marks, parentheses, and what stands between two pieces and at the end. -/
def shown (due : Bool) : List Token → List Element
  | [] => []
  | .mark '-' :: .word word :: rest =>
    if due then elementOfWord ("-" ++ String.ofList word) :: shown false rest
    else .binary Catalogue.minus :: shown true (.word word :: rest)
  | .mark separator :: rest =>
    (Catalogue.find? (String.singleton separator)).toList ++
      shown (separator ≠ ')' ∧ separator ≠ '?') rest
  | .word word :: rest =>
    let element := elementOfWord (String.ofList word)
    element :: shown (!element.isLeaf) rest

def elementsShown (text : String) : List Element := shown true (tokens text.toList)

example : (elementsShown "√(?-M), 2÷-3=").map Element.text = ["√", "-", "M", "2", "÷", "-3"] := by
  decide +kernel

theorem elementOfWord_eq_leaf {word : String} {leaf : Leaf}
    (stands : leafOfWord? word = some leaf) : elementOfWord word = .leaf leaf := by
  rw [leafOfWord?] at stands
  rw [elementOfWord]
  split at stands
  · next unnamed =>
      rw [unnamed, ← Option.some.inj stands]
      rfl
  · next item named =>
      rw [named, ← Option.some.inj stands]
      rfl
  · exact absurd stands.symm (Option.some_ne_none leaf)

theorem elementOfWord_eq_operand {word : String} {value : Float}
    (read : Numeral.read? word = some value) : elementOfWord word = .leaf (.operand value) := by
  have unknown : Catalogue.find? word = none := by
    cases found : Catalogue.find? word with
    | none => rfl
    | some element =>
        have unreadable := Catalogue.read?_text (Catalogue.mem_of_find? found)
        rw [Catalogue.text_of_find? found, read] at unreadable
        exact absurd unreadable (Option.some_ne_none value)
  rw [elementOfWord, Element.ofToken?, unknown, read]
  rfl

theorem elementOfWord_symbol {operation : UnaryOperation}
    (known : .unary operation ∈ Catalogue.elements) :
    elementOfWord operation.symbol = .unary operation := by
  have found : Catalogue.find? operation.symbol = some (.unary operation) :=
    Catalogue.find?_text known
  rw [elementOfWord, Element.ofToken?, found]
  rfl

theorem exists_mark_shown {operation : BinaryOperation} (isSign : IsSign operation) :
    ∃ separator ∈ separators, operation.symbol.toList = [separator] ∧
      ∀ rest, shown false (.mark separator :: rest) = .binary operation :: shown true rest := by
  rcases isSign with (rfl | rfl) | rfl | rfl
  · exact ⟨'+', by decide, rfl, fun rest => rfl⟩
  · refine ⟨'-', by decide, rfl, fun rest => ?_⟩
    match rest with
    | [] | .mark _ :: _ => rfl
    | .word _ :: _ => rfl
  · exact ⟨'×', by decide, rfl, fun rest => rfl⟩
  · exact ⟨'÷', by decide, rfl, fun rest => rfl⟩

/-! ## What a text shows -/

/-- The text shows the elements where an operand is due, and none is due any more behind it. -/
def Shows (text : List Char) (elements : List Element) : Prop :=
  ∀ rest, shown true (tokens text ++ rest) = elements ++ shown false rest

theorem shows_missing : Shows ['?'] [] := fun _ => rfl

theorem shows_leaf {item : Leaf} (legible : Element.IsLegible (.leaf item)) :
    Shows item.text.toList [.leaf item] := by
  intro rest
  rcases Leaf.text_cases legible with isWord | ⟨value, word, rfl, isWord, written⟩
  · have stands := elementOfWord_eq_leaf (leafOfWord?_text legible)
    rw [tokens_of_isWord isWord, List.singleton_append, shown, String.ofList_toList, stands]
    rfl
  · have stands := elementOfWord_eq_operand (written ▸ Numeral.read?_write value)
    rw [Leaf.text, written, String.toList_append, show "-".toList = ['-'] from rfl,
      List.singleton_append, tokens_mark (by decide), tokens_of_isWord isWord, List.cons_append,
      List.singleton_append, shown, if_pos rfl, String.ofList_toList, stands]
    rfl

theorem Shows.enclosed {text : List Char} {elements : List Element} (shows : Shows text elements) :
    Shows ('(' :: (text ++ [')'])) elements := by
  intro rest
  have inside := shows (.mark ')' :: rest)
  rw [tokens_mark (by decide), tokens_append_mark (by decide), tokens, List.cons_append,
    List.append_assoc, List.singleton_append]
  exact inside

theorem Shows.encloseIf {text : String} {elements : List Element} {loose : Prop} [Decidable loose]
    (shows : Shows text.toList elements) :
    Shows (if loose then "(" ++ text ++ ")" else text).toList elements := by
  split
  · exact toList_enclosed text ▸ shows.enclosed
  · exact shows

theorem Shows.unary {text : String} {elements : List Element} {operation : UnaryOperation}
    (known : .unary operation ∈ Catalogue.elements) (shows : Shows text.toList elements) :
    Shows (operation.symbol ++ ("(" ++ text ++ ")")).toList (.unary operation :: elements) := by
  intro rest
  have argument := shows.enclosed rest
  rw [tokens_mark (by decide)] at argument
  rw [String.toList_append, toList_enclosed, tokens_append_mark (by decide),
    tokens_of_isWord (isWord_symbol known), List.singleton_append, List.cons_append, shown,
    String.ofList_toList, elementOfWord_symbol known]
  exact congrArg _ argument

theorem Shows.binary {before after : String} {left right : List Element}
    {operation : BinaryOperation} (legible : Element.IsLegible (.binary operation))
    (leftShows : Shows before.toList left) (rightShows : Shows after.toList right) :
    Shows (before ++ operation.symbol ++ after).toList
      (left ++ .binary operation :: right) := by
  intro rest
  rcases exists_mark_shown (isLegible_binary_cases legible) with
    ⟨separator, separates, sign, shown_mark⟩
  rw [tokens_of_sign separates sign, List.append_assoc, List.cons_append, leftShows, shown_mark,
    rightShows, List.append_assoc, List.cons_append]

theorem Shows.separated {before after : List Char} {elements more : List Element}
    (shows : Shows before elements) (laterShows : Shows after more) :
    Shows (before ++ ([',', ' '] ++ after)) (elements ++ more) := by
  intro rest
  rw [List.cons_append, List.cons_append, List.nil_append, tokens_append_mark (by decide),
    tokens_mark (by decide), List.append_assoc, shows, List.append_assoc]
  exact congrArg _ (laterShows rest)

end Infix

namespace Expression

def written : Expression → Program
  | .missing => []
  | .leaf item => [.leaf item]
  | .unary operation argument => .unary operation :: argument.written
  | .binary operation left right => left.written ++ .binary operation :: right.written

theorem shows_text {expression : Expression} (legible : expression.IsLegible) :
    Shows expression.text.toList expression.written := by
  induction expression with
  | missing => exact shows_missing
  | leaf item => exact shows_leaf (isLegible_leaf_iff.mp legible)
  | unary operation argument induction =>
      rcases isLegible_unary_iff.mp legible with ⟨operationLegible, argumentLegible⟩
      exact (induction argumentLegible).unary (known_of_isLegible_unary operationLegible)
  | binary operation left right leftInduction rightInduction =>
      rcases isLegible_binary_iff.mp legible with ⟨operationLegible, leftLegible, rightLegible⟩
      exact (leftInduction leftLegible).encloseIf.binary operationLegible
        (rightInduction rightLegible).encloseIf

theorem written_perm (expression : Expression) :
    expression.written.Perm expression.elements := by
  induction expression with
  | missing => exact .nil
  | leaf item => exact .refl _
  | unary operation argument induction =>
      exact (induction.cons _).trans (List.perm_append_singleton _ _).symm
  | binary operation left right leftInduction rightInduction =>
      have inFront : (left.written ++ .binary operation :: right.written).Perm
          (.binary operation :: (left.written ++ right.written)) := List.perm_middle
      have operands := (leftInduction.append rightInduction).cons (.binary operation)
      exact (inFront.trans operands).trans (List.perm_append_singleton _ _).symm

theorem filter_written (expression : Expression) :
    expression.written.filter Element.isLeaf = expression.elements.filter Element.isLeaf := by
  induction expression with
  | missing => rfl
  | leaf item => rfl
  | unary operation argument induction =>
      rw [written, elements, List.filter_append, ← induction, List.filter_cons]
      simp [Element.isLeaf]
  | binary operation left right leftInduction rightInduction =>
      rw [written, elements, List.filter_append, List.filter_append, List.filter_append,
        ← leftInduction, ← rightInduction]
      simp [Element.isLeaf]

/-! ## Missing operands -/

def missingCount : Expression → Nat
  | .missing => 1
  | .leaf _ => 0
  | .unary _ argument => argument.missingCount
  | .binary _ left right => left.missingCount + right.missingCount

theorem missingCount_eq_zero_iff {expression : Expression} :
    expression.missingCount = 0 ↔ expression.IsComplete := by
  induction expression with
  | missing => exact iff_of_false Nat.one_ne_zero id
  | leaf item => exact iff_of_true rfl trivial
  | unary operation argument induction => exact induction
  | binary operation left right leftInduction rightInduction =>
      rw [missingCount, Nat.add_eq_zero_iff, leftInduction, rightInduction, IsComplete]

theorem weight_elements_add_missingCount (expression : Expression) :
    expression.elements.weight + expression.missingCount = 1 := by
  induction expression with
  | missing => rfl
  | leaf item => rfl
  | unary operation argument induction =>
      rw [elements, Program.weight_concat, Element.weight, Int.add_zero, missingCount, induction]
  | binary operation left right leftInduction rightInduction =>
      rw [elements, Program.weight_concat, Program.weight_append, Element.weight, missingCount]
      omega

theorem count_encloseIf (loose : Prop) [Decidable loose] (text : String) :
    (if loose then "(" ++ text ++ ")" else text).toList.count '?' = text.toList.count '?' := by
  split
  · rw [toList_enclosed, List.count_cons_of_ne (by decide), List.count_append]
    rfl
  · rfl

theorem count_leaf {item : Leaf} (legible : Element.IsLegible (.leaf item)) :
    item.text.toList.count '?' = 0 := by
  apply List.count_eq_zero_of_not_mem
  rcases Leaf.text_cases legible with isWord | ⟨value, word, rfl, isWord, written⟩
  · exact isWord.not_mem_of_separates (by decide)
  · rw [Leaf.text, written]
    exact not_mem_toList_append (by decide) (isWord.not_mem_of_separates (by decide))

theorem count_text {expression : Expression} (legible : expression.IsLegible) :
    expression.text.toList.count '?' = expression.missingCount := by
  induction expression with
  | missing => rfl
  | leaf item => exact count_leaf (isLegible_leaf_iff.mp legible)
  | unary operation argument induction =>
      rcases isLegible_unary_iff.mp legible with ⟨operationLegible, argumentLegible⟩
      have isWord := isWord_symbol (known_of_isLegible_unary operationLegible)
      have symbol : operation.symbol.toList.count '?' = 0 :=
        List.count_eq_zero_of_not_mem (isWord.not_mem_of_separates (by decide))
      have enclosed := count_encloseIf True argument.text
      rw [if_pos trivial, induction argumentLegible] at enclosed
      rw [text, String.toList_append, List.count_append, symbol, enclosed, Nat.zero_add,
        missingCount]
  | binary operation left right leftInduction rightInduction =>
      rcases isLegible_binary_iff.mp legible with ⟨operationLegible, leftLegible, rightLegible⟩
      have symbol : operation.symbol.toList.count '?' = 0 := by
        rcases isLegible_binary_cases operationLegible with (rfl | rfl) | rfl | rfl <;> decide
      rw [text, String.toList_append, String.toList_append, List.count_append, List.count_append,
        count_encloseIf, count_encloseIf, symbol, leftInduction leftLegible,
        rightInduction rightLegible, missingCount, Nat.add_zero]

theorem questionMark_mem_text_iff {expression : Expression} (legible : expression.IsLegible) :
    '?' ∈ expression.text.toList ↔ ¬expression.IsComplete := by
  rw [← missingCount_eq_zero_iff, ← count_text legible, List.count_eq_zero, not_not]

end Expression

/-! ## Histories -/

namespace Infix

theorem count_intercalate {character : Char} {separator : List Char}
    (separates : character ∉ separator) (pieces : List (List Char)) :
    (separator.intercalate pieces).count character = (pieces.map (List.count character)).sum := by
  induction pieces with
  | nil => rfl
  | cons first more induction =>
      by_cases last : more = []
      · rw [last, List.intercalate_singleton]
        rfl
      · rw [List.intercalate_cons_of_ne_nil last, List.count_append, List.count_append, induction,
          List.count_eq_zero_of_not_mem separates]
        rfl

theorem shows_intercalate {expressions : List Expression} (nonempty : expressions ≠ [])
    (legible : ∀ expression ∈ expressions, expression.IsLegible) :
    Shows ([',', ' '].intercalate (expressions.map (String.toList ∘ Expression.text)))
      (expressions.flatMap Expression.written) := by
  induction expressions with
  | nil => exact absurd rfl nonempty
  | cons first more induction =>
      have parts := List.forall_mem_cons.mp legible
      have firstShows := Expression.shows_text parts.1
      cases more with
      | nil =>
          rw [List.map_singleton, List.intercalate_singleton, List.flatMap_singleton]
          exact firstShows
      | cons second others =>
          have laterShows := induction (List.cons_ne_nil second others) parts.2
          rw [List.map_cons, List.intercalate_cons_of_ne_nil (by simp), List.append_assoc,
            List.flatMap_cons]
          exact firstShows.separated laterShows

end Infix

def Element.isBinary : Element → Bool
  | .binary _ => true
  | _ => false

namespace Program

theorem weight_eq_countP (program : Program) :
    program.weight = program.countP Element.isLeaf - program.countP Element.isBinary := by
  induction program with
  | nil => rfl
  | cons element later induction =>
      rw [weight, induction, List.countP_cons, List.countP_cons]
      cases element <;> simp [Element.weight, Element.isLeaf, Element.isBinary] <;> omega

theorem flatMap_elements_expressions (program : Program) :
    program.expressions.flatMap Expression.elements = program := by
  induction program using induction_on_last with
  | nil => rfl
  | last program rest expression nonempty ends induction =>
      rw [ends.expressions_eq nonempty, List.flatMap_append, induction, List.flatMap_singleton]
      exact ends.append_elements.symm

theorem weight_add_missingCount (program : Program) :
    program.weight + (program.expressions.map Expression.missingCount).sum =
      program.expressions.length := by
  induction program using induction_on_last with
  | nil => rfl
  | last program rest expression nonempty ends induction =>
      have one := expression.weight_elements_add_missingCount
      rw [ends.expressions_eq nonempty, ends.append_elements, weight_append, List.map_append,
        List.sum_append, List.length_append]
      simp only [List.map_singleton, List.sum_singleton, List.length_singleton]
      omega

variable {program : Program}

theorem isComplete_of_mem_tail {expression : Expression}
    (member : expression ∈ program.expressions.tail) : expression.IsComplete := by
  induction program using induction_on_last with
  | nil => exact absurd member List.not_mem_nil
  | last program rest last nonempty ends induction =>
      rw [ends.expressions_eq nonempty] at member
      rcases ends.isComplete_or with complete | rfl
      · cases older : rest.expressions with
        | nil =>
            rw [older] at member
            exact absurd member List.not_mem_nil
        | cons first more =>
            rw [older, List.cons_append, List.tail_cons, List.mem_append] at member
            rcases member with later | newest
            · exact induction (older ▸ later)
            · exact List.mem_singleton.mp newest ▸ complete
      · exact absurd member List.not_mem_nil

theorem elementsShown_history (nonempty : program ≠ [])
    (legible : ∀ expression ∈ program.expressions, expression.IsLegible) :
    elementsShown program.history = program.expressions.flatMap Expression.written := by
  have expressionsNonempty : program.expressions ≠ [] := by
    intro absent
    have whole := program.flatMap_elements_expressions
    rw [absent] at whole
    exact nonempty whole.symm
  have shows := shows_intercalate expressionsNonempty legible
  rw [elementsShown, toList_history nonempty, pieces_eq_map_text, List.map_map]
  cases program.endsInOperation with
  | true =>
      rw [if_pos rfl, tokens_append_mark (by decide), shows]
      exact List.append_nil _
  | false =>
      have alone := shows []
      rw [List.append_nil] at alone
      rw [if_neg Bool.false_ne_true, List.append_nil, alone]
      exact List.append_nil _

theorem count_history (nonempty : program ≠ [])
    (legible : ∀ expression ∈ program.expressions, expression.IsLegible) :
    program.history.toList.count '?' = (program.expressions.map Expression.missingCount).sum := by
  have final : (if program.endsInOperation then ['='] else []).count '?' = 0 := by
    cases program.endsInOperation <;> rfl
  rw [toList_history nonempty, List.count_append, final, Nat.add_zero,
    count_intercalate (by decide), pieces_eq_map_text, List.map_map, List.map_map]
  exact congrArg List.sum (List.map_congr_left fun expression member =>
    Expression.count_text (legible expression member))

theorem unboundNames_eq_nil {bindings : Bindings}
    (bound : ∀ name, .leaf (.reference name) ∈ program → (bindings.get? name).isSome) :
    program.unboundNames bindings = [] := by
  rw [unboundNames, List.filterMap_eq_nil_iff]
  intro element member
  cases element with
  | leaf item =>
      cases item with
      | operand | constant => rfl
      | reference name =>
          have found := Option.isNone_eq_false_iff.mpr (bound name member)
          rw [Element.unboundName?, found]
          rfl
  | unary | binary => rfl

theorem evaluate_eq_insufficient_iff (nonempty : program ≠ []) {bindings : Bindings}
    (bound : program.unboundNames bindings = []) :
    program.evaluate bindings = .error .insufficient ↔
      ∃ expression, program.expressions = [expression] ∧ ¬expression.IsComplete := by
  rcases endsIn_exists program with ⟨expression, rest, ends⟩
  have lastBound : expression.elements.unboundNames bindings = [] := by
    rw [ends.append_elements, unboundNames, List.filterMap_append] at bound
    exact (List.append_eq_nil_iff.mp bound).2
  rw [ends.evaluate_eq, ends.expressions_eq nonempty]
  constructor
  · intro lacking
    have incomplete : ¬expression.IsComplete := by
      intro complete
      rcases Expression.exists_value_iff.mpr ⟨complete, lastBound⟩ with ⟨value, valued⟩
      rw [valued] at lacking
      exact absurd lacking (by simp)
    rw [ends.isComplete_or.resolve_left incomplete]
    exact ⟨expression, rfl, incomplete⟩
  · rintro ⟨only, single, incomplete⟩
    rw [← List.nil_append [only]] at single
    have same := (List.append_inj' single rfl).2
    rw [← List.singleton_inj.mp same] at incomplete
    exact ends.interpret_eq_insufficient incomplete lastBound

/-- A history accounts for every element once. Read from left to right it shows the leaves of the
program in the order of entry, and each of its operations once. Leaves and question marks outnumber
the binary operations by the number of pieces, and all question marks are in the oldest piece. With
all variables bound, the evaluation lacks operands if and only if that piece is the only one and has
a question mark. -/
theorem history_shows_elements (nonempty : program ≠ [])
    (legible : ∀ element ∈ program, element.IsLegible) :
    (elementsShown program.history).filter Element.isLeaf = program.filter Element.isLeaf ∧
    (elementsShown program.history).Perm program ∧
    (program.countP Element.isLeaf + program.history.toList.count '?' -
      program.countP Element.isBinary : Int) = (piecesOf program.history).length ∧
    (∀ piece ∈ (piecesOf program.history).tail, '?' ∉ piece.toList) ∧
    ∀ bindings : Bindings,
      (∀ name, .leaf (.reference name) ∈ program → (bindings.get? name).isSome) →
      (program.evaluate bindings = .error .insufficient ↔
        ∃ piece, piecesOf program.history = [piece] ∧ '?' ∈ piece.toList) := by
  have expressionLegible : ∀ expression ∈ program.expressions, expression.IsLegible :=
    fun expression member => isLegible_of_mem_expressions legible member
  have pieces : piecesOf program.history = program.expressions.map Expression.text := by
    apply piecesOf_history
    intro expression member separator separates
    rcases exists_reads_of_mem_expressions legible member with ⟨reading, reads⟩
    exact reads.separator_not_mem separates
  have question_iff : ∀ expression ∈ program.expressions,
      ('?' ∈ expression.text.toList ↔ ¬expression.IsComplete) := fun expression member =>
    Expression.questionMark_mem_text_iff (expressionLegible expression member)
  have whole := program.flatMap_elements_expressions
  rw [pieces, elementsShown_history nonempty expressionLegible]
  refine ⟨?_, ?_, ?_, ?_, ?_⟩
  · rw [List.filter_flatMap, List.flatMap_congr fun expression _ => expression.filter_written,
      ← List.filter_flatMap, whole]
  · have moved := List.Perm.flatMap_left program.expressions fun expression _ =>
      expression.written_perm
    rwa [whole] at moved
  · have counted := program.weight_add_missingCount
    rw [weight_eq_countP, ← count_history nonempty expressionLegible] at counted
    rw [List.length_map]
    omega
  · rw [← List.map_tail, List.forall_mem_map]
    intro expression member question
    have incomplete := (question_iff expression (List.mem_of_mem_tail member)).mp question
    exact incomplete (isComplete_of_mem_tail member)
  · intro bindings bound
    rw [evaluate_eq_insufficient_iff nonempty (unboundNames_eq_nil bound)]
    constructor
    · rintro ⟨expression, single, incomplete⟩
      have member : expression ∈ program.expressions := by simp [single]
      refine ⟨expression.text, by rw [single, List.map_singleton], ?_⟩
      exact (question_iff expression member).mpr incomplete
    · rintro ⟨piece, single, question⟩
      rcases List.map_eq_singleton_iff.mp single with ⟨expression, only, rfl⟩
      have member : expression ∈ program.expressions := by simp [only]
      exact ⟨expression, only, (question_iff expression member).mp question⟩

theorem history_shows_elements_of_root :
    (elementsShown "√(?-M)=").Perm [.leaf (.reference "M"), .binary Catalogue.minus,
      .unary Catalogue.squareRoot] ∧
    evaluate [.leaf (.reference "M"), .binary Catalogue.minus, .unary Catalogue.squareRoot]
      (Bindings.empty.set "M" 2) = .error .insufficient := by
  have ordinary : isVariableName "M" = true := by decide +kernel
  have isWord : IsWord "M" := isWord_of_isAlpha (by decide) (List.all_eq_true.mp (by decide))
  have history : history [.leaf (.reference "M"), .binary Catalogue.minus,
      .unary Catalogue.squareRoot] = "√(?-M)=" := by decide +kernel
  have pieces : piecesOf "√(?-M)=" = ["√(?-M)"] := by decide +kernel
  have legible : ∀ element ∈ ([.leaf (.reference "M"), .binary Catalogue.minus,
      .unary Catalogue.squareRoot] : Program), element.IsLegible := by
    simp only [List.forall_mem_cons]
    refine ⟨⟨.reference ordinary, ?_⟩, ⟨.known (by simp [Catalogue.elements]), nofun⟩,
      ⟨.known (by simp [Catalogue.elements]), nofun⟩, nofun⟩
    intro name same
    cases same
    exact isWord
  have shows := history_shows_elements (List.cons_ne_nil _ _) legible
  rw [history, pieces] at shows
  rcases shows with ⟨_, accounted, _, _, evaluates⟩
  have bound : ∀ name, Element.leaf (.reference name) ∈ ([.leaf (.reference "M"),
      .binary Catalogue.minus, .unary Catalogue.squareRoot] : Program) →
        ((Bindings.empty.set "M" 2).get? name).isSome := by
    intro name member
    simp only [List.mem_cons, List.not_mem_nil, reduceCtorEq, or_false, Element.leaf.injEq,
      Leaf.reference.injEq] at member
    rw [member, Bindings.get?_set, if_pos rfl]
    rfl
  exact ⟨accounted, (evaluates _ bound).mpr ⟨"√(?-M)", rfl, by decide⟩⟩

end Program

end RpnCalculator
