import RpnCalculator.Proofs.Infix.Grammar
import RpnCalculator.Proofs.Infix.Reassociation

/-! The texts of expressions obey the infix grammar. -/

namespace RpnCalculator

open Infix

/-! ## Words -/

namespace Numeral

theorem isWord_ofMagnitude (magnitude : Nat) : IsWord (String.ofList (ofMagnitude magnitude)) := by
  rw [ofMagnitude]
  split
  · decide
  · constructor
    · rcases (Decimal.shortest magnitude).text_eq_cons with ⟨digit, rest, text, _⟩
      rw [text, ne_eq, String.ofList_eq_empty_iff]
      exact List.cons_ne_nil digit rest
    · have others : separators.all
          (fun separator => !separator.isDigit && separator != '.') = true := by decide
      intro character member separates
      rw [String.toList_ofList] at member
      have neither := List.all_eq_true.mp others character separates
      rcases Decimal.isDigit_or_of_mem_text member with digit | point
      · simp [digit] at neither
      · simp [point] at neither

theorem write_eq_word (value : Float) :
    IsWord (write value) ∨ ∃ word, IsWord word ∧ write value = "-" ++ word := by
  simp only [write]
  split
  · exact .inl (by decide)
  · split
    · refine .inr ⟨_, isWord_ofMagnitude (Binary64.magnitude value), ?_⟩
      rw [String.ofList_cons]
      rfl
    · exact .inl (isWord_ofMagnitude _)

end Numeral

/-! ## Elements -/

/-- Can the infix grammar read the element's text? The name of a variable has to be a word. -/
def Element.IsLegible (element : Element) : Prop :=
  element.IsEnterable ∧ ∀ name, element = .leaf (.reference name) → IsWord name

theorem known_of_isLegible_unary {operation : UnaryOperation}
    (legible : Element.IsLegible (.unary operation)) : .unary operation ∈ Catalogue.elements := by
  cases legible.1 with
  | known known => exact known

theorem isLegible_binary_cases {operation : BinaryOperation}
    (legible : Element.IsLegible (.binary operation)) :
    (operation = Catalogue.plus ∨ operation = Catalogue.minus) ∨
      operation = Catalogue.times ∨ operation = Catalogue.divide := by
  cases legible.1 with
  | known known =>
      simp only [Catalogue.elements, List.mem_cons, List.not_mem_nil, or_false, reduceCtorEq,
        false_or, Element.binary.injEq] at known
      tauto

theorem leafOfWord?_text {item : Leaf} (legible : Element.IsLegible (.leaf item)) :
    leafOfWord? item.text = some item := by
  have named := Element.ofToken?_text legible.1
  rw [Element.text] at named
  cases item with
  | operand value => rw [leafOfWord?, named]; rfl
  | reference name => rw [leafOfWord?, named]; rfl
  | constant name value => rw [leafOfWord?, named]; rfl

theorem Leaf.text_cases {item : Leaf} (legible : Element.IsLegible (.leaf item)) :
    IsWord item.text ∨ ∃ (value : Float) (word : String),
      item = .operand value ∧ IsWord word ∧ Numeral.write value = "-" ++ word := by
  cases item with
  | operand value =>
      rcases Numeral.write_eq_word value with isWord | ⟨word, isWord, written⟩
      · exact .inl isWord
      · exact .inr ⟨value, word, rfl, isWord, written⟩
  | reference name => exact .inl (legible.2 name rfl)
  | constant name value =>
      cases legible.1 with
      | known known =>
          simp only [Catalogue.elements, List.mem_cons, List.not_mem_nil, or_false, reduceCtorEq,
            false_or, Element.leaf.injEq, Leaf.constant.injEq] at known
          rcases known with ⟨rfl, rfl⟩
          exact .inl (by decide)

theorem reads_leaf {item : Leaf} (legible : Element.IsLegible (.leaf item)) :
    Reads .operand item.text (.leaf item) := by
  rcases Leaf.text_cases legible with isWord | ⟨value, word, rfl, isWord, written⟩
  · exact .word isWord (leafOfWord?_text legible)
  · rw [Leaf.text, written]
    exact .negative isWord (written ▸ Numeral.read?_write value)

/-! ## Expressions -/

namespace Infix

def Level.loosest : Level → Int
  | .sum => 1
  | .product => 2
  | .operand => 3

theorem precedence_of_plus {operation : BinaryOperation}
    (adds : operation = Catalogue.plus ∨ operation = Catalogue.minus) :
    operation.precedence = Level.sum.loosest := by
  rcases adds with rfl | rfl <;> rfl

theorem precedence_of_times {operation : BinaryOperation}
    (multiplies : operation = Catalogue.times ∨ operation = Catalogue.divide) :
    operation.precedence = Level.product.loosest := by
  rcases multiplies with rfl | rfl <;> rfl

theorem precedence_bounds {operation : BinaryOperation}
    (legible : Element.IsLegible (.binary operation)) :
    Level.sum.loosest ≤ operation.precedence ∧ operation.precedence < tightest := by
  rcases isLegible_binary_cases legible with (rfl | rfl) | rfl | rfl <;> decide

theorem Reads.ofOperandAt {text : String} {expression : Expression}
    (reads : Reads .operand text expression) (level : Level) : Reads level text expression := by
  cases level with
  | operand => exact reads
  | product => exact .ofOperand reads
  | sum => exact .ofProduct (.ofOperand reads)

theorem Reads.encloseIf {text : String} {expression : Expression} {level : Level} {loose : Prop}
    [Decidable loose] (inside : Reads .sum text expression)
    (bare : ¬loose → Reads level text expression) :
    Reads level (if loose then "(" ++ text ++ ")" else text) expression := by
  split
  · exact (Reads.enclosed inside).ofOperandAt level
  · exact bare ‹_›

end Infix

namespace Expression

def IsLegible (expression : Expression) : Prop :=
  ∀ element ∈ expression.elements, element.IsLegible

theorem isLegible_leaf_iff {item : Leaf} :
    (leaf item).IsLegible ↔ Element.IsLegible (.leaf item) := by
  simp [IsLegible, elements]

theorem isLegible_unary_iff {operation : UnaryOperation} {argument : Expression} :
    (unary operation argument).IsLegible ↔
      Element.IsLegible (.unary operation) ∧ argument.IsLegible := by
  simp [IsLegible, elements, or_imp, forall_and, and_comm]

theorem isLegible_binary_iff {operation : BinaryOperation} {left right : Expression} :
    (binary operation left right).IsLegible ↔
      Element.IsLegible (.binary operation) ∧ left.IsLegible ∧ right.IsLegible := by
  simp [IsLegible, elements, or_imp, forall_and, and_comm, and_left_comm]

theorem chains_of_precedence_eq {outer inner : BinaryOperation}
    (outerLegible : Element.IsLegible (.binary outer))
    (innerLegible : Element.IsLegible (.binary inner)) (same : inner.precedence = outer.precedence)
    (regroups : ¬(outer.symbol = "-" ∨ outer.symbol = "÷")) : Chains outer inner := by
  rcases isLegible_binary_cases outerLegible with (rfl | rfl) | rfl | rfl
  · rcases isLegible_binary_cases innerLegible with adds | rfl | rfl
    · exact .inl ⟨rfl, adds⟩
    · exact absurd same (by decide)
    · exact absurd same (by decide)
  · exact absurd (.inl rfl) regroups
  · rcases isLegible_binary_cases innerLegible with (rfl | rfl) | multiplies
    · exact absurd same (by decide)
    · exact absurd same (by decide)
    · exact .inr ⟨rfl, multiplies⟩
  · exact absurd (.inr rfl) regroups

theorem loosest_sum_le_precedence {expression : Expression} (legible : expression.IsLegible) :
    Level.sum.loosest ≤ expression.precedence := by
  have bound : Level.sum.loosest ≤ tightest := by decide
  cases expression with
  | missing | leaf | unary => exact bound
  | binary operation left right => exact (precedence_bounds (isLegible_binary_iff.mp legible).1).1

/-- Where chains are grouped to the left, a right operand without parentheses binds more tightly
than the operation before it. -/
theorem precedence_lt_of_bare {outer : BinaryOperation} {left right : Expression}
    (legible : (binary outer left right).IsLegible)
    (leftward : (binary outer left right).IsLeftward)
    (bare : ¬(right.precedence < outer.precedence ∨ (right.precedence = outer.precedence ∧
      (outer.symbol = "-" ∨ outer.symbol = "÷")))) : outer.precedence < right.precedence := by
  rcases isLegible_binary_iff.mp legible with ⟨outerLegible, _, rightLegible⟩
  rcases not_or.mp bare with ⟨notLooser, notEqual⟩
  rcases Int.lt_or_eq_of_le (Int.not_lt.mp notLooser) with tighter | same
  · exact tighter
  · cases right with
    | binary inner second third =>
        have innerLegible := (isLegible_binary_iff.mp rightLegible).1
        have regroups := fun sign => notEqual ⟨same.symm, sign⟩
        exact absurd (chains_of_precedence_eq outerLegible innerLegible same.symm regroups)
          (leftward.2.2 inner second third rfl)
    | missing | leaf | unary => exact (precedence_bounds outerLegible).2

theorem reads_text {expression : Expression} (legible : expression.IsLegible)
    (leftward : expression.IsLeftward) (level : Level)
    (loose : level.loosest ≤ expression.precedence) :
    Reads level expression.text expression := by
  induction expression generalizing level with
  | missing => exact Reads.missing.ofOperandAt level
  | leaf item => exact (reads_leaf (isLegible_leaf_iff.mp legible)).ofOperandAt level
  | unary operation argument induction =>
      rcases isLegible_unary_iff.mp legible with ⟨operationLegible, argumentLegible⟩
      have inside := induction argumentLegible leftward .sum
        (loosest_sum_le_precedence argumentLegible)
      exact (Reads.unary (known_of_isLegible_unary operationLegible) inside).ofOperandAt level
  | binary operation left right leftInduction rightInduction =>
      rcases isLegible_binary_iff.mp legible with ⟨operationLegible, leftLegible, rightLegible⟩
      have leftReads := leftInduction leftLegible leftward.1
      have rightReads := rightInduction rightLegible leftward.2.1
      have leftInside := leftReads .sum (loosest_sum_le_precedence leftLegible)
      have rightInside := rightReads .sum (loosest_sum_le_precedence rightLegible)
      have tighter := precedence_lt_of_bare legible leftward
      rcases isLegible_binary_cases operationLegible with adds | multiplies
      · have equal := precedence_of_plus adds
        have sum : Reads .sum (binary operation left right).text _ :=
          .plus adds (leftInside.encloseIf fun _ => leftInside)
            (rightInside.encloseIf fun bare => rightReads .product (by grind [Level.loosest]))
        cases level with
        | sum => exact sum
        | product | operand => grind [Level.loosest, precedence]
      · have equal := precedence_of_times multiplies
        have product : Reads .product (binary operation left right).text _ :=
          .times multiplies
            (leftInside.encloseIf fun bare => leftReads .product (by grind [Level.loosest]))
            (rightInside.encloseIf fun bare => rightReads .operand (by grind [Level.loosest]))
        cases level with
        | sum => exact .ofProduct product
        | product => exact product
        | operand => grind [Level.loosest, precedence]

end Expression

/-! ## Separators of pieces -/

theorem not_mem_toList_append {character : Char} {before after : String}
    (notBefore : character ∉ before.toList) (notAfter : character ∉ after.toList) :
    character ∉ (before ++ after).toList := by
  rw [String.toList_append, List.mem_append]
  exact not_or.mpr ⟨notBefore, notAfter⟩

theorem Infix.Reads.separator_not_mem {level : Level} {text : String} {expression : Expression}
    (reads : Reads level text expression) {separator : Char}
    (separates : separator ∈ [',', ' ', '=']) : separator ∉ text.toList := by
  simp only [List.mem_cons, List.not_mem_nil, or_false] at separates
  have marks : ∀ mark ∈ ["?", "(", ")", "+", "-", "×", "÷"], separator ∉ mark.toList := by
    rcases separates with rfl | rfl | rfl <;> decide
  have words {word : String} (isWord : IsWord word) : separator ∉ word.toList := by
    intro member
    apply isWord.2 separator member
    rcases separates with rfl | rfl | rfl <;> decide
  have enclosed {text : String} (inside : separator ∉ text.toList) :
      separator ∉ ("(" ++ text ++ ")").toList :=
    not_mem_toList_append (not_mem_toList_append (marks "(" (by decide)) inside)
      (marks ")" (by decide))
  induction reads with
  | missing => exact marks "?" (by decide)
  | word isWord stands => exact words isWord
  | negative isWord read => exact not_mem_toList_append (marks "-" (by decide)) (words isWord)
  | enclosed reads induction => exact enclosed induction
  | unary known reads induction =>
      exact not_mem_toList_append (words (isWord_symbol known)) (enclosed induction)
  | ofOperand reads induction => exact induction
  | ofProduct reads induction => exact induction
  | times multiplies leftReads rightReads leftInduction rightInduction =>
      refine not_mem_toList_append (not_mem_toList_append leftInduction ?_) rightInduction
      rcases multiplies with rfl | rfl
      · exact marks "×" (by decide)
      · exact marks "÷" (by decide)
  | plus adds leftReads rightReads leftInduction rightInduction =>
      refine not_mem_toList_append (not_mem_toList_append leftInduction ?_) rightInduction
      rcases adds with rfl | rfl
      · exact marks "+" (by decide)
      · exact marks "-" (by decide)

end RpnCalculator
