import Mathlib.Logic.Relation
import Mathlib.Algebra.Field.Rat
import RpnCalculator.Proofs.LastExpression

/-! Regrouping chains of sums and chains of products to the left, which changes neither the text of
an expression nor, in rational arithmetic, its value. -/

namespace RpnCalculator.Expression

open Relation

/-- May `a outer (b inner c)` be regrouped as `(a outer b) inner c`? -/
def Chains (outer inner : BinaryOperation) : Prop :=
  (outer = Catalogue.plus ∧ (inner = Catalogue.plus ∨ inner = Catalogue.minus)) ∨
    (outer = Catalogue.times ∧ (inner = Catalogue.times ∨ inner = Catalogue.divide))

inductive Reassociates : Expression → Expression → Prop
  | here {outer inner : BinaryOperation} (first second third : Expression) :
      Chains outer inner →
      Reassociates (.binary outer first (.binary inner second third))
        (.binary inner (.binary outer first second) third)
  | argument {before after : Expression} (operation : UnaryOperation) :
      Reassociates before after →
      Reassociates (.unary operation before) (.unary operation after)
  | left {before after : Expression} (operation : BinaryOperation) (right : Expression) :
      Reassociates before after →
      Reassociates (.binary operation before right) (.binary operation after right)
  | right {before after : Expression} (operation : BinaryOperation) (left : Expression) :
      Reassociates before after →
      Reassociates (.binary operation left before) (.binary operation left after)

/-! ## Where regrouping ends -/

/-- No right operand of an addition is a sum, and none of a multiplication is a product. -/
def IsLeftward : Expression → Prop
  | .missing => True
  | .leaf _ => True
  | .unary _ argument => argument.IsLeftward
  | .binary outer left right =>
    left.IsLeftward ∧ right.IsLeftward ∧
      ∀ inner second third, right = .binary inner second third → ¬Chains outer inner

theorem Reassociates.not_isLeftward {expression next : Expression}
    (regrouped : Reassociates expression next) : ¬expression.IsLeftward := by
  induction regrouped with
  | here first second third chains => exact fun leftward => leftward.2.2 _ _ _ rfl chains
  | argument operation regrouped induction => exact induction
  | left operation right regrouped induction => exact fun leftward => induction leftward.1
  | right operation left regrouped induction => exact fun leftward => induction leftward.2.1

theorem isLeftward_iff {expression : Expression} :
    expression.IsLeftward ↔ ∀ next, ¬Reassociates expression next := by
  constructor
  · intro leftward next regrouped
    exact regrouped.not_isLeftward leftward
  · intro final
    induction expression with
    | missing => trivial
    | leaf item => trivial
    | unary operation argument induction =>
        exact induction fun next regrouped => final _ (.argument operation regrouped)
    | binary operation left right leftInduction rightInduction =>
        refine ⟨?_, ?_, ?_⟩
        · exact leftInduction fun next regrouped => final _ (.left operation right regrouped)
        · exact rightInduction fun next regrouped => final _ (.right operation left regrouped)
        · intro inner second third equal chains
          subst equal
          exact final _ (.here left second third chains)

def operationCount : Expression → Nat
  | .missing => 0
  | .leaf _ => 0
  | .unary _ argument => argument.operationCount
  | .binary _ left right => left.operationCount + right.operationCount + 1

def rightwardness : Expression → Nat
  | .missing => 0
  | .leaf _ => 0
  | .unary _ argument => argument.rightwardness
  | .binary _ left right =>
    left.rightwardness + right.rightwardness + right.operationCount

theorem Reassociates.operationCount_eq {expression next : Expression}
    (regrouped : Reassociates expression next) :
    next.operationCount = expression.operationCount := by
  induction regrouped with
  | here first second third chains => simp only [operationCount]; omega
  | argument operation regrouped induction => exact induction
  | left operation right regrouped induction => simp only [operationCount, induction]
  | right operation left regrouped induction => simp only [operationCount, induction]

theorem Reassociates.rightwardness_lt {expression next : Expression}
    (regrouped : Reassociates expression next) : next.rightwardness < expression.rightwardness := by
  induction regrouped with
  | here first second third chains => simp only [rightwardness, operationCount]; omega
  | argument operation regrouped induction => exact induction
  | left operation right regrouped induction => simp only [rightwardness]; omega
  | right operation left regrouped induction =>
      simp only [rightwardness, regrouped.operationCount_eq]
      omega

theorem exists_isLeftward (expression : Expression) :
    ∃ final, ReflTransGen Reassociates expression final ∧ final.IsLeftward := by
  induction measure : expression.rightwardness using Nat.strongRecOn generalizing expression with
  | _ _ induction =>
      by_cases leftward : expression.IsLeftward
      · exact ⟨expression, .refl, leftward⟩
      · rw [isLeftward_iff] at leftward
        push Not at leftward
        rcases leftward with ⟨next, regrouped⟩
        rcases induction next.rightwardness (measure ▸ regrouped.rightwardness_lt) next rfl with
          ⟨final, further, finalLeftward⟩
        exact ⟨final, .head regrouped further, finalLeftward⟩

/-! ## What regrouping keeps -/

theorem Chains.precedence_eq {outer inner : BinaryOperation} (chains : Chains outer inner) :
    inner.precedence = outer.precedence := by
  rcases chains with ⟨rfl, rfl | rfl⟩ | ⟨rfl, rfl | rfl⟩ <;> rfl

theorem Chains.symbol_ne {outer inner : BinaryOperation} (chains : Chains outer inner) :
    ¬(outer.symbol = "-" ∨ outer.symbol = "÷") := by
  rcases chains with ⟨rfl, _⟩ | ⟨rfl, _⟩ <;> decide

theorem Reassociates.precedence_eq {expression next : Expression}
    (regrouped : Reassociates expression next) : next.precedence = expression.precedence := by
  cases regrouped with
  | here first second third chains => exact chains.precedence_eq
  | argument operation regrouped => rfl
  | left operation right regrouped => rfl
  | right operation left regrouped => rfl

theorem Reassociates.text_eq {expression next : Expression}
    (regrouped : Reassociates expression next) : next.text = expression.text := by
  induction regrouped with
  | here first second third chains =>
      have same := chains.precedence_eq
      simp [text, precedence, same, chains.symbol_ne, String.append_assoc]
  | argument operation regrouped induction => simp only [text, induction]
  | left operation right regrouped induction =>
      simp only [text, induction, regrouped.precedence_eq]
  | right operation left regrouped induction =>
      simp only [text, induction, regrouped.precedence_eq]

theorem Reassociates.mem_elements_iff {expression next : Expression} {element : Element}
    (regrouped : Reassociates expression next) :
    element ∈ next.elements ↔ element ∈ expression.elements := by
  induction regrouped with
  | here first second third chains =>
      simp only [elements, List.mem_append, List.mem_singleton]
      grind
  | argument operation regrouped induction => simp only [elements, List.mem_append, induction]
  | left operation right regrouped induction => simp only [elements, List.mem_append, induction]
  | right operation left regrouped induction => simp only [elements, List.mem_append, induction]

/-! ## Rational values -/

def width : Expression → Nat
  | .missing => 1
  | .leaf _ => 1
  | .unary _ argument => argument.width
  | .binary _ left right => left.width + right.width

def rationalOperation (operation : BinaryOperation) (left right : Rat) : Rat :=
  if operation.symbol = "+" then left + right
  else if operation.symbol = "-" then left - right
  else if operation.symbol = "×" then left * right
  else left / right

/-- The rational value of an expression. The value of a leaf may depend on its place among the
leaves from left to right, on the leaf itself, or on both; the first leaf is at `place`. -/
def rationalValue (assignment : Nat → Option Leaf → Rat) (unary : UnaryOperation → Rat → Rat) :
    Expression → (place : Nat) → Rat
  | .missing, place => assignment place none
  | .leaf item, place => assignment place (some item)
  | .unary operation argument, place =>
    unary operation (argument.rationalValue assignment unary place)
  | .binary operation left right, place =>
    rationalOperation operation (left.rationalValue assignment unary place)
      (right.rationalValue assignment unary (place + left.width))

theorem Chains.rationalOperation_assoc {outer inner : BinaryOperation}
    (chains : Chains outer inner) (first second third : Rat) :
    rationalOperation inner (rationalOperation outer first second) third =
      rationalOperation outer first (rationalOperation inner second third) := by
  rcases chains with ⟨rfl, rfl | rfl⟩ | ⟨rfl, rfl | rfl⟩
  · exact add_assoc first second third
  · exact add_sub_assoc first second third
  · exact mul_assoc first second third
  · exact mul_div_assoc first second third

theorem Reassociates.width_eq {expression next : Expression}
    (regrouped : Reassociates expression next) : next.width = expression.width := by
  induction regrouped with
  | here first second third chains => simp only [width]; omega
  | argument operation regrouped induction => exact induction
  | left operation right regrouped induction => simp only [width, induction]
  | right operation left regrouped induction => simp only [width, induction]

theorem Reassociates.rationalValue_eq {expression next : Expression}
    (regrouped : Reassociates expression next) (assignment : Nat → Option Leaf → Rat)
    (unary : UnaryOperation → Rat → Rat) (place : Nat) :
    next.rationalValue assignment unary place = expression.rationalValue assignment unary place := by
  induction regrouped generalizing place with
  | here first second third chains =>
      simp only [rationalValue, width, chains.rationalOperation_assoc, Nat.add_assoc]
  | argument operation regrouped induction => simp only [rationalValue, induction]
  | left operation right regrouped induction =>
      simp only [rationalValue, induction, regrouped.width_eq]
  | right operation left regrouped induction => simp only [rationalValue, induction]

end RpnCalculator.Expression
