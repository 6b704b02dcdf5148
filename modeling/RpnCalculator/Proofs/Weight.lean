import RpnCalculator.Proofs.UniqueReading

/-! The outcome of an evaluation, found by counting. A leaf adds a value to those that there are, a
unary operation none, and a binary operation takes one away. The shortest final part of a program
that adds one value in all is its last expression; if no final part does, the last expression is the
whole program, and lacks an operand. -/

namespace RpnCalculator

/-! ## Weights -/

def Element.weight : Element → Int
  | .leaf _ => 1
  | .unary _ => 0
  | .binary _ => -1

namespace Program

def weight : Program → Int
  | [] => 0
  | element :: later => element.weight + weight later

theorem weight_append (program later : Program) :
    weight (program ++ later) = program.weight + later.weight := by
  induction program with
  | nil => exact (Int.zero_add later.weight).symm
  | cons element more induction =>
      rw [List.cons_append, weight, weight, induction, Int.add_assoc]

theorem weight_concat (program : Program) (element : Element) :
    weight (program ++ [element]) = program.weight + element.weight := by
  rw [weight_append, weight, weight, Int.add_zero]

/-- The part decides on the outcome of the program: it is the shortest final part that weighs one,
or the whole program if no final part does. -/
def DecidedBy (program part : Program) : Prop :=
  (part <:+ program ∧ part.weight = 1 ∧
    ∀ other : Program, other <:+ program → other.weight = 1 → part.length ≤ other.length) ∨
  (part = program ∧ ∀ other : Program, other <:+ program → other.weight ≠ 1)

theorem DecidedBy.unique {program part other : Program} (decides : program.DecidedBy part)
    (otherDecides : program.DecidedBy other) : part = other := by
  rcases decides with ⟨final, heavy, shortest⟩ | ⟨rfl, none⟩
  · rcases otherDecides with ⟨otherFinal, otherHeavy, otherShortest⟩ | ⟨_, none⟩
    · have shorter := shortest other otherFinal otherHeavy
      have longer := otherShortest part final heavy
      exact (List.suffix_of_suffix_length_le final otherFinal shorter).eq_of_length
        (Nat.le_antisymm shorter longer)
    · exact absurd heavy (none part final)
  · rcases otherDecides with ⟨otherFinal, otherHeavy, _⟩ | ⟨rfl, _⟩
    · exact absurd otherHeavy (none other otherFinal)
    · rfl

theorem suffix_append_cases {final before after : Program} (suffix : final <:+ before ++ after) :
    final <:+ after ∨ ∃ part, final = part ++ after ∧ part <:+ before := by
  rcases suffix with ⟨start, split⟩
  rcases List.append_eq_append_iff.mp split with ⟨part, rfl, same⟩ | ⟨part, _, rfl⟩
  · exact .inr ⟨part, same, List.suffix_append start part⟩
  · exact .inl (List.suffix_append part final)

end Program

namespace Expression

theorem weight_elements {expression : Expression} (complete : expression.IsComplete) :
    expression.elements.weight = 1 := by
  induction expression with
  | missing => exact complete.elim
  | leaf item => rfl
  | unary operation argument induction =>
      rw [elements, Program.weight_concat, induction complete]
      rfl
  | binary operation left right leftInduction rightInduction =>
      rw [elements, Program.weight_concat, Program.weight_append, leftInduction complete.1,
        rightInduction complete.2]
      rfl

theorem weight_of_suffix {expression : Expression} {part : Program}
    (final : part <:+ expression.elements) :
    part.weight ≤ 1 ∧ (part.weight = 1 → part = expression.elements ∧ expression.IsComplete) := by
  induction expression generalizing part with
  | missing =>
      rw [List.suffix_nil.mp final]
      exact ⟨by decide, fun heavy => absurd heavy (by decide)⟩
  | leaf item =>
      rcases List.suffix_cons_iff.mp final with rfl | none
      · exact ⟨Int.le_refl 1, fun _ => ⟨rfl, trivial⟩⟩
      · rw [List.suffix_nil.mp none]
        exact ⟨by decide, fun heavy => absurd heavy (by decide)⟩
  | unary operation argument induction =>
      rcases List.suffix_concat_iff.mp final with rfl | ⟨before, rfl, inside⟩
      · exact ⟨by decide, fun heavy => absurd heavy (by decide)⟩
      · rcases induction inside with ⟨light, whole⟩
        rw [Program.weight_concat, Element.weight, Int.add_zero]
        refine ⟨light, fun heavy => ?_⟩
        rcases whole heavy with ⟨rfl, complete⟩
        exact ⟨rfl, complete⟩
  | binary operation left right leftInduction rightInduction =>
      rcases List.suffix_concat_iff.mp final with rfl | ⟨before, rfl, inside⟩
      · exact ⟨by decide, fun heavy => absurd heavy (by decide)⟩
      rw [Program.weight_concat, Element.weight]
      rcases Program.suffix_append_cases inside with onRight | ⟨part, rfl, onLeft⟩
      · have light := (rightInduction onRight).1
        exact ⟨by omega, fun heavy => absurd heavy (by omega)⟩
      · rcases leftInduction onLeft with ⟨leftLight, leftWhole⟩
        rcases rightInduction (List.suffix_refl right.elements) with ⟨rightLight, rightWhole⟩
        rw [Program.weight_append]
        refine ⟨by omega, fun heavy => ?_⟩
        rcases leftWhole (by omega) with ⟨rfl, leftComplete⟩
        exact ⟨rfl, leftComplete, (rightWhole (by omega)).2⟩

theorem weight_elements_eq_one_iff {expression : Expression} :
    expression.elements.weight = 1 ↔ expression.IsComplete :=
  ⟨fun heavy => ((weight_of_suffix (List.suffix_refl _)).2 heavy).2, weight_elements⟩

end Expression

namespace Program

theorem EndsIn.isComplete_or {program rest : Program} {expression : Expression}
    (ends : program.EndsIn expression rest) : expression.IsComplete ∨ rest = [] := by
  induction ends with
  | missing => exact .inr rfl
  | leaf rest item => exact .inl trivial
  | unary operation ends induction => exact induction
  | binary operation rightEnds leftEnds rightInduction leftInduction =>
      rcases rightInduction with rightComplete | rfl
      · exact leftInduction.imp_left fun leftComplete => ⟨leftComplete, rightComplete⟩
      · exact .inr (List.append_eq_nil_iff.mp leftEnds.append_elements.symm).1

theorem EndsIn.isComplete_iff {program rest : Program} {expression : Expression}
    (ends : program.EndsIn expression rest) :
    expression.IsComplete ↔ ∃ final : Program, final <:+ program ∧ final.weight = 1 := by
  have split := ends.append_elements
  constructor
  · intro complete
    exact ⟨expression.elements, split ▸ List.suffix_append rest _,
      Expression.weight_elements complete⟩
  · rintro ⟨final, inside, heavy⟩
    rcases ends.isComplete_or with complete | rfl
    · exact complete
    · rw [split] at inside
      exact ((Expression.weight_of_suffix inside).2 heavy).2

theorem EndsIn.decidedBy {program rest : Program} {expression : Expression}
    (ends : program.EndsIn expression rest) : program.DecidedBy expression.elements := by
  have split := ends.append_elements
  by_cases complete : expression.IsComplete
  · refine .inl ⟨split ▸ List.suffix_append _ _, Expression.weight_elements complete, ?_⟩
    intro other final heavy
    rw [split] at final
    rcases suffix_append_cases final with inside | ⟨part, rfl, _⟩
    · exact Nat.le_of_eq (congrArg List.length ((Expression.weight_of_suffix inside).2 heavy).1).symm
    · rw [List.length_append]
      exact Nat.le_add_left _ _
  · refine .inr ⟨?_, ?_⟩
    · rw [split, ends.isComplete_or.resolve_left complete, List.nil_append]
    · intro other final heavy
      exact complete (ends.isComplete_iff.mpr ⟨other, final, heavy⟩)

end Program

/-! ## Unbound variables -/

def Element.unboundName? (bindings : Bindings) : Element → Option String
  | .leaf (.reference name) => if (bindings.get? name).isNone then some name else none
  | _ => none

def Program.unboundNames (program : Program) (bindings : Bindings) : List String :=
  program.filterMap (Element.unboundName? bindings)

variable {bindings : Bindings}

namespace Expression

theorem unboundNames_unary (operation : UnaryOperation) (argument : Expression) :
    (unary operation argument).elements.unboundNames bindings =
      argument.elements.unboundNames bindings := by
  simp [Program.unboundNames, elements, Element.unboundName?]

theorem unboundNames_binary (operation : BinaryOperation) (left right : Expression) :
    (binary operation left right).elements.unboundNames bindings =
      left.elements.unboundNames bindings ++ right.elements.unboundNames bindings := by
  simp [Program.unboundNames, elements, Element.unboundName?]

theorem isBound_iff_unboundNames_eq_nil {expression : Expression} :
    expression.IsBound bindings ↔ expression.elements.unboundNames bindings = [] := by
  induction expression with
  | missing => simp [IsBound, leaves, elements, Program.unboundNames]
  | leaf item =>
      cases item <;>
        simp [IsBound, leaves, elements, Program.unboundNames, Element.unboundName?,
          Option.isSome_iff_ne_none]
  | unary operation argument induction =>
      rw [unboundNames_unary, ← induction]
      rfl
  | binary operation left right leftInduction rightInduction =>
      rw [unboundNames_binary, List.append_eq_nil_iff, ← leftInduction, ← rightInduction]
      simp only [IsBound, leaves, List.mem_append, or_imp, forall_and]

theorem exists_value_iff {expression : Expression} :
    (∃ value, expression.interpret (cells bindings) = .ok value) ↔
      expression.IsComplete ∧ expression.elements.unboundNames bindings = [] := by
  simp only [interpret_cells_eq_ok_iff, ← Option.isSome_iff_exists, isSome_value?_iff,
    isBound_iff_unboundNames_eq_nil]

end Expression

namespace Program

theorem EndsIn.interpret_eq_unbound {program rest : Program} {expression : Expression}
    (ends : program.EndsIn expression rest) {name : String}
    (last : (expression.elements.unboundNames bindings).getLast? = some name) :
    expression.interpret (cells bindings) = .error (.unbound name) := by
  induction ends with
  | missing => exact nomatch last
  | leaf rest item =>
      cases item with
      | operand | constant => exact nomatch last
      | reference other =>
          cases found : bindings.get? other <;>
            simp_all [Expression.elements, unboundNames, Element.unboundName?,
              Expression.interpret, cells]
  | @unary program rest argument operation ends induction =>
      rw [Expression.unboundNames_unary] at last
      rw [Expression.interpret, induction last]
      rfl
  | @binary program between rest left right operation rightEnds leftEnds rightInduction
      leftInduction =>
      rw [Expression.unboundNames_binary, List.getLast?_append] at last
      cases rightLast : (right.elements.unboundNames bindings).getLast? with
      | some other =>
          rw [rightLast, Option.some_or] at last
          rw [Expression.interpret, rightInduction (rightLast.trans last)]
          cases left.interpret (cells bindings) <;> rfl
      | none =>
          rw [rightLast, Option.none_or] at last
          have rightComplete : right.IsComplete := by
            rcases rightEnds.isComplete_or with complete | rfl
            · exact complete
            · -- Nothing is left over for the left operand, so it has no variable.
              rw [(leftEnds.unique .missing).1] at last
              exact nomatch last
          rcases Expression.exists_value_iff.mpr
            ⟨rightComplete, List.getLast?_eq_none_iff.mp rightLast⟩ with ⟨value, valued⟩
          rw [Expression.interpret, valued, leftInduction last]
          rfl

theorem EndsIn.interpret_eq_insufficient {program rest : Program} {expression : Expression}
    (ends : program.EndsIn expression rest) (incomplete : ¬expression.IsComplete)
    (bound : expression.elements.unboundNames bindings = []) :
    expression.interpret (cells bindings) = .error .insufficient := by
  induction ends with
  | missing => rfl
  | leaf rest item => exact absurd trivial incomplete
  | @unary program rest argument operation ends induction =>
      rw [Expression.unboundNames_unary] at bound
      rw [Expression.interpret, induction incomplete bound]
      rfl
  | @binary program between rest left right operation rightEnds leftEnds rightInduction
      leftInduction =>
      rw [Expression.unboundNames_binary, List.append_eq_nil_iff] at bound
      by_cases rightComplete : right.IsComplete
      · have leftIncomplete : ¬left.IsComplete := fun complete =>
          incomplete ⟨complete, rightComplete⟩
        rcases Expression.exists_value_iff.mpr ⟨rightComplete, bound.2⟩ with ⟨value, valued⟩
        rw [Expression.interpret, valued, leftInduction leftIncomplete bound.1]
        rfl
      · rw [Expression.interpret, rightInduction rightComplete bound.2]
        cases left.interpret (cells bindings) <;> rfl

/-! ## Outcomes -/

variable {program rest : Program} {expression : Expression}

theorem EndsIn.evaluateLast_cases (ends : program.EndsIn expression rest) (bindings : Bindings) :
    (∃ name, (expression.elements.unboundNames bindings).getLast? = some name ∧
      program.evaluateLast bindings = .error (.unbound name)) ∨
    (expression.elements.unboundNames bindings = [] ∧ ¬expression.IsComplete ∧
      program.evaluateLast bindings = .error .insufficient) ∨
    (expression.elements.unboundNames bindings = [] ∧ expression.IsComplete ∧
      ∃ value, program.evaluateLast bindings = .ok (value, rest)) := by
  rw [ends.evaluateLast_eq bindings]
  cases last : (expression.elements.unboundNames bindings).getLast? with
  | some name =>
      rw [ends.interpret_eq_unbound last]
      exact .inl ⟨name, rfl, rfl⟩
  | none =>
      have bound := List.getLast?_eq_none_iff.mp last
      by_cases complete : expression.IsComplete
      · rcases Expression.exists_value_iff.mpr ⟨complete, bound⟩ with ⟨value, valued⟩
        rw [valued]
        exact .inr (.inr ⟨bound, complete, value, rfl⟩)
      · rw [ends.interpret_eq_insufficient complete bound]
        exact .inr (.inl ⟨bound, complete, rfl⟩)

theorem EndsIn.evaluateLast_eq_unbound_iff (ends : program.EndsIn expression rest) {name : String} :
    program.evaluateLast bindings = .error (.unbound name) ↔
      (expression.elements.unboundNames bindings).getLast? = some name := by
  rcases ends.evaluateLast_cases bindings with
    ⟨last, isLast, outcome⟩ | ⟨bound, _, outcome⟩ | ⟨bound, _, _, outcome⟩
  · rw [outcome, isLast, Except.error.injEq, EvalError.unbound.injEq, Option.some.injEq]
  · simp [outcome, bound]
  · simp [outcome, bound]

theorem EndsIn.evaluateLast_eq_insufficient_iff (ends : program.EndsIn expression rest) :
    program.evaluateLast bindings = .error .insufficient ↔
      ¬expression.IsComplete ∧ expression.elements.unboundNames bindings = [] := by
  rcases ends.evaluateLast_cases bindings with
    ⟨last, isLast, outcome⟩ | ⟨bound, incomplete, outcome⟩ | ⟨bound, complete, _, outcome⟩
  · have unbound := List.getLast?_isSome.mp (Option.isSome_of_eq_some isLast)
    simp [outcome, unbound]
  · simp [outcome, incomplete, bound]
  · simp [outcome, complete]

theorem EndsIn.exists_value_iff (ends : program.EndsIn expression rest) {before : Program} :
    (∃ value, program.evaluateLast bindings = .ok (value, before)) ↔
      expression.IsComplete ∧ expression.elements.unboundNames bindings = [] ∧ before = rest := by
  rcases ends.evaluateLast_cases bindings with
    ⟨last, isLast, outcome⟩ | ⟨bound, incomplete, outcome⟩ | ⟨bound, complete, value, outcome⟩
  · have unbound := List.getLast?_isSome.mp (Option.isSome_of_eq_some isLast)
    simp [outcome, unbound]
  · simp [outcome, incomplete]
  · simp [outcome, complete, bound, eq_comm]

/-- Counting tells the outcome of an evaluation. The shortest final part of the program that weighs
one, or else the whole program, decides on it alone: its last unbound variable is reported; if it
has none, a program without such a part lacks operands, and any other has a value and leaves over
what is before that part. What is before it has no influence. -/
theorem evaluateLast_decided_by_weight (program : Program) (bindings : Bindings) :
    ∃ part, (∀ other, program.DecidedBy other ↔ other = part) ∧
      (∀ name, program.evaluateLast bindings = .error (.unbound name) ↔
        (part.unboundNames bindings).getLast? = some name) ∧
      (program.evaluateLast bindings = .error .insufficient ↔
        (∀ suffix : Program, suffix <:+ program → suffix.weight ≠ 1) ∧
          program.unboundNames bindings = []) ∧
      (∀ rest, (∃ value, program.evaluateLast bindings = .ok (value, rest)) ↔
        part.weight = 1 ∧ part.unboundNames bindings = [] ∧ program = rest ++ part) ∧
      (part.weight = 1 → ∀ before, evaluate (before ++ part) bindings = program.evaluate bindings) := by
  rcases endsIn_exists program with ⟨expression, rest, ends⟩
  have decides := ends.decidedBy
  have split := ends.append_elements
  refine ⟨expression.elements, ?_, ?_, ?_, ?_, ?_⟩
  · intro other
    exact ⟨fun otherDecides => otherDecides.unique decides, fun same => same ▸ decides⟩
  · intro name
    exact ends.evaluateLast_eq_unbound_iff
  · have light_iff : ¬expression.IsComplete ↔
        ∀ suffix : Program, suffix <:+ program → suffix.weight ≠ 1 := by
      simp only [ends.isComplete_iff, not_exists, not_and, ne_eq]
    rw [ends.evaluateLast_eq_insufficient_iff, ← light_iff]
    refine and_congr_right fun incomplete => ?_
    rw [split, ends.isComplete_or.resolve_left incomplete, List.nil_append]
  · intro before
    have same : before = rest ↔ program = before ++ expression.elements := by
      rw [split, List.append_left_inj, eq_comm]
    rw [ends.exists_value_iff, Expression.weight_elements_eq_one_iff, same]
  · intro heavy before
    have complete := Expression.weight_elements_eq_one_iff.mp heavy
    rw [(endsIn_append_elements complete before).evaluate_eq, ends.evaluate_eq]

theorem evaluateLast_decided_by_weight_of_sum :
    evaluateLast [.leaf (.operand 1), .leaf (.reference "x"), .leaf (.reference "y"),
      .binary Catalogue.plus] .empty = .error (.unbound "y") := by
  have complete : Expression.IsComplete
      (.binary Catalogue.plus (.leaf (.reference "x")) (.leaf (.reference "y"))) :=
    ⟨trivial, trivial⟩
  have decides := (endsIn_append_elements complete [.leaf (.operand 1)]).decidedBy
  rcases evaluateLast_decided_by_weight _ .empty with ⟨part, decided, unbound, _⟩
  apply (unbound "y").mpr
  rw [← (decided _).mp decides]
  decide

end Program

end RpnCalculator
