import RpnCalculator.Proofs.Infix.Legibility
import RpnCalculator.Proofs.Infix.Pieces
import RpnCalculator.Proofs.Infix.Reader

/-! The history leaves out the parentheses of `1+(2+3)`, so that what is read back may be grouped
otherwise than what was entered: it is the entered expression with every chain of sums and every
chain of products grouped to the left, and nothing else changed. -/

namespace RpnCalculator

open Relation Infix

namespace Expression

/-- `expression.RegroupsTo final`: regrouping leads from the one to the other, and no further. -/
def RegroupsTo (expression final : Expression) : Prop :=
  ReflTransGen Reassociates expression final ∧ ∀ next, ¬Reassociates final next

variable {expression final : Expression}

theorem eq_of_regrouped {Value : Type} {view : Expression → Value}
    (kept : ∀ {before after : Expression}, Reassociates before after → view after = view before)
    (regrouped : ReflTransGen Reassociates expression final) : view final = view expression := by
  induction regrouped with
  | refl => rfl
  | tail earlier last induction => exact (kept last).trans induction

theorem isLegible_of_regrouped (regrouped : ReflTransGen Reassociates expression final)
    (legible : expression.IsLegible) : final.IsLegible := by
  intro element member
  have same := @eq_of_regrouped expression final Prop (element ∈ ·.elements)
    (fun step => propext step.mem_elements_iff) regrouped
  exact legible element (same.mp member)

theorem reads_of_regroupsTo (legible : expression.IsLegible)
    (regroups : expression.RegroupsTo final) : Reads .sum expression.text final := by
  have finalLegible := isLegible_of_regrouped regroups.1 legible
  rw [← eq_of_regrouped Reassociates.text_eq regroups.1]
  exact reads_text finalLegible (isLeftward_iff.mpr regroups.2) .sum
    (loosest_sum_le_precedence finalLegible)

theorem exists_reading (legible : expression.IsLegible) :
    ∃ reading, (∀ other, Reads .sum expression.text other ↔ other = reading) ∧
      ∀ final, expression.RegroupsTo final ↔ final = reading := by
  rcases exists_isLeftward expression with ⟨reading, regrouped, leftward⟩
  have regroups : expression.RegroupsTo reading := ⟨regrouped, isLeftward_iff.mp leftward⟩
  have reads := reads_of_regroupsTo legible regroups
  refine ⟨reading, ?_, ?_⟩
  · intro other
    constructor
    · exact fun otherReads => otherReads.unique reads
    · exact fun same => same ▸ reads
  · intro final
    constructor
    · exact fun finalRegroups => (reads_of_regroupsTo legible finalRegroups).unique reads
    · exact fun same => same ▸ regroups

end Expression

/-- A history never lies about a legible program. Every piece has exactly one reading: its
expression, regrouped to the left until nothing can be regrouped, in whatever order that is done.
The reading has the rational value of the expression, and is the expression itself where no right
operand of an addition is a sum and none of a multiplication is a product. -/
theorem Program.reads_history {program : Program}
    (legible : ∀ element ∈ program, element.IsLegible) :
    List.Forall₂
      (fun piece expression => ∃ reading,
        (∀ other, Reads .sum piece other ↔ other = reading) ∧
        (∀ final, expression.RegroupsTo final ↔ final = reading) ∧
        (∀ assignment unary, reading.rationalValue assignment unary 0 =
          expression.rationalValue assignment unary 0) ∧
        (expression.IsLeftward → reading = expression))
      (piecesOf program.history) program.expressions := by
  have expressionLegible : ∀ expression ∈ program.expressions, expression.IsLegible :=
    fun expression member element inside => legible element (mem_of_mem_expressions member inside)
  have pieces : piecesOf program.history = program.expressions.map Expression.text := by
    apply piecesOf_history
    intro expression member separator separates
    rcases Expression.exists_reading (expressionLegible expression member) with ⟨reading, reads, _⟩
    exact ((reads reading).mpr rfl).separator_not_mem separates
  rw [pieces, List.forall₂_map_left_iff, List.forall₂_same]
  intro expression member
  rcases Expression.exists_reading (expressionLegible expression member) with
    ⟨reading, reads, regroups⟩
  refine ⟨reading, reads, regroups, ?_, ?_⟩
  · intro assignment unary
    have regrouped := ((regroups reading).mpr rfl).1
    exact Expression.eq_of_regrouped (fun step => step.rationalValue_eq assignment unary 0) regrouped
  · intro leftward
    exact ((regroups expression).mp ⟨.refl, Expression.isLeftward_iff.mp leftward⟩).symm

theorem Program.reads_history_of_sum :
    ∃ reading, (∀ other, Reads .sum "1+2-M" other ↔ other = reading) ∧
      ∀ final, Expression.RegroupsTo (.binary Catalogue.plus (.leaf (.operand 1))
        (.binary Catalogue.minus (.leaf (.operand 2)) (.leaf (.reference "M")))) final ↔
          final = reading := by
  have ordinary : isVariableName "M" = true := by decide +kernel
  have isWord : IsWord "M" := isWord_of_isAlpha (by decide) (List.all_eq_true.mp (by decide))
  have history : piecesOf (Program.history [.leaf (.operand 1), .leaf (.operand 2),
      .leaf (.reference "M"), .binary Catalogue.minus, .binary Catalogue.plus]) = ["1+2-M"] := by
    decide +kernel
  have legible : ∀ element ∈ ([.leaf (.operand 1), .leaf (.operand 2), .leaf (.reference "M"),
      .binary Catalogue.minus, .binary Catalogue.plus] : Program), element.IsLegible := by
    simp only [List.forall_mem_cons]
    refine ⟨⟨.operand 1, nofun⟩, ⟨.operand 2, nofun⟩, ⟨.reference ordinary, ?_⟩,
      ⟨.known (by simp [Catalogue.elements]), nofun⟩,
      ⟨.known (by simp [Catalogue.elements]), nofun⟩, nofun⟩
    intro name same
    cases same
    exact isWord
  have read := reads_history legible
  rw [history] at read
  rcases List.forall₂_cons_left_iff.mp read with ⟨expression, others, pieceReads, _, found⟩
  cases found
  rcases pieceReads with ⟨reading, reads, regroups, _⟩
  exact ⟨reading, reads, regroups⟩

end RpnCalculator
