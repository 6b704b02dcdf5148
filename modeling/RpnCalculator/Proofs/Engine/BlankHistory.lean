import RpnCalculator.Proofs.Engine.Reachability
import RpnCalculator.Proofs.ForwardHistory

/-! The history of the empty program is a lone blank. The history of any other program shows
something, an operation an equals sign and a second expression a comma, unless the program is a
single leaf: a variable can have a name that cannot be seen. -/

namespace RpnCalculator

namespace Program

theorem history_concat_leaf (program : Program) (item : Leaf) :
    history (program ++ [.leaf item]) =
      if program.isEmpty then item.text
      else ", ".intercalate program.pieces ++ ", " ++ item.text := by
  have written : history (program ++ [.leaf item]) =
      ", ".intercalate (program.pieces ++ [item.text]) := by
    rw [history, if_neg (by simp), pieces_concat_leaf, endsInOperation_concat]
    exact String.append_empty
  rw [written]
  split
  next empty =>
    rw [List.isEmpty_iff.mp empty, pieces_nil, List.nil_append, String.intercalate_singleton]
  next nonempty =>
    have earlier : program.pieces ≠ [] := by
      rw [pieces_of_ne_nil (by simpa using nonempty)]
      exact List.append_ne_nil_of_right_ne_nil _ (List.cons_ne_nil _ _)
    rw [String.intercalate_append_of_ne_nil earlier (List.cons_ne_nil _ _),
      String.intercalate_singleton]

theorem history_concat_operation {element : Element} (operation : element.isLeaf = false)
    (program : Program) : ∃ text, history (program ++ [element]) = text ++ "=" := by
  rw [history, if_neg (by simp), endsInOperation_concat, operation]
  exact ⟨_, rfl⟩

theorem history_eq_iff_of_plain {program : Program} {text : String} (nonempty : program ≠ [])
    (comma : ',' ∉ text.toList) (equals : '=' ∉ text.toList) :
    program.history = text ↔ ∃ item : Leaf, program = [.leaf item] ∧ item.text = text := by
  constructor
  · intro written
    rcases List.eq_nil_or_concat program with empty | ⟨older, element, rfl⟩
    · exact absurd empty nonempty
    rw [List.concat_eq_append] at written ⊢
    cases leaf : element.isLeaf with
    | false =>
        rcases history_concat_operation leaf older with ⟨before, ending⟩
        rw [← written, ending] at equals
        exact absurd (by simp) equals
    | true =>
        cases element with
        | unary | binary => exact nomatch leaf
        | leaf item =>
            rw [history_concat_leaf] at written
            split at written
            next empty => exact ⟨item, by rw [List.isEmpty_iff.mp empty, List.nil_append], written⟩
            next =>
              rw [← written] at comma
              exact absurd (by simp) comma
  · rintro ⟨item, rfl, rfl⟩
    exact history_concat_leaf [] item

end Program

namespace Engine

theorem Reachable.eq_reference {engine : Engine} (reachable : engine.Reachable) {item : Leaf}
    (entered : .leaf item ∈ engine.program) (ordinary : isVariableName item.text = true) :
    item = .reference item.text := by
  have unread : Element.ofToken? (Element.leaf item).text = none := isVariableName_iff.mp ordinary
  rw [Element.ofToken?_text (reachable.isEnterable _ entered)] at unread
  cases item with
  | reference name => rfl
  | operand | constant => exact nomatch unread

theorem Reachable.history_eq_name_iff {engine : Engine} (reachable : engine.Reachable)
    (nonempty : engine.program ≠ []) {name : String} (ordinary : isVariableName name = true)
    (comma : ',' ∉ name.toList) (equals : '=' ∉ name.toList) :
    engine.history = name ↔ engine.program = [.leaf (.reference name)] := by
  rw [history, Program.history_eq_iff_of_plain nonempty comma equals]
  constructor
  · rintro ⟨item, alone, rfl⟩
    have entered : .leaf item ∈ engine.program := alone ▸ List.mem_singleton_self _
    rw [alone, ← reachable.eq_reference entered ordinary]
  · intro alone
    exact ⟨.reference name, alone, rfl⟩

/-- A history is empty only if the program is a single variable whose name is empty. It is a lone
blank if the program is empty, and otherwise only if it is a single variable whose name is a blank.
Without variables of these two names there is always a history, and a lone blank means that there
is no program. -/
theorem history_of_reachable {engine : Engine} (reachable : engine.Reachable) :
    (engine.history = "" ↔ engine.program = [.leaf (.reference "")]) ∧
    (engine.history = Program.emptyHistory ↔
      engine.program = [] ∨ engine.program = [.leaf (.reference " ")]) ∧
    ((∀ name, .leaf (.reference name) ∈ engine.program → name ≠ "" ∧ name ≠ " ") →
      engine.history ≠ "" ∧ (engine.history = Program.emptyHistory ↔ engine.program = [])) := by
  have nameless : engine.history = "" ↔ engine.program = [.leaf (.reference "")] := by
    by_cases empty : engine.program = []
    · rw [history, empty]
      simp [Program.history, Program.emptyHistory]
    · exact reachable.history_eq_name_iff empty (by decide +kernel) (by decide) (by decide)
  have blank : engine.history = Program.emptyHistory ↔
      engine.program = [] ∨ engine.program = [.leaf (.reference " ")] := by
    by_cases empty : engine.program = []
    · exact iff_of_true (by rw [history, empty]; rfl) (.inl empty)
    · rw [or_iff_right empty]
      exact reachable.history_eq_name_iff empty (by decide +kernel) (by decide) (by decide)
  refine ⟨nameless, blank, fun named => ⟨?_, ?_⟩⟩
  · intro absent
    have entered : .leaf (.reference "") ∈ engine.program :=
      nameless.mp absent ▸ List.mem_singleton_self _
    exact (named "" entered).1 rfl
  · rw [blank]
    refine or_iff_left fun alone => ?_
    have entered : .leaf (.reference " ") ∈ engine.program := alone ▸ List.mem_singleton_self _
    exact (named " " entered).2 rfl

theorem history_of_reachable_of_root :
    ((new.apply (.pushVariable "x")).apply (.perform "√")).history ≠ "" ∧
      ((new.apply (.pushVariable "x")).apply (.perform "√")).history ≠ Program.emptyHistory := by
  have reachable := (Reachable.new.apply (.pushVariable "x")).apply (.perform "√")
  have program : ((new.apply (.pushVariable "x")).apply (.perform "√")).program =
      [.leaf (.reference "x"), .unary Catalogue.squareRoot] := by
    have ordinary : isVariableName "x" = true := by decide +kernel
    have known : Catalogue.find? "√" = some (.unary Catalogue.squareRoot) := rfl
    simp [apply, enter, new, ordinary, known]
  have named : ∀ name,
      .leaf (.reference name) ∈ ((new.apply (.pushVariable "x")).apply (.perform "√")).program →
        name ≠ "" ∧ name ≠ " " := by
    rw [program]
    simp
  have seen := (history_of_reachable reachable).2.2 named
  refine ⟨seen.1, fun blank => ?_⟩
  exact absurd (program ▸ seen.2.mp blank) (List.cons_ne_nil _ _)

/-- A variable may have an empty name, which leaves the history empty, or a blank as its name,
which makes the history that of the empty program. -/
theorem blank_history_of_variable :
    (new.apply (.pushVariable "")).Reachable ∧ (new.apply (.pushVariable "")).history = "" ∧
    (new.apply (.pushVariable " ")).Reachable ∧
      (new.apply (.pushVariable " ")).history = Program.emptyHistory ∧
      (new.apply (.pushVariable " ")).program ≠ [] := by
  refine ⟨Reachable.new.apply _, ?_, Reachable.new.apply _, ?_, ?_⟩
  · decide +kernel
  · decide +kernel
  · have ordinary : isVariableName " " = true := by decide +kernel
    simp [apply, enter, new, ordinary]

end Engine

end RpnCalculator
