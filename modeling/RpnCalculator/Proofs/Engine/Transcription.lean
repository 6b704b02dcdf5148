import RpnCalculator.Proofs.Engine.Reachability
import RpnCalculator.Proofs.LastExpression

/-! What is left of a program that is written down as tokens and read back. -/

namespace RpnCalculator

def Program.withoutReferences (program : Program) : Program :=
  program.filter fun element => !element.isReference

theorem Program.ofTranscript_transcript {program : Program}
    (enterable : ∀ element ∈ program, element.IsEnterable) :
    ofTranscript program.transcript = program.withoutReferences := by
  induction program with
  | nil => rfl
  | cons element rest induction =>
      have parts := List.forall_mem_cons.mp enterable
      have ofRest := induction parts.2
      simp only [ofTranscript, transcript, withoutReferences, List.map_cons,
        List.filterMap_cons, List.filter_cons, Element.ofToken?_text parts.1] at ofRest ⊢
      cases element.isReference with
      | true => exact ofRest
      | false => exact congrArg (element :: ·) ofRest

theorem Program.withoutReferences_idem (program : Program) :
    program.withoutReferences.withoutReferences = program.withoutReferences := by
  simp [withoutReferences, List.filter_filter]

theorem Program.withoutReferences_eq_self {program : Program}
    (closed : ∀ element ∈ program, element.isReference = false) :
    program.withoutReferences = program := by
  apply List.filter_eq_self.mpr
  intro element member
  rw [closed element member]
  rfl

theorem Program.reference_not_mem {program : Program}
    (closed : ∀ element ∈ program, element.isReference = false) (name : String) :
    .leaf (.reference name) ∉ program :=
  fun member => Bool.noConfusion (closed _ member)

namespace Engine

def reload (engine : Engine) : Engine := engine.apply (.load engine.transcript)

theorem load_transcript {engine : Engine}
    (enterable : ∀ element ∈ engine.program, element.IsEnterable) (other : Engine) :
    other.apply (.load engine.transcript) =
      { other with program := engine.program.withoutReferences } := by
  rw [← Program.ofTranscript_transcript enterable]
  rfl

theorem reload_load_transcript {engine : Engine}
    (enterable : ∀ element ∈ engine.program, element.IsEnterable) (other : Engine) :
    (other.apply (.load engine.transcript)).reload = other.apply (.load engine.transcript) := by
  have stillEnterable : ∀ element ∈ engine.program.withoutReferences, element.IsEnterable :=
    fun element member => enterable element (List.mem_of_mem_filter member)
  have again := @load_transcript { other with program := engine.program.withoutReferences }
    stillEnterable { other with program := engine.program.withoutReferences }
  rw [load_transcript enterable, reload, again, Program.withoutReferences_idem]

/-- Reading back the transcript of a reachable engine gives its program without the variables,
every other element in its place and unchanged; no variable comes back as anything. Any engine that
loads the transcript has this program and keeps its own bindings, and a second reloading changes
nothing. A program without variables is given back whole, with the same history and the same
result, whatever is bound. -/
theorem ofTranscript_transcript_of_reachable {engine : Engine} (reachable : engine.Reachable) :
    Program.ofTranscript engine.transcript = engine.program.withoutReferences ∧
    (∀ element ∈ engine.program.withoutReferences,
      (∃ value, element = .leaf (.operand value)) ∨ element ∈ Catalogue.elements) ∧
    (∀ name, .leaf (.reference name) ∈ engine.program → Element.ofToken? name = none) ∧
    (∀ other : Engine,
      let loaded := other.apply (.load engine.transcript)
      loaded = { other with program := engine.program.withoutReferences } ∧
        loaded.reload = loaded) ∧
    engine.reload.reload = engine.reload ∧
    ((∀ element ∈ engine.program, element.isReference = false) →
      engine.reload = engine ∧ ∀ other : Engine,
        let loaded := other.apply (.load engine.transcript)
        loaded.program = engine.program ∧ loaded.history = engine.history ∧
          loaded.evaluate = engine.evaluate) := by
  have enterable := reachable.isEnterable
  refine ⟨Program.ofTranscript_transcript enterable, ?_, ?_, ?_, ?_, ?_⟩
  · intro element member
    rcases List.mem_filter.mp member with ⟨entered, unreferenced⟩
    cases enterable element entered with
    | operand value => exact .inl ⟨value, rfl⟩
    | known known => exact .inr known
    | reference ordinary => exact nomatch unreferenced
  · intro name member
    exact Element.ofToken?_text (enterable _ member)
  · exact fun other => ⟨load_transcript enterable other, reload_load_transcript enterable other⟩
  · exact reload_load_transcript enterable engine
  · intro closed
    have loads (other : Engine) :
        other.apply (.load engine.transcript) = { other with program := engine.program } := by
      rw [load_transcript enterable, Program.withoutReferences_eq_self closed]
    refine ⟨loads engine, fun other => ?_⟩
    rw [loads]
    exact ⟨rfl, rfl, Program.evaluate_eq_of_closed other.bindings engine.bindings
      (Program.reference_not_mem closed)⟩

theorem ofTranscript_transcript_of_sum :
    (((new.apply (.pushOperand (-0.0))).apply (.pushVariable "M")).apply (.perform "+")).Reachable ∧
    Program.ofTranscript ["-0", "M", "+"] =
      [.leaf (.operand (-0.0)), .binary Catalogue.plus] ∧
    ((new.apply (.bind "M" 2)).apply (.load ["-0", "M", "+"])).program =
      [.leaf (.operand (-0.0)), .binary Catalogue.plus] := by
  obtain ⟨engine, entered⟩ : ∃ engine, engine =
      ((new.apply (.pushOperand (-0.0))).apply (.pushVariable "M")).apply (.perform "+") := ⟨_, rfl⟩
  have reachable : engine.Reachable := entered ▸
    ((Reachable.new.apply (.pushOperand (-0.0))).apply (.pushVariable "M")).apply (.perform "+")
  have ordinary : isVariableName "M" = true := by decide +kernel
  have program : engine.program =
      [.leaf (.operand (-0.0)), .leaf (.reference "M"), .binary Catalogue.plus] := by
    simp only [entered, apply, enter, ordinary, if_true]
    rfl
  have tokens : engine.transcript = ["-0", "M", "+"] := by
    rw [transcript, program]
    decide +kernel
  have kept : engine.program.withoutReferences =
      [.leaf (.operand (-0.0)), .binary Catalogue.plus] := by
    rw [program]
    rfl
  rcases ofTranscript_transcript_of_reachable reachable with ⟨read, _, _, loads, _⟩
  have loaded := congrArg Engine.program (loads (new.apply (.bind "M" 2))).1
  rw [tokens, kept] at read loaded
  exact ⟨entered ▸ reachable, read, loaded⟩

end Engine

end RpnCalculator
