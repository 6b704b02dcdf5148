import RpnCalculator.Proofs.Calculator.Effect
import RpnCalculator.Proofs.Engine.Reachability

/-! What a key makes of the engine is what the commands that it issues make of it, so that whatever
every command keeps is kept by every run of keys. The keys enter one variable only, the memory. -/

namespace RpnCalculator

/-! ## The variables of a program -/

theorem Element.isReference_of_ofToken? {token : String} {element : Element}
    (named : ofToken? token = some element) : element.isReference = false := by
  rcases Option.or_eq_some_iff.mp named with found | ⟨_, read⟩
  · exact isReference_of_known (Catalogue.mem_of_find? found)
  · rcases Option.map_eq_some_iff.mp read with ⟨value, _, rfl⟩
    rfl

namespace Engine

def RefersOnlyTo (engine : Engine) (name : String) : Prop :=
  ∀ other, .leaf (.reference other) ∈ engine.program → other = name

variable {engine : Engine} {name : String}

theorem refersOnlyTo_new : new.RefersOnlyTo name :=
  fun _ member => absurd member List.not_mem_nil

theorem RefersOnlyTo.enter (refers : engine.RefersOnlyTo name) {element? : Option Element}
    (entered : ∀ other, element? = some (.leaf (.reference other)) → other = name) :
    (engine.enter element?).RefersOnlyTo name := by
  intro other member
  rcases List.mem_append.mp member with old | new
  · exact refers other old
  · exact entered other (Option.mem_toList.mp new)

theorem RefersOnlyTo.apply (refers : engine.RefersOnlyTo name) {command : Command}
    (pushed : ∀ other, command = .pushVariable other → other = name) :
    (engine.apply command).RefersOnlyTo name := by
  cases command with
  | pushOperand value => exact refers.enter fun other entered => nomatch entered
  | pushVariable variableName =>
      refine refers.enter fun other entered => ?_
      split at entered
      · cases entered
        exact pushed variableName rfl
      · exact nomatch entered
  | perform symbol =>
      refine refers.enter fun other found => ?_
      have plain := Element.isReference_of_known (Catalogue.mem_of_find? found)
      exact absurd plain.symm Bool.false_ne_true
  | undo => exact fun other member => refers other (List.dropLast_subset _ member)
  | clear => exact fun other member => nomatch member
  | load tokens =>
      intro other member
      rcases List.mem_filterMap.mp member with ⟨token, _, named⟩
      exact absurd (Element.isReference_of_ofToken? named).symm Bool.false_ne_true
  | evaluate | bind | unbind | unbindAll => exact refers

end Engine

namespace Calculator

variable {calculator : Calculator} {action : Action}

/-! ## Engine and saved transcript -/

theorem Edit.engine_eq {before after : Calculator} (edit : Edit before after) :
    after.engine = before.engine := by
  cases edit <;> rfl

theorem Edit.saved_eq {before after : Calculator} (edit : Edit before after) :
    after.saved = before.saved := by
  cases edit <;> rfl

theorem press_engine (calculator : Calculator) (action : Action) :
    (calculator.press action).engine = calculator.engine.run (calculator.commands action) := by
  rcases calculator.press_cases action with ⟨_, issued⟩ | (rfl | rfl | ⟨value, rfl⟩) | ⟨none, edit⟩
  · rw [issued, issue_engine]
  · rfl
  · rfl
  · rfl
  · rw [none, Engine.run_nil, edit.engine_eq]

theorem press_saved (other : action ≠ .save) :
    (calculator.press action).saved = calculator.saved := by
  rcases calculator.press_cases action with ⟨_, issued⟩ | (rfl | rfl | ⟨value, rfl⟩) | ⟨_, edit⟩
  · rw [issued]
    rfl
  · rfl
  · exact absurd rfl other
  · rfl
  · exact edit.saved_eq

theorem pressAll_saved {actions : List Action} (others : ∀ action ∈ actions, action ≠ .save) :
    (calculator.pressAll actions).saved = calculator.saved :=
  List.foldlRecOn (motive := fun after => after.saved = calculator.saved) actions press rfl
    fun _ same action member => (press_saved (others action member)).trans same

/-! ## Runs of keys -/

theorem entering_eq (calculator : Calculator) :
    calculator.entering = [] ∨ ∃ value, calculator.entering = [.pushOperand value] := by
  rw [entering]
  split
  · cases calculator.displayed? with
    | none => exact .inl rfl
    | some value => exact .inr ⟨value, rfl⟩
  · exact .inl rfl

theorem eq_memoryName_of_mem_commands {name : String}
    (issued : .pushVariable name ∈ calculator.commands action) : name = memoryName := by
  have notEntering : .pushVariable name ∉ calculator.entering := by
    rcases calculator.entering_eq with none | ⟨value, some⟩ <;> simp [*]
  cases action with
  | recallMemory =>
      rcases List.mem_append.mp issued with entered | recalled
      · exact absurd entered notEntering
      · exact Engine.Command.pushVariable.inj (List.mem_singleton.mp recalled)
  | operation symbol =>
      rw [commands] at issued
      split at issued
      · exact absurd issued List.not_mem_nil
      · simp [notEntering] at issued
  | enter =>
      rw [commands] at issued
      cases calculator.displayed? <;> simp at issued
  | storeMemory | restore | backspace =>
      rw [commands] at issued
      split at issued <;> simp at issued
  | digit | point | clear | save | display => simp [commands] at issued

/-- What a new engine has and what every command that the keys issue keeps, the engine has after
every run of keys. -/
theorem engine_pressAll_of_apply {motive : Engine → Prop} (fresh : motive .new)
    (kept : ∀ engine command, (∀ name, command = .pushVariable name → name = memoryName) →
      motive engine → motive (engine.apply command))
    (actions : List Action) : motive (new.pressAll actions).engine := by
  have start : motive new.engine := fresh
  refine List.foldlRecOn (motive := fun after => motive after.engine) actions press start ?_
  intro calculator before action _
  rw [press_engine]
  refine List.foldlRecOn (motive := motive) (calculator.commands action) Engine.apply before ?_
  intro engine within command issued
  exact kept engine command (fun _ same => eq_memoryName_of_mem_commands (same ▸ issued)) within

theorem reachable_pressAll (actions : List Action) : (new.pressAll actions).engine.Reachable := by
  refine engine_pressAll_of_apply .new ?_ actions
  exact fun _ command _ reachable => reachable.apply command

theorem refersOnlyTo_pressAll (actions : List Action) :
    (new.pressAll actions).engine.RefersOnlyTo memoryName := by
  refine engine_pressAll_of_apply (motive := (Engine.RefersOnlyTo · memoryName))
    Engine.refersOnlyTo_new ?_ actions
  exact fun _ _ pushed refers => refers.apply pushed

end Calculator

end RpnCalculator
