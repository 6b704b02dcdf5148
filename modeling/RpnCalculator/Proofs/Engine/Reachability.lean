import RpnCalculator.Engine
import RpnCalculator.Number.Numeral.Lemmas

/-! The engines that commands can lead to, and what their programs are made of. -/

namespace RpnCalculator

namespace Catalogue

theorem find?_text {element : Element} (known : element ∈ elements) :
    find? element.text = some element := by
  simp only [elements, List.mem_cons, List.not_mem_nil, or_false] at known
  rcases known with rfl | rfl | rfl | rfl | rfl | rfl | rfl | rfl | rfl <;> rfl

theorem read?_text {element : Element} (known : element ∈ elements) :
    Numeral.read? element.text = none := by
  have unreadable : elements.all (fun element => (Numeral.read? element.text).isNone) = true := by
    decide +kernel
  exact Option.isNone_iff_eq_none.mp (List.all_eq_true.mp unreadable element known)

theorem find?_write (value : Float) : find? (Numeral.write value) = none := by
  cases found : find? (Numeral.write value) with
  | none => rfl
  | some element =>
      have unreadable := read?_text (mem_of_find? found)
      rw [text_of_find? found, Numeral.read?_write] at unreadable
      exact absurd unreadable (Option.some_ne_none value)

end Catalogue

namespace Element

def isReference : Element → Bool
  | .leaf (.reference _) => true
  | _ => false

inductive IsEnterable : Element → Prop
  | operand (value : Float) : IsEnterable (.leaf (.operand value))
  | known {element : Element} : element ∈ Catalogue.elements → IsEnterable element
  | reference {name : String} :
      isVariableName name = true → IsEnterable (.leaf (.reference name))

theorem isEnterable_of_ofToken? {token : String} {element : Element}
    (named : ofToken? token = some element) : element.IsEnterable := by
  rcases Option.or_eq_some_iff.mp named with found | ⟨_, read⟩
  · exact .known (Catalogue.mem_of_find? found)
  · rcases Option.map_eq_some_iff.mp read with ⟨value, _, rfl⟩
    exact .operand value

theorem isReference_of_known {element : Element} (known : element ∈ Catalogue.elements) :
    element.isReference = false := by
  simp only [Catalogue.elements, List.mem_cons, List.not_mem_nil, or_false] at known
  rcases known with rfl | rfl | rfl | rfl | rfl | rfl | rfl | rfl | rfl <;> rfl

theorem ofToken?_text {element : Element} (enterable : element.IsEnterable) :
    ofToken? element.text = if element.isReference then none else some element := by
  cases enterable with
  | operand value =>
      rw [ofToken?, text, Leaf.text, Catalogue.find?_write, Numeral.read?_write]
      rfl
  | known known =>
      rw [ofToken?, Catalogue.find?_text known, isReference_of_known known]
      rfl
  | reference ordinary => exact isVariableName_iff.mp ordinary

end Element

namespace Engine

/-- The engines that a new one can become. The variables are open to any change from outside. -/
inductive Reachable : Engine → Prop
  | new : Reachable .new
  | apply {engine : Engine} (command : Command) :
      Reachable engine → Reachable (engine.apply command)
  | rebind {engine : Engine} (bindings : Bindings) :
      Reachable engine → Reachable { engine with bindings }

theorem isEnterable_of_mem_enter {engine : Engine} {element? : Option Element}
    (before : ∀ element ∈ engine.program, element.IsEnterable)
    (entered : ∀ element, element? = some element → element.IsEnterable) :
    ∀ element ∈ (engine.enter element?).program, element.IsEnterable := by
  intro element member
  rcases List.mem_append.mp member with old | new
  · exact before element old
  · exact entered element (Option.mem_toList.mp new)

theorem isEnterable_of_mem_apply {engine : Engine} (command : Command)
    (before : ∀ element ∈ engine.program, element.IsEnterable) :
    ∀ element ∈ (engine.apply command).program, element.IsEnterable := by
  cases command with
  | pushOperand value =>
      apply isEnterable_of_mem_enter before
      intro element equal
      exact Option.some.inj equal ▸ .operand value
  | pushVariable name =>
      apply isEnterable_of_mem_enter before
      intro element equal
      split at equal
      · next ordinary => exact Option.some.inj equal ▸ .reference ordinary
      · exact nomatch equal
  | perform symbol =>
      apply isEnterable_of_mem_enter before
      intro element found
      exact .known (Catalogue.mem_of_find? found)
  | undo =>
      intro element member
      exact before element (List.dropLast_subset _ member)
  | clear =>
      intro element member
      exact nomatch member
  | load tokens =>
      intro element member
      rcases List.mem_filterMap.mp member with ⟨token, _, named⟩
      exact Element.isEnterable_of_ofToken? named
  | evaluate | bind | unbind | unbindAll => exact before

theorem Reachable.isEnterable {engine : Engine} (reachable : engine.Reachable) :
    ∀ element ∈ engine.program, element.IsEnterable := by
  induction reachable with
  | new =>
      intro element member
      exact nomatch member
  | apply command reachable induction => exact isEnterable_of_mem_apply command induction
  | rebind bindings reachable induction => exact induction

end Engine

end RpnCalculator
