import RpnCalculator.Proofs.Calculator.Commands

/-! Whatever lies in between, the memory has the value that it was last given since the calculator
last started over, and the saved transcript is that of the program at the last saving. -/

namespace RpnCalculator.Calculator

/-! ## The last press of a kind -/

section Never

variable {kind : Calculator → Action → Prop} {calculator : Calculator}

/-- Is no press of the run of this kind? Of which kind a press is may depend on the state in which
the key is pressed. -/
def Never (kind : Calculator → Action → Prop) (calculator : Calculator) (actions : List Action) :
    Prop :=
  ∀ earlier action later, actions = earlier ++ action :: later →
    ¬kind (calculator.pressAll earlier) action

theorem never_nil : Never kind calculator [] := by
  intro earlier action later split
  exact absurd split.symm (List.append_ne_nil_of_right_ne_nil _ (List.cons_ne_nil _ _))

theorem never_cons {action : Action} {actions : List Action} :
    Never kind calculator (action :: actions) ↔
      ¬kind calculator action ∧ Never kind (calculator.press action) actions := by
  constructor
  · intro never
    refine ⟨never [] action actions rfl, ?_⟩
    intro earlier other later split
    exact never (action :: earlier) other later (split ▸ rfl)
  · rintro ⟨now, after⟩ earlier other later split
    cases earlier with
    | nil =>
        cases split
        exact now
    | cons first earlier =>
        cases split
        exact after earlier other later rfl

theorem Never.view_pressAll {View : Type} (view : Calculator → View)
    (kept : ∀ {calculator action}, ¬kind calculator action →
      view (calculator.press action) = view calculator)
    {actions : List Action} (never : Never kind calculator actions) :
    view (calculator.pressAll actions) = view calculator := by
  induction actions generalizing calculator with
  | nil => rfl
  | cons action actions induction =>
      rcases never_cons.mp never with ⟨now, after⟩
      exact (induction after).trans (kept now)

theorem never_or_exists_last (kind : Calculator → Action → Prop) (calculator : Calculator)
    (actions : List Action) :
    Never kind calculator actions ∨
      ∃ earlier action later, actions = earlier ++ action :: later ∧
        kind (calculator.pressAll earlier) action ∧
        Never kind ((calculator.pressAll earlier).press action) later := by
  induction actions generalizing calculator with
  | nil => exact .inl never_nil
  | cons action actions induction =>
      rcases induction (calculator.press action) with never | ⟨earlier, other, later, rfl, last⟩
      · by_cases now : kind calculator action
        · exact .inr ⟨[], action, actions, rfl, now, never⟩
        · exact .inl (never_cons.mpr ⟨now, never⟩)
      · exact .inr ⟨action :: earlier, other, later, rfl, last⟩

end Never

variable {calculator : Calculator} {action : Action}

/-! ## The memory -/

def BearsOnMemory (calculator : Calculator) (action : Action) : Prop :=
  action = .clear ∨ action = .storeMemory ∧ calculator.displayed?.isSome

theorem bindings_press_of_not_bearsOnMemory (silent : ¬calculator.BearsOnMemory action) :
    (calculator.press action).engine.bindings = calculator.engine.bindings := by
  rw [press_engine]
  rcases not_or.mp silent with ⟨clears, stores⟩
  have entering (command : Engine.Command)
      (kept : ∀ engine : Engine, (engine.apply command).bindings = engine.bindings) :
      (calculator.engine.run (calculator.entering ++ [command])).bindings =
        calculator.engine.bindings := by
    rcases calculator.entering_eq with none | ⟨value, some⟩
    · rw [none]
      exact kept _
    · rw [some]
      exact kept _
  cases action with
  | digit | point | save | display => rfl
  | clear => exact absurd rfl clears
  | recallMemory => exact entering _ fun _ => rfl
  | operation symbol =>
      rw [commands]
      split
      · rfl
      · exact entering _ fun _ => rfl
  | enter =>
      rw [commands]
      cases calculator.displayed? <;> rfl
  | backspace =>
      rw [commands]
      split <;> rfl
  | restore =>
      rw [commands]
      split <;> rfl
  | storeMemory =>
      rw [commands]
      cases displayed : calculator.displayed? with
      | none => rfl
      | some value => exact absurd ⟨rfl, displayed ▸ rfl⟩ stores

theorem Never.bindings_pressAll {actions : List Action}
    (never : Never BearsOnMemory calculator actions) :
    (calculator.pressAll actions).engine.bindings = calculator.engine.bindings :=
  never.view_pressAll (·.engine.bindings) bindings_press_of_not_bearsOnMemory

def HoldsMemoryOnly (calculator : Calculator) : Prop :=
  calculator.engine.bindings.entries = [] ∨
    ∃ value, calculator.engine.bindings.entries = [(memoryName, value)]

theorem HoldsMemoryOnly.entries_press_storeMemory (holds : calculator.HoldsMemoryOnly)
    {value : Float} (displayed : calculator.displayed? = some value) :
    (calculator.press .storeMemory).engine.bindings.entries = [(memoryName, value)] := by
  have placed : (calculator.press .storeMemory).engine.bindings.entries =
      Bindings.place memoryName value calculator.engine.bindings.entries := by
    rw [press_storeMemory displayed]
    rfl
  rw [placed]
  rcases holds with none | ⟨old, one⟩
  · rw [none]
    rfl
  · rw [one, Bindings.place, if_neg (String.lt_irrefl memoryName), if_pos rfl]

theorem HoldsMemoryOnly.press (holds : calculator.HoldsMemoryOnly) (action : Action) :
    (calculator.press action).HoldsMemoryOnly := by
  by_cases bears : calculator.BearsOnMemory action
  · rcases bears with rfl | ⟨rfl, readable⟩
    · exact .inl rfl
    · rcases Option.isSome_iff_exists.mp readable with ⟨value, displayed⟩
      exact .inr ⟨value, holds.entries_press_storeMemory displayed⟩
  · rw [HoldsMemoryOnly, bindings_press_of_not_bearsOnMemory bears]
    exact holds

theorem holdsMemoryOnly_pressAll (actions : List Action) :
    (new.pressAll actions).HoldsMemoryOnly :=
  List.foldlRecOn actions Calculator.press (.inl rfl) fun _ holds action _ => holds.press action

/-- In the run, the value was stored in the memory when it was on the display, and afterwards the
memory was neither given another value nor cleared. -/
def StoredLast (actions : List Action) (value : Float) : Prop :=
  ∃ earlier later, actions = earlier ++ .storeMemory :: later ∧
    (new.pressAll earlier).displayed? = some value ∧
    Never BearsOnMemory ((new.pressAll earlier).press .storeMemory) later

theorem entries_of_storedLast {actions : List Action} {value : Float}
    (stored : StoredLast actions value) :
    (new.pressAll actions).engine.bindings.entries = [(memoryName, value)] := by
  rcases stored with ⟨earlier, later, rfl, displayed, never⟩
  rw [pressAll_append, pressAll_cons, never.bindings_pressAll]
  exact (holdsMemoryOnly_pressAll earlier).entries_press_storeMemory displayed

theorem entries_of_not_storedLast {actions : List Action}
    (unstored : ∀ value, ¬StoredLast actions value) :
    (new.pressAll actions).engine.bindings.entries = [] := by
  rcases never_or_exists_last BearsOnMemory new actions with
    never | ⟨earlier, action, later, rfl, rfl | ⟨rfl, readable⟩, never⟩
  · rw [never.bindings_pressAll]
    rfl
  · rw [pressAll_append, pressAll_cons, never.bindings_pressAll]
    rfl
  · rcases Option.isSome_iff_exists.mp readable with ⟨value, displayed⟩
    exact absurd ⟨earlier, later, rfl, displayed, never⟩ (unstored value)

/-! ## The saved transcript -/

def SavedLast (actions : List Action) (tokens : List String) : Prop :=
  ∃ earlier later, actions = earlier ++ .save :: later ∧
    (new.pressAll earlier).engine.transcript = tokens ∧ .save ∉ later

theorem saved_of_savedLast {actions : List Action} {tokens : List String}
    (saved : SavedLast actions tokens) : (new.pressAll actions).saved = some tokens := by
  rcases saved with ⟨earlier, later, rfl, rfl, others⟩
  rw [pressAll_append, pressAll_cons,
    pressAll_saved fun _ member same => others (same ▸ member)]
  rfl

theorem isSome_saved_press : (calculator.press action).saved.isSome ↔
    calculator.saved.isSome ∨ action = .save := by
  by_cases saves : action = .save
  · subst saves
    simp [press, save]
  · rw [press_saved saves]
    simp [saves]

theorem isSome_saved_pressAll {actions : List Action} :
    (calculator.pressAll actions).saved.isSome ↔ calculator.saved.isSome ∨ .save ∈ actions := by
  induction actions generalizing calculator with
  | nil => simp [pressAll]
  | cons action actions induction =>
      rw [pressAll_cons, induction, isSome_saved_press, or_assoc, List.mem_cons,
        @eq_comm _ action]

/-! ## The program -/

theorem isEnterable_cases_of_pressAll {actions : List Action} {element : Element}
    (member : element ∈ (new.pressAll actions).engine.program) :
    (∃ value, element = .leaf (.operand value)) ∨ element = .leaf (.reference memoryName) ∨
      element ∈ Catalogue.elements := by
  cases (reachable_pressAll actions).isEnterable element member with
  | operand value => exact .inl ⟨value, rfl⟩
  | known known => exact .inr (.inr known)
  | reference ordinary =>
      rw [refersOnlyTo_pressAll actions _ member]
      exact .inr (.inl rfl)

/-- Whatever is pressed, the memory is the only variable that can have a value: the one that was on
the display when it was last stored since the calculator started over, if it was. What is saved is
the transcript of the program at the last saving, if there was one. And the program is made of
operands, references to the memory, and known elements. -/
theorem remembered_of_pressAll (actions : List Action) :
    let calculator := new.pressAll actions
    (∀ value, StoredLast actions value →
      calculator.engine.bindings.entries = [(memoryName, value)]) ∧
    ((∀ value, ¬StoredLast actions value) → calculator.engine.bindings.entries = []) ∧
    (∀ tokens, SavedLast actions tokens → calculator.saved = some tokens) ∧
    (calculator.saved.isSome ↔ .save ∈ actions) ∧
    ∀ element ∈ calculator.engine.program, (∃ value, element = .leaf (.operand value)) ∨
      element = .leaf (.reference memoryName) ∨ element ∈ Catalogue.elements :=
  ⟨fun _ => entries_of_storedLast, entries_of_not_storedLast, fun _ => saved_of_savedLast,
    isSome_saved_pressAll.trans (by simp [new]), fun _ => isEnterable_cases_of_pressAll⟩

theorem remembered_of_pressAll_of_recall :
    (new.pressAll [.digit "5", .storeMemory, .digit "7", .enter, .save, .recallMemory,
      .backspace]).engine.bindings.entries = [("M", 5)] ∧
    (new.pressAll [.digit "5", .storeMemory, .digit "7", .enter, .save, .recallMemory,
      .clear]).saved = some ["7"] := by
  have displayed : (new.pressAll [.digit "5"]).displayed? = some 5 := by decide +kernel
  have transcript : (new.pressAll [.digit "5", .storeMemory, .digit "7", .enter]).engine.transcript =
      ["7"] := by
    decide +kernel
  constructor
  · apply (remembered_of_pressAll _).1 5
    refine ⟨[.digit "5"], _, rfl, displayed, ?_⟩
    simp [never_cons, never_nil, BearsOnMemory]
  · apply (remembered_of_pressAll _).2.2.1 ["7"]
    exact ⟨[.digit "5", .storeMemory, .digit "7", .enter], [.recallMemory, .clear], rfl,
      transcript, by simp⟩

end RpnCalculator.Calculator
