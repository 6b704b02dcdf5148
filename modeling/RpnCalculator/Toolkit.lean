/-! The toolkit that a window is painted with. In every frame the program tells it again all that
there is to paint, and learns at each button whether it is being clicked. What a toolkit does is
open; `Toolkit.Lawful` lists what a program may expect of one. -/

namespace RpnCalculator

/-- What can happen to a window between two paintings. -/
inductive Window.Event where
  | keys (names : List String)
  | click (label : String)
  deriving DecidableEq

def Window.Event.pressed : Window.Event → List String
  | .keys names => names
  | .click _ => []

inductive Toolkit.Call where
  | pressed (key : String)
  | text (content : String)
  | button (enabled : Bool) (label : String)
  /-- The label of a section that can be opened and closed, and is closed at first. -/
  | header (label : String)
  deriving DecidableEq

def Toolkit.Call.text? : Call → Option String
  | .pressed _ => none
  | .text content => some content
  | .button _ label => some label
  | .header label => some label

open Window (Event)

structure Toolkit where
  Memory : Type
  fresh : Memory
  /-- Is the key pressed, is the button clicked, are the contents of the section to be painted? -/
  answer : Memory → Event → (earlier : List Toolkit.Call) → Toolkit.Call → Bool
  next : Memory → Event → List Toolkit.Call → Memory
  painted : Memory → Event → List Toolkit.Call → List String
  hasFocus : Memory → Event → (label : String) → Bool
  isOpen : Memory → (label : String) → Bool

namespace Toolkit

/-- A widget is clicked by the pointer, and by Enter or Space while it has the keyboard focus. -/
def Clicks (toolkit : Toolkit) (memory : toolkit.Memory) (event : Event) (label : String) : Prop :=
  event = .click label ∨ (toolkit.hasFocus memory event label = true ∧
    ("Enter" ∈ event.pressed ∨ "Space" ∈ event.pressed))

structure Lawful (toolkit : Toolkit) : Prop where
  /-- A key is reported in the frame in which it is pressed. -/
  pressed_iff (memory : toolkit.Memory) (event : Event) (calls : List Call) (key : String) :
    toolkit.answer memory event calls (.pressed key) = true ↔ key ∈ event.pressed
  /-- A button reports its clicks, unless it is disabled. -/
  button_iff (memory : toolkit.Memory) (event : Event) (calls : List Call) (enabled : Bool)
    (label : String) : toolkit.answer memory event calls (.button enabled label) = true ↔
      enabled = true ∧ toolkit.Clicks memory event label
  /-- The contents of an open section are painted. In the frame of the click that opens or closes
  it they may be or not. -/
  header_iff (memory : toolkit.Memory) (event : Event) (calls : List Call) (label : String) :
    ¬toolkit.Clicks memory event label →
      (toolkit.answer memory event calls (.header label) = true ↔
        toolkit.isOpen memory label = true)
  isOpen_fresh (label : String) : toolkit.isOpen toolkit.fresh label = false
  /-- A click on the label of a section opens or closes it. -/
  isOpen_next_of_clicks (memory : toolkit.Memory) (event : Event) (calls : List Call)
    (label : String) : .header label ∈ calls → toolkit.Clicks memory event label →
      toolkit.isOpen (toolkit.next memory event calls) label = !toolkit.isOpen memory label
  isOpen_next (memory : toolkit.Memory) (event : Event) (calls : List Call) (label : String) :
    ¬toolkit.Clicks memory event label →
      toolkit.isOpen (toolkit.next memory event calls) label = toolkit.isOpen memory label
  /-- Texts and labels are painted in the order in which they are told. -/
  painted_eq (memory : toolkit.Memory) (event : Event) (calls : List Call) :
    toolkit.painted memory event calls = calls.filterMap Call.text?

/-! ## A toolkit without a screen -/

def toggled (opened : List String) (label : String) : List String :=
  if label ∈ opened then opened.filter (· ≠ label) else label :: opened

theorem contains_toggled (opened : List String) (label other : String) :
    (toggled opened label).contains other =
      if other = label then !opened.contains other else opened.contains other := by
  rw [toggled]
  split <;> split <;> simp_all

def headless : Toolkit where
  Memory := List String
  fresh := []
  answer opened event _
    | .pressed key => event.pressed.contains key
    | .text _ => false
    | .button enabled label => enabled && event = .click label
    | .header label => opened.contains label
  next opened event calls :=
    match event with
    | .keys _ => opened
    | .click label => if .header label ∈ calls then toggled opened label else opened
  painted _ _ calls := calls.filterMap Call.text?
  hasFocus _ _ _ := false
  isOpen opened label := opened.contains label

theorem clicks_headless {opened : headless.Memory} {event : Event} {label : String} :
    headless.Clicks opened event label ↔ event = .click label := by
  simp [Clicks, headless]

theorem lawful_headless : headless.Lawful where
  pressed_iff opened event calls key := by simp [headless]
  button_iff opened event calls enabled label := by
    rw [clicks_headless]
    simp [headless]
  header_iff opened event calls label _ := Iff.rfl
  isOpen_fresh label := rfl
  isOpen_next_of_clicks opened event calls label called clicks := by
    have next : headless.next opened (.click label) calls = toggled opened label := if_pos called
    rw [clicks_headless.mp clicks, next]
    exact (contains_toggled opened label label).trans (if_pos rfl)
  isOpen_next opened event calls label unclicked := by
    rw [clicks_headless] at unclicked
    cases event with
    | keys names => rfl
    | click other =>
        have different : label ≠ other := fun same => unclicked (same ▸ rfl)
        by_cases called : .header other ∈ calls
        · have next : headless.next opened (.click other) calls = toggled opened other :=
            if_pos called
          rw [next]
          exact (contains_toggled opened other label).trans (if_neg different)
        · have next : headless.next opened (.click other) calls = opened := if_neg called
          rw [next]
  painted_eq opened event calls := rfl

end Toolkit

end RpnCalculator
