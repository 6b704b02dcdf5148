import Mathlib.Algebra.Ring.Parity
import RpnCalculator.Proofs.Calculator.Remembering
import RpnCalculator.Window

/-! With any lawful toolkit, what happens to a window amounts to actions of the calculator and to
nothing else, as long as no button is clicked from the keyboard. Which actions these are is told
here from the events and the earlier actions alone: the section of the program is open after an odd
number of clicks on its label, and there is something to restore once something has been saved. -/

namespace RpnCalculator

open Calculator (Action)
open Toolkit (Call)

namespace Window

/-! ## What an event stands for -/

inductive Presses : (label : String) → Action → Prop
  | digit {label : String} :
      label ∈ ["0", "1", "2", "3", "4", "5", "6", "7", "8", "9"] → Presses label (.digit label)
  | point : Presses "." (.point ".")
  | operation {label : String} :
      label ∈ ["+", "-", "×", "÷", "√", "sin", "cos", "±", "π"] → Presses label (.operation label)
  | enter : Presses "↵" .enter
  | backspace : Presses "⌫" .backspace
  | clear : Presses "C" .clear
  | storeMemory : Presses "→M" .storeMemory
  | recallMemory : Presses "M" .recallMemory

theorem presses_of_mem_keypad :
    ∀ button ∈ keypad, Presses button.1 (button.2.action button.1) := by
  have digit {label : String}
      (member : label ∈ ["0", "1", "2", "3", "4", "5", "6", "7", "8", "9"]) := Presses.digit member
  have operation {label : String}
      (member : label ∈ ["+", "-", "×", "÷", "√", "sin", "cos", "±", "π"]) :=
    Presses.operation member
  simp only [keypad, List.forall_mem_cons]
  exact ⟨digit (by decide), digit (by decide), digit (by decide),
      operation (by decide), operation (by decide),
    digit (by decide), digit (by decide), digit (by decide),
      operation (by decide), operation (by decide),
    digit (by decide), digit (by decide), digit (by decide),
      operation (by decide), operation (by decide),
    digit (by decide), .point, operation (by decide), operation (by decide), operation (by decide),
    .enter, .backspace, .clear, .storeMemory, .recallMemory,
    List.forall_mem_nil _⟩

def keyAction? (label : String) : Option Action := (keypad.lookup label).map (Key.action label)

theorem presses_iff {label : String} {action : Action} :
    Presses label action ↔ keyAction? label = some action := by
  constructor
  · intro presses
    cases presses with
    | digit member =>
        simp only [List.mem_cons, List.not_mem_nil, or_false] at member
        rcases member with rfl | rfl | rfl | rfl | rfl | rfl | rfl | rfl | rfl | rfl <;> rfl
    | operation member =>
        simp only [List.mem_cons, List.not_mem_nil, or_false] at member
        rcases member with rfl | rfl | rfl | rfl | rfl | rfl | rfl | rfl | rfl <;> rfl
    | point | enter | backspace | clear | storeMemory | recallMemory => rfl
  · intro found
    rcases Option.map_eq_some_iff.mp found with ⟨key, listed, rfl⟩
    rcases List.lookup_eq_some_iff.mp listed with ⟨before, after, split, _⟩
    have member : (label, key) ∈ keypad := split ▸ List.mem_append_right before List.mem_cons_self
    exact presses_of_mem_keypad _ member

/-- The actions that pressed keys stand for: each once at most, whatever their order. -/
def keyActions (names : List String) : List Action :=
  (if "Enter" ∈ names then [.enter] else []) ++
    (if "Escape" ∈ names then [.clear] else []) ++
    if "Backspace" ∈ names then [.backspace] else []

/-- The actions that an event stands for, if the section of the program is open or not, and
something has been saved or not. -/
inductive Means (shown saved : Prop) : Event → List Action → Prop
  | keys (names : List String) : Means shown saved (.keys names) (keyActions names)
  | button {label : String} {action : Action} :
      Presses label action → Means shown saved (.click label) [action]
  | save : shown → Means shown saved (.click "Sauver") [.save]
  | restore : shown → saved → Means shown saved (.click "Rappeler") [.restore]
  | nothing {label : String} :
      (∀ action, ¬Presses label action) → ¬(shown ∧ label = "Sauver") →
      ¬(shown ∧ label = "Rappeler" ∧ saved) → Means shown saved (.click label) []

def sectionAction? (shown saved : Bool) (label : String) : Option Action :=
  if shown = true ∧ label = saveLabel then some .save
  else if shown = true ∧ label = restoreLabel ∧ saved = true then some .restore
  else none

theorem sectionAction?_of_key {label : String} {action : Action}
    (found : keyAction? label = some action) (shown saved : Bool) :
    sectionAction? shown saved label = none := by
  have noSave : keyAction? saveLabel = none := rfl
  have noRestore : keyAction? restoreLabel = none := rfl
  rw [sectionAction?, if_neg, if_neg]
  · rintro ⟨_, rfl, _⟩
    exact Option.some_ne_none action (found.symm.trans noRestore)
  · rintro ⟨_, rfl⟩
    exact Option.some_ne_none action (found.symm.trans noSave)

def Event.sectionActions (shown saved : Bool) : Event → List Action
  | .keys _ => []
  | .click label => (sectionAction? shown saved label).toList

theorem sectionActions_of_hidden (saved : Bool) (event : Event) :
    event.sectionActions false saved = [] := by
  cases event <;> simp [Event.sectionActions, sectionAction?]

theorem sectionActions_of_header (shown saved : Bool) :
    Event.sectionActions shown saved (.click sectionLabel) = [] := by
  simp [Event.sectionActions, sectionAction?, sectionLabel, saveLabel, restoreLabel]

def Event.actions (shown saved : Bool) : Event → List Action
  | .keys names => keyActions names
  | .click label => ((keyAction? label).or (sectionAction? shown saved label)).toList

theorem actions_eq_of_means {shown saved : Bool} {event : Event} {actions : List Action}
    (means : Means (shown = true) (saved = true) event actions) :
    event.actions shown saved = actions := by
  cases means with
  | keys names => rfl
  | button presses =>
      rw [Event.actions, presses_iff.mp presses]
      rfl
  | save isShown =>
      have below : Event.actions shown saved (.click "Sauver") =
          (sectionAction? shown saved saveLabel).toList := rfl
      rw [below, sectionAction?, if_pos ⟨isShown, rfl⟩]
      rfl
  | restore isShown isSaved =>
      have below : Event.actions shown saved (.click "Rappeler") =
          (sectionAction? shown saved restoreLabel).toList := rfl
      rw [below, sectionAction?, if_neg fun named => absurd named.2 (by decide),
        if_pos ⟨isShown, rfl, isSaved⟩]
      rfl
  | @nothing label foreign closed lacking =>
      have missing : keyAction? label = none :=
        Option.eq_none_iff_forall_ne_some.mpr fun action found =>
          foreign action (presses_iff.mpr found)
      rw [Event.actions, missing, Option.none_or, sectionAction?, saveLabel, restoreLabel,
        if_neg closed, if_neg lacking]
      rfl

theorem means_actions (shown saved : Bool) (event : Event) :
    Means (shown = true) (saved = true) event (event.actions shown saved) := by
  cases event with
  | keys names => exact .keys names
  | click label =>
      by_cases button : ∃ action, Presses label action
      · rcases button with ⟨action, presses⟩
        rw [actions_eq_of_means (.button presses)]
        exact .button presses
      have foreign := not_exists.mp button
      by_cases save : shown = true ∧ label = "Sauver"
      · rcases save with ⟨isShown, rfl⟩
        rw [actions_eq_of_means (.save isShown)]
        exact .save isShown
      by_cases restore : shown = true ∧ label = "Rappeler" ∧ saved = true
      · rcases restore with ⟨isShown, rfl, isSaved⟩
        rw [actions_eq_of_means (.restore isShown isSaved)]
        exact .restore isShown isSaved
      · rw [actions_eq_of_means (.nothing foreign save restore)]
        exact .nothing foreign save restore

/-! ## What a frame does -/

structure Obeys (answer : List Call → Call → Bool) (event : Event) (shown : Bool) : Prop where
  pressed_eq (calls : List Call) (key : String) :
    answer calls (.pressed key) = decide (key ∈ event.pressed)
  button_eq (calls : List Call) (enabled : Bool) (label : String) :
    answer calls (.button enabled label) = (enabled && event = .click label)
  header_eq (calls : List Call) : event ≠ .click sectionLabel →
    answer calls (.header sectionLabel) = shown

namespace Frame

variable {event : Event} {names : List String} {label : String} {shown : Bool}

def texts (frame : Frame) : List String := frame.calls.filterMap Call.text?

section

variable (frame : Frame) (pressed : Bool) (action : Action)

@[simp]
theorem answer_pressIf : (frame.pressIf pressed action).answer = frame.answer := by
  cases pressed <;> rfl

@[simp]
theorem texts_pressIf : (frame.pressIf pressed action).texts = frame.texts := by
  cases pressed <;> rfl

theorem calculator_pressIf : (frame.pressIf pressed action).calculator =
    frame.calculator.pressAll (if pressed = true then [action] else []) := by
  cases pressed <;> rfl

end

theorem texts_text (frame : Frame) (content : String) :
    (frame.text content).texts = frame.texts ++ [content] :=
  List.filterMap_append

theorem texts_button (frame : Frame) (enabled : Bool) (label : String) (action : Action) :
    (frame.button enabled label action).texts = frame.texts ++ [label] := by
  rw [button, texts_pressIf]
  exact List.filterMap_append

theorem answer_button (frame : Frame) (enabled : Bool) (label : String) (action : Action) :
    (frame.button enabled label action).answer = frame.answer :=
  answer_pressIf _ _ _

theorem obeys_button {frame : Frame} (obeys : Obeys frame.answer event shown)
    (enabled : Bool) (label : String) (action : Action) :
    Obeys (frame.button enabled label action).answer event shown := by
  rwa [answer_button]

theorem calculator_button {frame : Frame} (obeys : Obeys frame.answer event shown)
    (enabled : Bool) (label : String) (action : Action) :
    (frame.button enabled label action).calculator = frame.calculator.pressAll
      (if enabled = true ∧ event = .click label then [action] else []) := by
  rw [button, calculator_pressIf, obeys.button_eq]
  simp only [Bool.and_eq_true, decide_eq_true_eq]
  rfl

@[simp]
theorem answer_keyboard (frame : Frame) : frame.keyboard.answer = frame.answer := by
  simp [keyboard, call]

theorem texts_keyboard (frame : Frame) : frame.keyboard.texts = frame.texts := by
  simp only [keyboard, texts_pressIf]
  simp [texts, call, Call.text?]

theorem calculator_keyboard {frame : Frame} (obeys : Obeys frame.answer event shown) :
    frame.keyboard.calculator = frame.calculator.pressAll (keyActions event.pressed) := by
  simp only [keyboard, call, calculator_pressIf, obeys.pressed_eq, decide_eq_true_eq, keyActions,
    Calculator.pressAll_append]

@[simp]
theorem answer_screen (frame : Frame) : frame.screen.answer = frame.answer := by
  rw [screen]
  split <;> rfl

@[simp]
theorem calculator_screen (frame : Frame) : frame.screen.calculator = frame.calculator := by
  rw [screen]
  split <;> rfl

theorem texts_screen (frame : Frame) : frame.screen.texts = frame.texts ++
    ["Historique :", frame.calculator.history, "Affichage :", frame.calculator.display] ++
      if frame.calculator.message = "" then [] else [frame.calculator.message] := by
  simp only [screen, String.isEmpty_iff]
  split <;> simp [texts_text]

/-! ### The keypad -/

@[simp]
theorem answer_foldl_key (frame : Frame) (buttons : List (String × Key)) :
    (buttons.foldl key frame).answer = frame.answer := by
  induction buttons generalizing frame with
  | nil => rfl
  | cons button later induction => rw [List.foldl_cons, induction, key, answer_button]

theorem texts_foldl_key (frame : Frame) (buttons : List (String × Key)) :
    (buttons.foldl key frame).texts = frame.texts ++ buttons.map (·.1) := by
  induction buttons generalizing frame with
  | nil => exact (List.append_nil _).symm
  | cons button later induction =>
      rw [List.foldl_cons, induction, key, texts_button, List.append_assoc]
      rfl

theorem calculator_foldl_key {frame : Frame} (obeys : Obeys frame.answer (.click label) shown)
    {buttons : List (String × Key)} (nodup : (buttons.map (·.1)).Nodup) :
    (buttons.foldl key frame).calculator = frame.calculator.pressAll
      ((buttons.lookup label).map (Key.action label)).toList := by
  induction buttons generalizing frame with
  | nil => rfl
  | cons button later induction =>
      rcases button with ⟨name, kind⟩
      rcases List.nodup_cons.mp nodup with ⟨unlisted, laterNodup⟩
      have laterObeys : Obeys (frame.key (name, kind)).answer (.click label) shown :=
        obeys_button obeys _ _ _
      rw [List.foldl_cons, induction laterObeys laterNodup, key, calculator_button obeys,
        ← Calculator.pressAll_append, List.lookup_cons]
      by_cases clicked : label = name
      · subst clicked
        have missing : later.lookup label = none := by
          rw [List.lookup_eq_none_iff]
          intro other member
          rw [bne_iff_ne]
          rintro rfl
          exact unlisted (List.mem_map.mpr ⟨other, member, rfl⟩)
        simp [missing]
      · have other : (label == name) = false := beq_eq_false_iff_ne.mpr clicked
        simp [clicked, other]

theorem calculator_foldl_key_of_keys {frame : Frame} {names : List String}
    (obeys : Obeys frame.answer (.keys names) shown) (buttons : List (String × Key)) :
    (buttons.foldl key frame).calculator = frame.calculator := by
  induction buttons generalizing frame with
  | nil => rfl
  | cons button later induction =>
      have laterObeys : Obeys (frame.key button).answer (.keys names) shown :=
        obeys_button obeys _ _ _
      rw [List.foldl_cons, induction laterObeys, key, calculator_button obeys]
      simp [Calculator.pressAll]

/-! ### The section of the program -/

def memoryTexts (calculator : Calculator) : List String :=
  match calculator.engine.bindings.get? "M" with
  | some value => ["M = " ++ Numeral.write value]
  | none => []

def savedTexts (calculator : Calculator) : List String :=
  match calculator.saved with
  | some tokens => [" ".intercalate tokens]
  | none => []

@[simp]
theorem answer_memory (frame : Frame) : frame.memory.answer = frame.answer := by
  rw [memory]
  split <;> rfl

@[simp]
theorem calculator_memory (frame : Frame) : frame.memory.calculator = frame.calculator := by
  rw [memory]
  split <;> rfl

theorem texts_memory (frame : Frame) :
    frame.memory.texts = frame.texts ++ memoryTexts frame.calculator := by
  simp only [memory, memoryTexts, memoryName]
  cases frame.calculator.engine.bindings.get? "M" with
  | none => exact (List.append_nil _).symm
  | some value => exact texts_text _ _

@[simp]
theorem calculator_saved (frame : Frame) : frame.saved.calculator = frame.calculator := by
  rw [saved]
  split <;> rfl

theorem texts_saved (frame : Frame) :
    frame.saved.texts = frame.texts ++ savedTexts frame.calculator := by
  rw [saved, savedTexts]
  cases frame.calculator.saved with
  | none => exact (List.append_nil _).symm
  | some tokens => exact texts_text _ _

theorem calculator_contents {frame : Frame} (obeys : Obeys frame.answer event shown) :
    frame.contents.calculator = frame.calculator.pressAll
      (event.sectionActions true frame.calculator.saved.isSome) := by
  have obeysTold : Obeys (frame.text frame.calculator.engine.program.joined).memory.answer event
      shown := by
    rw [answer_memory]
    exact obeys
  rw [contents, calculator_saved, restoring, calculator_button (obeys_button obeysTold _ _ _),
    calculator_button obeysTold, calculator_memory]
  have same : (frame.text frame.calculator.engine.program.joined).calculator = frame.calculator := rfl
  rw [same]
  cases event with
  | keys names =>
      rw [if_neg fun clicked => Event.noConfusion clicked.2,
        if_neg fun clicked => Event.noConfusion clicked.2]
      rfl
  | click label =>
      simp only [Event.click.injEq, Event.sectionActions, sectionAction?, true_and]
      by_cases save : label = saveLabel
      · have different : saveLabel ≠ restoreLabel := by decide
        simp only [save, different, if_true, and_false, if_false]
        rfl
      · simp only [save, if_false, and_comm, apply_ite Option.toList]
        rfl

theorem texts_contents {frame : Frame} (obeys : Obeys frame.answer (.keys names) shown) :
    frame.contents.texts = frame.texts ++ [frame.calculator.engine.program.joined] ++
      memoryTexts frame.calculator ++ [saveLabel, restoreLabel] ++
        savedTexts frame.calculator := by
  have unchanged : frame.contents.calculator = frame.calculator := calculator_contents obeys
  rw [contents, calculator_saved] at unchanged
  rw [contents, texts_saved, unchanged, restoring, texts_button, texts_button, texts_memory,
    texts_text]
  simp only [List.append_assoc]
  rfl

theorem calculator_program {frame : Frame} (obeys : Obeys frame.answer event shown) :
    frame.program.calculator = frame.calculator.pressAll
      (event.sectionActions shown frame.calculator.saved.isSome) := by
  have acts := @calculator_contents event shown (frame.call (.header sectionLabel)) obeys
  have called : (frame.call (.header sectionLabel)).calculator = frame.calculator := rfl
  rw [called] at acts
  by_cases toggled : event = .click sectionLabel
  · -- No button has the label of the section, whether the contents are painted now or not.
    rw [toggled, sectionActions_of_header] at acts ⊢
    simp only [program]
    split
    · exact acts
    · rfl
  · simp only [program, obeys.header_eq frame.calls toggled]
    cases shown with
    | true => exact acts
    | false => rw [sectionActions_of_hidden]; rfl

/-! ### The whole frame -/

theorem obeys_upper {frame : Frame} (obeys : Obeys frame.answer event shown) :
    Obeys frame.upper.answer event shown := by
  rw [upper, answer_screen]
  exact (answer_keyboard frame).symm ▸ obeys

theorem obeys_keys {frame : Frame} (obeys : Obeys frame.answer event shown) :
    Obeys frame.keys.answer event shown := by
  rwa [keys, answer_foldl_key]

theorem calculator_upper {frame : Frame} (obeys : Obeys frame.answer event shown) :
    frame.upper.calculator = frame.calculator.pressAll (keyActions event.pressed) := by
  rw [upper, calculator_screen]
  exact calculator_keyboard obeys

theorem calculator_update {frame : Frame} (obeys : Obeys frame.answer event shown) :
    frame.update.calculator = frame.calculator.pressAll
      (event.actions shown frame.calculator.saved.isSome) := by
  have obeysUpper := obeys_upper obeys
  rw [update, calculator_program (obeys_keys obeysUpper), keys]
  cases event with
  | keys names =>
      rw [calculator_foldl_key_of_keys obeysUpper, calculator_upper obeys]
      rfl
  | click label =>
      rw [calculator_foldl_key obeysUpper (by decide), calculator_upper obeys]
      cases found : keyAction? label with
      | some action =>
          rw [Event.sectionActions, sectionAction?_of_key found, Event.actions, found]
          rw [keyAction?] at found
          rw [found]
          rfl
      | none =>
          rw [Event.actions, found, Option.none_or]
          rw [keyAction?] at found
          rw [found]
          rfl

section

variable (frame : Frame)

theorem calls_pressIf (pressed : Bool) (action : Action) :
    (frame.pressIf pressed action).calls = frame.calls := by
  cases pressed <;> rfl

theorem calls_text (content : String) : frame.calls <+: (frame.text content).calls :=
  List.prefix_append _ _

theorem calls_button (enabled : Bool) (label : String) (action : Action) :
    frame.calls <+: (frame.button enabled label action).calls := by
  rw [button, calls_pressIf]
  exact List.prefix_append _ _

theorem calls_memory : frame.calls <+: frame.memory.calls := by
  rw [memory]
  split
  · exact calls_text _ _
  · exact List.prefix_refl _

theorem calls_saved : frame.calls <+: frame.saved.calls := by
  rw [saved]
  split
  · exact calls_text _ _
  · exact List.prefix_refl _

theorem calls_contents : frame.calls <+: frame.contents.calls :=
  ((((frame.calls_text _).trans (calls_memory _)).trans (calls_button _ _ _ _)).trans
    (calls_button _ _ _ _)).trans (calls_saved _)

theorem header_mem_calls : .header sectionLabel ∈ frame.update.calls := by
  have told : .header sectionLabel ∈ (frame.upper.keys.call (.header sectionLabel)).calls :=
    List.mem_append_right _ (List.mem_singleton_self _)
  rw [update, program]
  split
  · exact (calls_contents _).subset told
  · exact told

end

theorem texts_upper {frame : Frame} (obeys : Obeys frame.answer (.keys []) shown) :
    frame.upper.texts = frame.texts ++ ["Calculatrice RPN", "Historique :",
      frame.calculator.history, "Affichage :", frame.calculator.display] ++
        if frame.calculator.message = "" then [] else [frame.calculator.message] := by
  have unchanged : (frame.keyboard.text title).calculator = frame.calculator :=
    calculator_keyboard obeys
  rw [upper, texts_screen, unchanged, texts_text, texts_keyboard, title]
  simp only [List.append_assoc]
  rfl

theorem texts_update {frame : Frame} (obeys : Obeys frame.answer (.keys []) shown) :
    frame.update.texts = frame.upper.texts ++ keypadLabels ++ "Programme" ::
      if shown = true then
        [frame.calculator.engine.program.joined] ++ memoryTexts frame.calculator ++
          ["Sauver", "Rappeler"] ++ savedTexts frame.calculator
      else [] := by
  have obeysUpper := obeys_upper obeys
  have obeysKeys := obeys_keys obeysUpper
  have unchanged : frame.upper.keys.calculator = frame.calculator := by
    rw [keys, calculator_foldl_key_of_keys obeysUpper]
    exact calculator_upper obeys
  have told : (frame.upper.keys.call (.header sectionLabel)).texts =
      frame.upper.texts ++ keypadLabels ++ ["Programme"] := by
    rw [texts, call, List.filterMap_append]
    exact congrArg (· ++ ["Programme"]) (texts_foldl_key _ _)
  have inside : (frame.upper.keys.call (.header sectionLabel)).contents.texts = _ :=
    texts_contents obeysKeys
  rw [update, program]
  simp only [obeysKeys.header_eq _ Event.noConfusion]
  cases shown with
  | false => exact told
  | true =>
      rw [if_pos rfl, inside, told]
      have same : (frame.upper.keys.call (.header sectionLabel)).calculator = frame.calculator :=
        unchanged
      rw [same]
      simp only [List.append_assoc]
      rfl

end Frame

/-! ## Runs of events -/

def Event.toggles (event : Event) : Bool := event = .click "Programme"

/-- `Drives events actions`: these are the actions that the events amount to, from a new window
on. -/
inductive Drives : List Event → List Action → Prop
  | start : Drives [] []
  | step {events : List Event} {earlier actions : List Action} {event : Event} :
      Drives events earlier →
      Means (Odd (events.countP Event.toggles)) (.save ∈ earlier) event actions →
      Drives (events ++ [event]) (earlier ++ actions)

theorem drives_nil_iff {actions : List Action} : Drives [] actions ↔ actions = [] := by
  constructor
  · intro drives
    generalize empty : [] = events at drives
    cases drives with
    | start => rfl
    | step earlier means => exact absurd empty.symm (by simp)
  · rintro rfl
    exact .start

theorem drives_concat_iff {events : List Event} {event : Event} {actions : List Action} :
    Drives (events ++ [event]) actions ↔ ∃ earlier later, Drives events earlier ∧
      Means (Odd (events.countP Event.toggles)) (.save ∈ earlier) event later ∧
      actions = earlier ++ later := by
  constructor
  · intro drives
    generalize concat : events ++ [event] = whole at drives
    cases drives with
    | start => exact absurd concat (by simp)
    | @step others earlier later other drives means =>
        rcases List.append_inj' concat rfl with ⟨rfl, same⟩
        cases same
        exact ⟨earlier, later, drives, means, rfl⟩
  · rintro ⟨earlier, later, drives, means, rfl⟩
    exact .step drives means

end Window

open Window (Event Presses Frame Drives Obeys sectionLabel presses_iff actions_eq_of_means
  means_actions drives_nil_iff drives_concat_iff)

namespace Toolkit

variable {toolkit : Toolkit}

def Unfocused (toolkit : Toolkit) (memory : toolkit.Memory) (event : Event) : Prop :=
  "Enter" ∈ event.pressed ∨ "Space" ∈ event.pressed →
    ∀ label, toolkit.hasFocus memory event label = false

theorem Unfocused.clicks_iff {memory : toolkit.Memory} {event : Event}
    (unfocused : toolkit.Unfocused memory event) {label : String} :
    toolkit.Clicks memory event label ↔ event = .click label := by
  constructor
  · rintro (clicked | ⟨focus, pressed⟩)
    · exact clicked
    · exact absurd (focus.symm.trans (unfocused pressed label)) (by simp)
  · exact .inl

theorem unfocused_idle (memory : toolkit.Memory) : toolkit.Unfocused memory (.keys []) := by
  rintro (pressed | pressed)
  · exact absurd pressed List.not_mem_nil
  · exact absurd pressed List.not_mem_nil

namespace Window

variable {event : Event} {events : List Event}

theorem obeys_frame (lawful : toolkit.Lawful) (window : toolkit.Window)
    (unfocused : toolkit.Unfocused window.memory event) :
    Obeys (window.frame event).answer event (toolkit.isOpen window.memory sectionLabel) where
  pressed_eq calls key := by
    rw [Bool.eq_iff_iff, decide_eq_true_iff]
    exact lawful.pressed_iff _ _ _ _
  button_eq calls enabled label := by
    rw [Bool.eq_iff_iff, Bool.and_eq_true, decide_eq_true_iff, ← unfocused.clicks_iff]
    exact lawful.button_iff _ _ _ _ _
  header_eq calls unclicked := by
    rw [Bool.eq_iff_iff]
    exact lawful.header_iff _ _ _ _ fun clicks => unclicked (unfocused.clicks_iff.mp clicks)

theorem isOpen_handle (lawful : toolkit.Lawful) (window : toolkit.Window)
    (unfocused : toolkit.Unfocused window.memory event) :
    toolkit.isOpen (window.handle event).memory sectionLabel =
      (event.toggles ^^ toolkit.isOpen window.memory sectionLabel) := by
  by_cases clicked : event = .click sectionLabel
  · have toggles : event.toggles = true := decide_eq_true clicked
    rw [toggles, Bool.true_xor]
    exact lawful.isOpen_next_of_clicks _ _ _ _ (Frame.header_mem_calls _)
      (unfocused.clicks_iff.mpr clicked)
  · have toggles : event.toggles = false := decide_eq_false clicked
    rw [toggles, Bool.false_xor]
    exact lawful.isOpen_next _ _ _ _ fun clicks => clicked (unfocused.clicks_iff.mp clicks)

def handleAll (window : toolkit.Window) (events : List Event) : toolkit.Window :=
  events.foldl handle window

theorem handleAll_concat (window : toolkit.Window) (events : List Event) (event : Event) :
    window.handleAll (events ++ [event]) = (window.handleAll events).handle event := by
  rw [handleAll, List.foldl_append]
  rfl

/-- No button is clicked from the keyboard while the events happen to a new window. -/
def UnfocusedAlong (toolkit : Toolkit) (events : List Event) : Prop :=
  ∀ earlier event, earlier ++ [event] <+: events →
    toolkit.Unfocused ((new toolkit).handleAll earlier).memory event

theorem UnfocusedAlong.init (unfocused : UnfocusedAlong toolkit (events ++ [event])) :
    UnfocusedAlong toolkit events :=
  fun earlier other within => unfocused earlier other (within.trans (List.prefix_append _ _))

theorem isOpen_handleAll (lawful : toolkit.Lawful) (unfocused : UnfocusedAlong toolkit events) :
    toolkit.isOpen ((new toolkit).handleAll events).memory sectionLabel = true ↔
      Odd (events.countP Event.toggles) := by
  induction events using List.reverseRecOn with
  | nil =>
      have closed : toolkit.isOpen ((new toolkit).handleAll []).memory sectionLabel = false :=
        lawful.isOpen_fresh _
      rw [closed]
      decide
  | append_singleton events event induction =>
      rw [handleAll_concat, isOpen_handle lawful _ (unfocused _ _ (List.prefix_refl _)),
        List.countP_append, List.countP_singleton]
      cases event.toggles with
      | true => simp [← induction unfocused.init, Nat.odd_add_one]
      | false => simp [← induction unfocused.init]

theorem exists_drives (lawful : toolkit.Lawful) (unfocused : UnfocusedAlong toolkit events) :
    ∃ actions, (∀ other, Drives events other ↔ other = actions) ∧
      ((new toolkit).handleAll events).calculator = Calculator.new.pressAll actions := by
  induction events using List.reverseRecOn with
  | nil => exact ⟨[], fun other => drives_nil_iff, rfl⟩
  | append_singleton events event induction =>
      rcases induction unfocused.init with ⟨earlier, only, same⟩
      let window := (new toolkit).handleAll events
      have acts : (window.handle event).calculator = window.calculator.pressAll
          (event.actions (toolkit.isOpen window.memory sectionLabel)
            window.calculator.saved.isSome) :=
        Frame.calculator_update (obeys_frame lawful window (unfocused _ _ (List.prefix_refl _)))
      have saved : window.calculator.saved.isSome = true ↔ .save ∈ earlier := by
        rw [same, Calculator.isSome_saved_pressAll]
        simp [Calculator.new]
      refine ⟨earlier ++ event.actions (toolkit.isOpen window.memory sectionLabel)
        window.calculator.saved.isSome, ?_, ?_⟩
      · intro other
        rw [drives_concat_iff, ← isOpen_handleAll lawful unfocused.init]
        constructor
        · rintro ⟨before, later, drives, means, rfl⟩
          cases (only before).mp drives
          rw [← saved] at means
          rw [actions_eq_of_means means]
        · intro whole
          refine ⟨earlier, _, (only earlier).mpr rfl, ?_, whole⟩
          rw [← saved]
          exact means_actions _ _ event
      · rw [handleAll_concat, acts, Calculator.pressAll_append, ← same]

end Window

end Toolkit

end RpnCalculator
