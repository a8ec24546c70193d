/-
The kinds of a component, which decide the framework type that it is instantiated as.

* `Kind.ofName?_eq_some_iff`: a kind is known by its name and by nothing else.
-/

namespace UiBinding.Component

/-- The shape that a component file gives to its component. -/
inductive Kind where
  /-- A plain container. -/
  | component
  | button
  | comboBox
  | label
  | progressBar
  | scrollBar
  | slider
  | tree
  deriving DecidableEq, Repr, Inhabited

namespace Kind

/-- Every kind, plain containers first. -/
def all : List Kind :=
  [component, button, comboBox, label, progressBar, scrollBar, slider, tree]

/-- The authored name of a kind. -/
def name : Kind → String
  | component => "Component"
  | button => "Button"
  | comboBox => "ComboBox"
  | label => "Label"
  | progressBar => "ProgressBar"
  | scrollBar => "ScrollBar"
  | slider => "Slider"
  | tree => "Tree"

/-- The kind that has an authored name; letter case counts. -/
def ofName? (text : String) : Option Kind := all.find? fun kind => kind.name = text

/-- The framework type that a component of this kind is instantiated as. -/
def baseType (kind : Kind) : String := "G" ++ kind.name

/-- A kind is known by its name and by nothing else. -/
theorem ofName?_eq_some_iff {text : String} {kind : Kind} :
    ofName? text = some kind ↔ kind.name = text := by
  constructor
  · intro h
    simpa using List.find?_some h
  · rintro rfl
    cases kind <;> decide

end Kind

end UiBinding.Component
