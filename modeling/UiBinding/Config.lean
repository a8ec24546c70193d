/-
The configuration of a run, and reading it from YAML.

* `Config.ofYaml` reads a configuration text: fields that are not given keep their defaults,
  unknown fields are passed over, and a field given twice is refused.
-/
import UiBinding.Diagnostic
import UiBinding.Text.WhiteSpace
import UiBinding.Yaml.Node

namespace UiBinding

/-- The configuration of a run. -/
structure Config where
  /-- The namespace that the generated classes live in. -/
  classNamespace : String := "ET.Client"
  /-- Stands before the name of every generated class. -/
  classNamePrefix : String := "FUI_"
  /-- Whether members and controllers that keep the name the editor gave them are left out. -/
  ignoreDefaultNames : Bool := true
  deriving DecidableEq, Repr, Inhabited

namespace Config

/-- The name of the configuration file in an assets directory. -/
def fileName : String := "fuibind.yaml"

/-- The name of the class generated for a component. -/
def className (config : Config) (stem : String) : String := config.classNamePrefix ++ stem

/-- The fields of a configuration text. -/
inductive Field where
  | classNamespace
  | classNamePrefix
  | ignoreDefaultNames
  deriving DecidableEq, Repr

/-- The field with a given name. -/
def Field.ofName? : String → Option Field
  | "namespace" => some .classNamespace
  | "class_name_prefix" => some .classNamePrefix
  | "ignore_default_variable_name" => some .ignoreDefaultNames
  | _ => none

/-- The truth value of a scalar.  It is written plainly, or as a literal block that is tagged as
one. -/
def truthValue? (s : Yaml.Scalar) : Option Bool :=
  let admissible := s.style = .plain ||
    (s.style = .literal && s.tag = some (.ofString "tag:yaml.org,2002:bool"))
  if !admissible then none
  else if ["true", "True", "TRUE"].contains s.text then some true
  else if ["false", "False", "FALSE"].contains s.text then some false
  else none

/-- Sets a field to what a node says.  The text of a scalar is taken as it is. -/
def set? (config : Config) (d : Yaml.Document) (field : Field) (node : Yaml.Node) :
    Option Config := do
  let s ← d.scalar? node
  match field with
  | .classNamespace => return { config with classNamespace := s.text }
  | .classNamePrefix => return { config with classNamePrefix := s.text }
  | .ignoreDefaultNames => return { config with ignoreDefaultNames := ← truthValue? s }

/-- Takes in the entries of the root mapping; `seen` are the fields that were given already. -/
def ofEntries? (d : Yaml.Document) :
    Config → List Field → List (Yaml.Node × Yaml.Node) → Option Config
  | config, _, [] => some config
  | config, seen, (key, value) :: rest => do
    let name ← d.scalar? key
    match Field.ofName? name.text with
    | none => ofEntries? d config seen rest
    | some field =>
      if seen.contains field then none
      else ofEntries? d (← config.set? d field value) (field :: seen) rest

/-- The configuration that a document states.  Its root is a mapping, or nothing is written. -/
def ofDocument? (d : Yaml.Document) : Option Config :=
  match d.root with
  | .mapping entries => ofEntries? d {} [] entries
  | .scalar s => if s.style = .plain && s.text = "" then some {} else none
  | _ => none

/-- The configuration that a text states, if the text is well formed. -/
def ofYaml? (text : String) : Option Config :=
  if Text.isBlankText text then some {}
  else
    match Yaml.Document.read? text with
    | none => none
    | some none => some {}
    | some (some d) => ofDocument? d

/-- Reads a configuration text that comes from no file. -/
def ofYaml (text : String) : Except Diagnostic Config :=
  match ofYaml? text with
  | some config => .ok config
  | none => .error (.malformedConfig "unknown" Yaml.malformed)

end Config

end UiBinding
