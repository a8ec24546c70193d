/-
The data format of reports: texts, truth values, lists, and records with named fields in order.

* `Json.render` writes a value over several lines, two spaces deeper at each level; empty lists and
  records stay on one line.
-/

namespace UiBinding

/-- A value of the data format. -/
inductive Json where
  | text (s : String)
  | truth (b : Bool)
  | list (items : List Json)
  | record (fields : List (String × Json))

namespace Json

/-- A list of texts. -/
def texts (items : List String) : Json := list (items.map text)

/-- A field that is left out if it has no value. -/
def optionalField (name : String) (value : Option String) : List (String × Json) :=
  match value with
  | some s => [(name, text s)]
  | none => []

/-! ### Quoted texts -/

/-- A character between quotes. -/
def quotedChar (c : Char) : List Char :=
  match c with
  | '"' => ['\\', '"']
  | '\\' => ['\\', '\\']
  | '\n' => ['\\', 'n']
  | '\r' => ['\\', 'r']
  | '\t' => ['\\', 't']
  | '\x08' => ['\\', 'b']
  | '\x0c' => ['\\', 'f']
  | c =>
    if c.toNat < 0x20 then
      ['\\', 'u', '0', '0', Nat.digitChar (c.toNat / 16), Nat.digitChar (c.toNat % 16)]
    else [c]

/-- A text between quotes. -/
def quoted (s : String) : String :=
  "\"" ++ String.ofList (s.toList.flatMap quotedChar) ++ "\""

/-! ### Layout -/

/-- A line break and the indentation of a level. -/
def lineBreak (depth : Nat) : String := "\n" ++ String.ofList (List.replicate (2 * depth) ' ')

/-- Parts between two brackets, each on its own lines. -/
def bracketed (opening closing : String) (depth : Nat) (parts : List String) : String :=
  if parts.isEmpty then opening ++ closing
  else
    opening ++ lineBreak (depth + 1) ++ ("," ++ lineBreak (depth + 1)).intercalate parts ++
      lineBreak depth ++ closing

mutual

/-- The text of a value at a level. -/
def renderAt (depth : Nat) : Json → String
  | text s => quoted s
  | truth b => if b then "true" else "false"
  | list items => bracketed "[" "]" depth (renderItems (depth + 1) items)
  | record fields => bracketed "\x7b" "\x7d" depth (renderFields (depth + 1) fields)

/-- The texts of list items at a level. -/
def renderItems (depth : Nat) : List Json → List String
  | [] => []
  | item :: rest => renderAt depth item :: renderItems depth rest

/-- The texts of fields at a level. -/
def renderFields (depth : Nat) : List (String × Json) → List String
  | [] => []
  | (name, value) :: rest =>
    (quoted name ++ ": " ++ renderAt depth value) :: renderFields depth rest

end

/-- The text of a value. -/
def render (j : Json) : String := renderAt 0 j

end Json

end UiBinding
