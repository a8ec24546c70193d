/-
Fields: the pieces of a text between separators.  A text without separators is its only field, and
the fields next to a separator may be empty.
-/

namespace UiBinding.Text

/-- The pieces of a character list between separators, empty ones included. -/
def fieldsOf (separator : Char) : List Char → List (List Char)
  | [] => [[]]
  | c :: rest =>
    if c = separator then [] :: fieldsOf separator rest
    else
      match fieldsOf separator rest with
      | [] => [[c]]
      | field :: others => (c :: field) :: others

/-- The pieces of a text between separators, empty ones included. -/
def fields (separator : Char) (s : String) : List String :=
  (fieldsOf separator s.toList).map String.ofList

end UiBinding.Text
