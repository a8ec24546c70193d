/-
Names of elements and attributes: a local name with an optional prefix before a colon.
-/
import UiBinding.Xml.Read

namespace UiBinding.Xml

/-- A name as written.  An empty prefix is the same as none. -/
structure QualifiedName where
  qualifier : String
  localName : String
  deriving DecidableEq, Repr

/-- Whether the first character, if there is one, may begin a name. -/
def beginsAsName : List Char → Bool
  | [] => true
  | c :: _ => isNameStart c

/-- Divides a run of name characters at its colon.  There is at most one colon, the local name is
not empty, and both parts begin as names do. -/
def QualifiedName.ofRun? (run : List Char) : Option QualifiedName :=
  let before := run.takeWhile (· != ':')
  let parts := match run.dropWhile (· != ':') with
    | [] => ([], run)
    | _ :: after => (before, after)
  if parts.2.isEmpty || parts.2.contains ':' || !beginsAsName parts.1 || !beginsAsName parts.2 then
    none
  else
    some ⟨String.ofList parts.1, String.ofList parts.2⟩

/-- Reads the longest run of name characters as a name. -/
def QualifiedName.read? (s : List Char) : Option (Read s QualifiedName) :=
  match QualifiedName.ofRun? (s.takeWhile isName), h : s.takeWhile isName with
  | some name, _ :: _ => some ⟨name, s.dropWhile isName, by
      have hsplit := congrArg List.length (List.takeWhile_append_dropWhile (p := isName) (l := s))
      rw [List.length_append, h] at hsplit
      simp at hsplit
      omega⟩
  | _, _ => none

/-- Reads a name whose colons have no meaning, as processing instructions and entities have. -/
def plainName? : (s : List Char) → Option (Read s (List Char))
  | [] => none
  | c :: rest =>
    if isNameStart c then
      some ⟨c :: rest.takeWhile isName, rest.dropWhile isName,
        Nat.lt_succ_of_le (length_dropWhile_le isName rest)⟩
    else none

end UiBinding.Xml
