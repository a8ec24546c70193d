/-
Namespace prefixes.  Namespaces decide only whether a document is well formed: every prefix in use
is declared, and no tag has two attributes of one expanded name.
-/
import UiBinding.Xml.Piece

namespace UiBinding.Xml

/-- The namespace that the prefix `xml` stands for. -/
def xmlNamespace : String := "http://www.w3.org/XML/1998/namespace"

/-- The namespace of namespace declarations. -/
def declarationNamespace : String := "http://www.w3.org/2000/xmlns/"

/-- Prefixes in force with their namespaces, innermost first.  The default namespace has the empty
prefix. -/
abbrev Scope := List (String × String)

/-- What an attribute is to namespaces. -/
inductive AttributeRole where
  /-- Declares a prefix, or the default namespace for the empty prefix. -/
  | declares (qualifier : String) (uri : String)
  /-- Declares `xml` as what it is anyway. -/
  | restatesXml
  | ordinary
  | misused
  deriving DecidableEq, Repr

/-- `xmlns:p` declares the prefix `p`, and a local name `xmlns` with any other prefix the default
namespace.  The two reserved namespaces cannot be bound. -/
def WrittenAttribute.role (a : WrittenAttribute) : AttributeRole :=
  if a.name.qualifier = "xmlns" then
    if a.value = declarationNamespace then .misused
    else if a.name.localName = "xml" then
      if a.value = xmlNamespace then .restatesXml else .misused
    else if a.value = xmlNamespace then .misused
    else .declares a.name.localName a.value
  else if a.name.localName = "xmlns" then
    if a.value = xmlNamespace || a.value = declarationNamespace then .misused
    else .declares "" a.value
  else .ordinary

/-- Whether the prefixes that a tag declares, the default one aside, are all different. -/
def prefixesDistinct (declared : Scope) : Bool :=
  let named := (declared.map Prod.fst).filter (· != "")
  decide named.Nodup

/-- The declarations of a tag, if none is misused and no prefix is declared twice. -/
def declarations? (attributes : List WrittenAttribute) : Option Scope :=
  let roles := attributes.map WrittenAttribute.role
  let declared := roles.filterMap fun
    | .declares qualifier uri => some (qualifier, uri)
    | _ => none
  if roles.contains .misused || !prefixesDistinct declared then none else some declared

/-- The namespace of an attribute; one without prefix has none. -/
def Scope.attributeNamespace? (scope : Scope) (name : QualifiedName) : Option (Option String) :=
  if name.qualifier = "" then some none
  else if name.qualifier = "xml" then some (some xmlNamespace)
  else (scope.lookup name.qualifier).map some

/-- A tag whose declarations have been taken out. -/
structure Tag where
  name : QualifiedName
  attributes : List WrittenAttribute
  deriving DecidableEq, Repr

/-- Takes in a start tag: the tag without declarations, and the prefixes in force inside it. -/
def Scope.enter? (scope : Scope) (name : QualifiedName) (attributes : List WrittenAttribute) :
    Option (Tag × Scope) := do
  let declared ← declarations? attributes
  let inner : Scope := declared ++ scope
  let ordinary := attributes.filter fun a => a.role = .ordinary
  let namespaces : List (Option String) ← ordinary.mapM fun a => inner.attributeNamespace? a.name
  let expanded : List (Option String × String) :=
    namespaces.zip (ordinary.map fun a => a.name.localName)
  if !decide expanded.Nodup then none
  else if name.qualifier = "xmlns" then none
  else if name.qualifier != "" && (inner.lookup name.qualifier).isNone then none
  else some (⟨name, ordinary⟩, inner)

end UiBinding.Xml
