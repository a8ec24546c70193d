/-
Keys: what a component is looked up by, and the texts that name it.
-/

namespace UiBinding.Component

/-- A component is known by its package and its own identifier in it. -/
@[ext]
structure Key where
  packageId : String
  componentId : String
  deriving DecidableEq, Repr, Inhabited

namespace Key

/-- The two identifiers with a slash between them. -/
def text (key : Key) : String := key.packageId ++ "/" ++ key.componentId

/-- The address under which component files refer to each other; the two identifiers stand side by
side without a separator. -/
def url (key : Key) : String := "ui://" ++ key.packageId ++ key.componentId

end Key

end UiBinding.Component
