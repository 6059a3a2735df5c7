/-!
# Imports

A package path with an optional local name, and how an import is written in source code.
-/

namespace EntityModel

/-- A package that code depends on, perhaps under a name of its own in that code. -/
structure Import where
  path : String
  localName : Option String := none
  deriving DecidableEq, Repr, Inhabited

namespace Import

/-- An import under a local name; the empty name is none. -/
def aliased (path name : String) : Import := ⟨path, if name = "" then none else some name⟩

/-- The import as written in source code: the quoted path, after the local name if there is one. -/
def text (i : Import) : String :=
  match i.localName with
  | some name => name ++ " \"" ++ i.path ++ "\""
  | none => "\"" ++ i.path ++ "\""

@[simp] theorem aliased_empty (path : String) : aliased path "" = ⟨path, none⟩ := rfl

end Import

end EntityModel
