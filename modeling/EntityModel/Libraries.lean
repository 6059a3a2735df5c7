import EntityModel.Document.YamlText
import EntityModel.Override.Expression

/-!
# What a run takes from libraries

Three things are left to libraries: compiling regular expressions, visiting the entries of a hash table, and reading
YAML text. A run is given them (`Libraries`), and what is proved about it holds whatever they answer, if nothing else
is said. `Libraries.standard` is what the program is built with.
-/

namespace EntityModel

open Document

/-- The order in which the entries of a table of renames are visited. A hash table has an order of its own in each
run. -/
structure RenameOrder where
  visit : List (String × String) → List (String × String)
  visit_perm : ∀ renames, (visit renames).Perm renames

/-- The entries as they are listed. -/
def RenameOrder.asListed : RenameOrder := ⟨id, fun renames => .refl renames⟩

theorem RenameOrder.mem_visit (order : RenameOrder) {renames : List (String × String)} {r : String × String} :
    r ∈ order.visit renames ↔ r ∈ renames :=
  (order.visit_perm renames).mem_iff

/-- What a run takes from libraries. -/
structure Libraries where
  /-- An engine for regular expressions: the search that an expression asks for, or why it is refused. -/
  compile : String → Except String (String → Bool)
  /-- The order in which the renames of the settled options are visited. -/
  order : RenameOrder
  /-- The tree of a YAML text, if it is one. -/
  readYaml : String → Option Node

/-- An engine with a bound on the size of expressions, tables visited as listed, and the plain part of YAML. -/
def Libraries.standard : Libraries where
  compile := Expression.bounded
  order := .asListed
  readYaml := YamlText.read?

end EntityModel
