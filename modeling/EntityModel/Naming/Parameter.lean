import EntityModel.Text.LetterCase

/-!
# Parameter names

The name of a local variable for an identifier: its first letter in lower case, with the words that the
generated language reserves or predeclares replaced by short forms.
-/

namespace EntityModel.Naming

/-- The short forms that stand in for reserved and predeclared words. -/
def shortForms : List (String × String) :=
  [("type", "typ"), ("range", "rng"), ("map", "mp"), ("string", "str"), ("interface", "iface"),
   ("select", "sel"), ("default", "def"), ("case", "c"), ("switch", "sw"), ("for", "f"),
   ("func", "fn"), ("return", "ret"), ("package", "pkg"), ("import", "imp"), ("var", "v"),
   ("const", "cst"), ("struct", "st")]

/-- The parameter name of an identifier. -/
def parameter (identifier : String) : String :=
  let lowered := String.ofList (Text.uncapitalize identifier.toList)
  (shortForms.lookup lowered).getD lowered

end EntityModel.Naming
