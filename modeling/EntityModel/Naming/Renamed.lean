import EntityModel.Naming.Identifier
import EntityModel.Options.Basic

/-!
# Names under the options of a run
-/

namespace EntityModel.Options

/-- The exported identifier of a raw name. -/
def identifier (o : Options) (raw : String) : String :=
  Naming.identifier o.renames o.initialisms raw

/-- The name of an object within all schemas. -/
def flatName (o : Options) (schema name : String) : String :=
  Naming.flatName o.defaultSchema schema name

end EntityModel.Options
