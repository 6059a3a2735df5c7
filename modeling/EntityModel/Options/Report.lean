import EntityModel.Generation.Report
import EntityModel.Json.Printer

/-!
# Settled options as text and JSON
-/

namespace EntityModel.Options

/-- A summary of the options for readers. -/
def summary (o : Options) : String :=
  String.join
    [textLine "Options are valid",
     textLine ("  Engine: " ++ o.engine.name),
     textLine ("  Package: " ++ o.package),
     textLine ("  Driver: " ++ o.driver.path),
     textLine ("  Default schema: " ++ Text.quoted o.defaultSchema),
     textLine ("  Overrides: " ++ toString o.overrides.length)]

/-- The summary as JSON, sorted by names. -/
def summaryJson (o : Options) : Json :=
  .object
    [("default_schema", .string o.defaultSchema), ("driver", .string o.driver.path),
     ("engine", .string o.engine.name), ("overrides", .int o.overrides.length),
     ("package", .string o.package)]

end EntityModel.Options
