import EntityModel.Generation.Basic

/-!
# Generations as text

A summary for readers: the entities with their fields and imports, and the reports at the end. Field names are
laid out in a column, which is possible up to a width; a line that cannot be laid out is `none`, and printing
stops before it.
-/

namespace EntityModel

/-- A line of output. -/
def textLine (s : String) : String := s ++ "\n"

/-- The text of the lines before the first that cannot be laid out. -/
def printed (lines : List (Option String)) : String := String.join ((lines.takeWhile (·.isSome)).filterMap id)

/-- A name with blanks after it up to a width in characters; longer names stay as they are. -/
def padRight (width : Nat) (name : String) : String :=
  name ++ String.ofList (List.replicate (width - name.length) ' ')

namespace Entity

/-- The width of the column of field names: the most bytes that one of them takes. -/
def nameWidth (e : Entity) : Nat := (e.fields.map fun f => f.name.utf8ByteSize).foldl max 0

/-- The widest column that can be laid out. -/
def maxWidth : Nat := 65535

/-- The line of a field, none if the column of names is too wide. -/
def fieldLine (width : Nat) (f : Field) : Option String :=
  if maxWidth < width then none
  else
    some (textLine ("  " ++ padRight width f.name ++ "  " ++ f.type.display ++
      if f.isPrimaryKey then "  [pk]" else ""))

/-- The lines of an import list, none if there are no imports. -/
def importLines (imports : List Import) : List String :=
  if imports = [] then []
  else textLine "  imports:" :: imports.map fun i => textLine ("    " ++ i.text)

/-- The lines of an entity, after an empty one. -/
def lines (e : Entity) (imports : List Import) : List (Option String) :=
  some (textLine "") ::
    some (textLine (e.type.display ++ " <- " ++ e.fullTableName ++
      if e.isRenderable then "" else " (no primary key)")) ::
    e.fields.map (fieldLine e.nameWidth) ++ (importLines imports).map some

end Entity

namespace Diagnostics

/-- The lines of the reports, none if there are none. -/
def lines (ds : Diagnostics) : List String :=
  if ds = [] then []
  else
    textLine "" :: textLine ("Diagnostics: " ++ toString ds.length) ::
      ds.map fun d => textLine ("  " ++ d.table ++ "." ++ d.column ++ ": " ++ d.message)

end Diagnostics

namespace Generation

/-- The entities of a summary; those without a primary key are listed only if all are wanted. -/
def listed (g : Generation) (all : Bool) : List Entity := if all then g.entities else g.renderable

/-- The lines of the summary of a generation. -/
def lines (g : Generation) (all : Bool) : List (Option String) :=
  some (textLine ("package " ++ g.package ++ " (" ++ g.driver.path ++ ")")) ::
    (g.listed all).flatMap (fun e => e.lines (g.importsOf e)) ++ g.diagnostics.lines.map some

end Generation

end EntityModel
