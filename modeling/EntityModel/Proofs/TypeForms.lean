import EntityModel.Proofs.ReadBack

/-!
# The two forms of a forced type

A forced type is given in parts, or as one text in compact form. For a type that is imported from a path with a
slash the text is the parts in a row: the brackets of a slice, the star of a pointer, the path, a dot and the name.
The parts are put together field by field, the text is cut at the ends of its wrappers and at the last dot before its
first bracket, and both give one type (`parts_agree_with_text`).

What the text needs for this is that the cuts fall between the parts: the path must not go on where the wrappers
end, and neither the path nor the name may move the last dot before the first bracket.
-/

namespace EntityModel

open Text

namespace TypeParts

/-- The parts in a row, as a compact form. -/
def text (d : TypeParts) : String :=
  (if d.slice then "[]" else "") ++ (if d.pointer then "*" else "") ++ d.importPath ++ "." ++ d.name

/-- The type of the parts: under the package name that the path implies, imported from the path. -/
def imported (d : TypeParts) : TargetType where
  base := d.name
  qualifier := PackagePath.name d.importPath
  origin := some ⟨d.importPath, none⟩
  pointer := d.pointer
  array := d.slice
  depth := if d.slice then 1 else 0

variable {d : TypeParts}

theorem importPath_ne_empty_of_slash (slash : '/' ∈ d.importPath.toList) : d.importPath ≠ "" := by
  intro h
  rw [h] at slash
  cases slash

/-! ## Putting the parts together -/

theorem type_eq_imported (noPackage : d.package = "") (given : d.importPath ≠ "") (named : d.name ≠ "") :
    d.type = .ok d.imported := by
  have hnamed : d.named =
      .ok { base := d.name, qualifier := PackagePath.name d.importPath, origin := some ⟨d.importPath, none⟩ } := by
    simp [TypeParts.named, noPackage, given, TargetType.withOrigin, TargetType.qualified]
  rw [type, if_neg named, if_neg fun h => given h.1, hnamed]
  obtain ⟨path, package, name, pointer, slice⟩ := d
  cases pointer with
  | false => cases slice <;> rfl
  | true => cases slice <;> rfl

/-! ## Cutting the text -/

/-- The text is the wrappers in front of the path and the name. -/
theorem toList_text (d : TypeParts) :
    d.text.toList = TargetType.brackets (if d.slice then 1 else 0) ++
      (TargetType.star d.pointer ++ (d.importPath.toList ++ '.' :: d.name.toList)) := by
  obtain ⟨path, package, name, pointer, slice⟩ := d
  cases pointer with
  | false => cases slice <;> simp [text, TargetType.brackets, TargetType.star]
  | true => cases slice <;> simp [text, TargetType.brackets, TargetType.star]

/-- A path with a slash is put back as the import, and its name as the qualifier. -/
theorem withDepth_ofParts (slash : '/' ∈ d.importPath.toList) :
    ({ TargetType.ofParts d.importPath.toList d.name.toList with pointer := d.pointer } : TargetType).withDepth
      (UInt32.ofNat (if d.slice then 1 else 0)) = d.imported := by
  have hpath : d.importPath ≠ "" := importPath_ne_empty_of_slash slash
  unfold TargetType.ofParts
  rw [if_pos slash]
  cases hs : d.slice <;>
    simp [imported, hs, hpath, TargetType.withOrigin, TargetType.withDepth, TargetType.qualified]

theorem parse?_text (slash : '/' ∈ d.importPath.toList)
    (path : TargetType.LegibleQualifier d.importPath.toList) (named : d.name ≠ "")
    (lastNotBlank : d.name.toList.getLast?.any isBlank = false)
    (noDot : '.' ∉ d.name.toList.takeWhile (· ≠ '[')) :
    TargetType.parse? d.text = some d.imported := by
  have hname : d.name.toList ≠ [] := by simpa using named
  have read : TargetType.readNamed (d.importPath.toList ++ '.' :: d.name.toList) =
      some (TargetType.ofParts d.importPath.toList d.name.toList) := by
    rw [TargetType.readNamed_append path.2 noDot, if_neg (not_or.2 ⟨path.1.ne_nil, hname⟩)]
  have hlast : (d.importPath.toList ++ '.' :: d.name.toList).getLast?.any isBlank = false := by
    rw [List.append_cons, List.getLast?_append_of_ne_nil _ hname]
    exact lastNotBlank
  rw [TargetType.parse?, toList_text, TargetType.readCompact_wrapped _ _ (path.1.append _) hlast read,
    withDepth_ofParts slash]

end TypeParts

/-- A text that reads as a type is accepted as a forced type. -/
theorem typeCompact_of_parse? {text : String} {t : TargetType} (read : TargetType.parse? text = some t) :
    (TypeSpec.compact text).type = .ok t := by
  obtain ⟨_, _, name, _, htext, hname, -, -⟩ := TargetType.exists_name_of_readCompact read
  have hne : trim text.toList ≠ [] := by
    rw [← htext]
    simp [hname]
  rw [TypeSpec.type, if_neg hne]
  exact TargetType.parse_eq_ok_iff.2 read

/-- **The two forms agree.** A type that is imported from a path with a slash is the same whether its parts are given
one by one or in a row, for every pointer and slice. -/
theorem parts_agree_with_text {d : TypeParts} (noPackage : d.package = "") (slash : '/' ∈ d.importPath.toList)
    (path : TargetType.LegibleQualifier d.importPath.toList) (named : d.name ≠ "")
    (lastNotBlank : d.name.toList.getLast?.any isBlank = false)
    (noDot : '.' ∉ d.name.toList.takeWhile (· ≠ '[')) :
    (TypeSpec.parts d).type = .ok d.imported ∧ (TypeSpec.compact d.text).type = .ok d.imported := by
  have given : d.importPath ≠ "" := TypeParts.importPath_ne_empty_of_slash slash
  exact ⟨TypeParts.type_eq_imported noPackage given named,
    typeCompact_of_parse? (TypeParts.parse?_text slash path named lastNotBlank noDot)⟩

/-- A list of pointers to nodes of times, from a versioned path. -/
def nodeParts : TypeParts where
  importPath := "gopkg.in/yaml.v3"
  name := "Node[time.Time]"
  pointer := true
  slice := true

/-- Neither the dot of the version nor that of the type argument is where the text is cut. -/
theorem parts_agree_with_text_node :
    nodeParts.text = "[]*gopkg.in/yaml.v3.Node[time.Time]" ∧
      nodeParts.imported.display = "[]*yaml.Node[time.Time]" ∧
      (TypeSpec.parts nodeParts).type = .ok nodeParts.imported ∧
      (TypeSpec.compact "[]*gopkg.in/yaml.v3.Node[time.Time]").type = .ok nodeParts.imported := by
  have htext : nodeParts.text = "[]*gopkg.in/yaml.v3.Node[time.Time]" := by decide
  have agree := parts_agree_with_text (d := nodeParts) rfl (by decide) (by decide) (by decide) (by decide) (by decide)
  rw [htext] at agree
  exact ⟨htext, by decide, agree.1, agree.2⟩

end EntityModel
