import EntityModel.Proofs.BoundQualifier
import EntityModel.Proofs.Overflow
import EntityModel.Proofs.TableTypes

/-!
# How many dimensions a column has

The dimensions of a column stack on those of the type that its source gives for the elements: all that are declared
for a native array, and at least one, and one for a slice parameter. They are counted in a 32-bit word, and there is
no type where a word cannot count them.

Main statement: under accepted options a column without an override has as many dimensions as are stacked, unless
they overflow; and for all sources but enums they overflow in one case only, a native array of as many dimensions as a
word can hold whose elements are arrays themselves (`resolve?_depth`).
-/

namespace EntityModel

variable {lib : Libraries}

/-! ## The dimensions of sources -/

namespace TypeSource

/-- The source is an enum, whose type is qualified by what the options say and may have dimensions from there. -/
def IsEnum : TypeSource → Prop
  | custom entry => entry.kind = .enum
  | override _ | table _ | placeholder _ => False

end TypeSource

theorem depth_tableTypes (engine : Engine) : ∀ t ∈ engine.tableTypes, t.depth.toNat ≤ 1 := by
  cases engine <;> decide

theorem depth_nullableComposite (o : Options) : (nullableComposite o).depth = 0 := by
  unfold nullableComposite
  split <;> rfl

/-- What is written in code of its own has one dimension at most. -/
theorem Answers.depth_le_one {o : Options} {c : Catalog} {column : Column} {source : TypeSource}
    (h : Answers o (.ofCatalog o c) column source) (noOverride : o.override? column = none)
    (noEnum : ¬ source.IsEnum) : source.type.depth.toNat ≤ 1 := by
  cases h with
  | override ho => exact absurd (noOverride.symm.trans ho) nofun
  | table _ ht => exact depth_tableTypes _ _ (mem_tableTypes_of_lookup ht)
  | custom _ _ hc =>
    rcases type_of_mem_entries (List.mem_of_find?_eq_some hc) with ⟨hk, -⟩ | ⟨-, ht | ht⟩
    · exact absurd hk noEnum
    · rw [TypeSource.type, ht]
      decide
    · rw [TypeSource.type, ht, depth_nullableComposite]
      decide
  | placeholder => exact Nat.zero_le 1

namespace TypeSource

variable {column : Column} {source : TypeSource}

/-- A column adds fewer dimensions than the size of a word, and one less than that only as a native array. -/
theorem extraDepth_lt (column : Column) (source : TypeSource) :
    source.extraDepth column < UInt32.size ∧
      (source.extraDepth column = UInt32.size - 1 →
        column.isArray = true ∧ column.arrayDims.toNat = UInt32.size - 1) := by
  have hdims : column.arrayDims.toNat < UInt32.size := column.arrayDims.toNat_lt_size
  have hsize : 2 < UInt32.size := by decide
  cases source with
  | override rule =>
    simp only [extraDepth]
    split
    · omega
    · omega
  | _ =>
    simp only [extraDepth]
    split
    · next ha => exact ⟨by omega, fun h => ⟨ha, by omega⟩⟩
    · split
      · omega
      · omega

/-- Elements of one dimension at most leave room for all arrays but one. -/
theorem size_le_iff (noOverride : ∀ rule, source ≠ .override rule) (depth : source.type.depth.toNat ≤ 1) :
    UInt32.size ≤ source.type.depth.toNat + source.extraDepth column ↔
      column.isArray = true ∧ column.arrayDims.toNat = UInt32.size - 1 ∧ source.type.depth.toNat = 1 := by
  obtain ⟨hlt, hmax⟩ := source.extraDepth_lt column
  constructor
  · intro h
    obtain ⟨ha, hdims⟩ := hmax (by omega)
    exact ⟨ha, hdims, by omega⟩
  · rintro ⟨ha, hdims, hdepth⟩
    have hextra : source.extraDepth column = max 1 column.arrayDims.toNat := by
      cases source with
      | override rule => exact absurd rfl (noOverride rule)
      | _ => simp [extraDepth, ha]
    omega

end TypeSource

/-- **Dimensions are counted in a word.** Under accepted options a column without an override has the dimensions of
the type of its source and its own. There is no type exactly if a word cannot count them, and unless the type is an
enum this happens only to a native array of arrays with the greatest number of dimensions that can be declared. -/
theorem resolve?_depth {engine : Engine} {fallbackSchema : String} {run project : Json} {o : Options}
    (accepted : Options.ofDocumentsIn lib engine fallbackSchema run project = .ok o) (c : Catalog) {column : Column}
    (noOverride : o.override? column = none) {source : TypeSource}
    (answers : Answers o (.ofCatalog o c) column source) :
    (∀ r, o.resolve? (.ofCatalog o c) column = some r →
        r.type.depth.toNat = source.type.depth.toNat + source.extraDepth column) ∧
      (o.resolve? (.ofCatalog o c) column = none ↔
        UInt32.size ≤ source.type.depth.toNat + source.extraDepth column) ∧
      (¬ source.IsEnum →
        (UInt32.size ≤ source.type.depth.toNat + source.extraDepth column ↔
          column.isArray = true ∧ column.arrayDims.toNat = UInt32.size - 1 ∧ source.type.depth.toNat = 1)) := by
  obtain ⟨d, g, -, -, hs, -⟩ := Options.ofDocumentsIn_eq_ok_iff.1 accepted
  refine ⟨fun r hr => ?_, answers.resolve?_eq_none_iff, fun noEnum => ?_⟩
  · obtain ⟨fits, rfl⟩ := answers.resolve?_eq_some_iff.1 hr
    rw [answers.resolve_eq (driver_typeTable hs)]
    exact (source.completes_wrapped o.driver column).depth fits
  · refine TypeSource.size_le_iff ?_ (answers.depth_le_one noOverride noEnum)
    rintro rule rfl
    cases answers with
    | override ho => exact absurd (noOverride.symm.trans ho) nofun

/-- An array of byte strings, which are arrays themselves. -/
def blobsColumn (dims : UInt32) : Column where
  name := "blobs"
  isArray := true
  arrayDims := dims
  type := { name := "bytea" }

/-- Two dimensions on top of one are three. -/
theorem resolve?_depth_blobs :
    Options.ofDocumentsIn .standard .postgresql "public" (.object [("package", .string "db")]) .null =
        .ok (.new .postgresql "db") ∧
      (Options.new .postgresql "db").override? (blobsColumn 2) = none ∧
      ∃ r, (Options.new .postgresql "db").resolve? (.ofCatalog (.new .postgresql "db") {}) (blobsColumn 2) = some r ∧
        r.type.depth.toNat = 3 := by
  have accepted : Options.ofDocumentsIn .standard .postgresql "public" (.object [("package", .string "db")]) .null =
      .ok (.new .postgresql "db") := rfl
  have answers : Answers (.new .postgresql "db") (.ofCatalog (.new .postgresql "db") {}) (blobsColumn 2)
      (.table .bytes) := .table rfl (by decide +kernel)
  have hresolved : (Options.new .postgresql "db").resolve? (.ofCatalog (.new .postgresql "db") {}) (blobsColumn 2) =
      some ⟨(TargetType.builtin "byte").withDepth 3, none⟩ := by decide +kernel
  exact ⟨accepted, rfl, _, hresolved, (resolve?_depth accepted {} rfl answers).1 _ hresolved⟩

/-- All the dimensions that can be declared, on top of one, are one too many for a word. -/
theorem resolve?_overflows :
    Options.ofDocumentsIn .standard .postgresql "public" (.object [("package", .string "db")]) .null =
        .ok (.new .postgresql "db") ∧
      (Options.new .postgresql "db").override? (blobsColumn 4294967295) = none ∧
      Answers (.new .postgresql "db") (.ofCatalog (.new .postgresql "db") {}) (blobsColumn 4294967295)
        (.table .bytes) ∧
      TargetType.bytes.depth.toNat + max 1 (blobsColumn 4294967295).arrayDims.toNat = 4294967296 ∧
      (Options.new .postgresql "db").resolve? (.ofCatalog (.new .postgresql "db") {}) (blobsColumn 4294967295) =
        none :=
  ⟨rfl, rfl, .table rfl (by decide +kernel), by decide, by decide +kernel⟩

end EntityModel
