import EntityModel.Proofs.Overflow

/-!
# Which columns have array types

Native arrays and slice parameters are listed columns, and a type is an array if it says so and has a
dimension. A listed column adds a dimension to the type of its source, unless it is a native array with an
override: the type of an override is not wrapped for it, so it has to be an array itself. Where the
dimensions overflow there is no type at all.

Main statement: under accepted options and for each source this is when a listed column has an array type
(`resolve?_isArray_iff`).
-/

namespace EntityModel

variable {lib : Libraries}

/-- An array type, of one dimension at least. -/
structure TargetType.IsArray (t : TargetType) : Prop where
  array : t.array = true
  depth : t.depth ≠ 0

/-- A type with more dimensions is an array, and one without more is what it was before. -/
theorem Completes.isArray_iff {driver : Driver} {found result : TargetType} {extra : Nat}
    (h : Completes driver found extra result) (fits : found.depth.toNat + extra < UInt32.size) :
    result.IsArray ↔ 0 < extra ∨ found.IsArray := by
  have hdepth := h.depth fits
  have harray := h.array fits
  have hzero (t : TargetType) : t.depth = 0 ↔ t.depth.toNat = 0 := by
    rw [← UInt32.toNat_inj]
    rfl
  constructor
  · intro hresult
    rcases Nat.eq_zero_or_pos extra with rfl | hpos
    · refine .inr ⟨by simpa [hresult.array] using harray, fun h0 => hresult.depth ?_⟩
      rw [hzero] at h0 ⊢
      omega
    · exact .inl hpos
  · rintro (hpos | hfound)
    · refine ⟨by simp [harray, hpos], fun h0 => ?_⟩
      rw [hzero] at h0
      omega
    · refine ⟨by simp [harray, hfound.array], fun h0 => hfound.depth ?_⟩
      rw [hzero] at h0 ⊢
      omega

namespace TypeSource

/-- Only a native array with an override adds no dimension. -/
theorem extraDepth_eq_zero_iff {column : Column} (listed : column.isArray = true ∨ column.isSlice = true)
    (source : TypeSource) :
    source.extraDepth column = 0 ↔ (∃ rule, source = .override rule) ∧ column.isArray = true := by
  have helement : (if column.isArray then max 1 column.arrayDims.toNat
      else if column.isSlice then 1 else 0) ≠ 0 := by
    by_cases ha : column.isArray = true
    · rw [if_pos ha]
      omega
    · rw [if_neg ha, if_pos (listed.resolve_left ha)]
      exact Nat.one_ne_zero
  cases source with
  | override rule =>
    rw [extraDepth]
    by_cases ha : column.isArray = true
    · simp [ha]
    · simp [ha, listed.resolve_left ha]
  | table type => exact iff_of_false helement (by rintro ⟨⟨_, h⟩, -⟩; cases h)
  | custom entry => exact iff_of_false helement (by rintro ⟨⟨_, h⟩, -⟩; cases h)
  | placeholder gap => exact iff_of_false helement (by rintro ⟨⟨_, h⟩, -⟩; cases h)

end TypeSource

/-- **Listed columns have array types**, unless the source is an override without an array type and the
column is a native array. There is no type exactly if the dimensions overflow. -/
theorem resolve?_isArray_iff {engine : Engine} {fallbackSchema : String} {run project : Json}
    {o : Options} (accepted : Options.ofDocumentsIn lib engine fallbackSchema run project = .ok o)
    (c : Catalog) {column : Column} (listed : column.isArray = true ∨ column.isSlice = true)
    {source : TypeSource} (answers : Answers o (.ofCatalog o c) column source) :
    (o.resolve? (.ofCatalog o c) column = none ↔
        UInt32.size ≤ source.type.depth.toNat + source.extraDepth column) ∧
      ∀ r, o.resolve? (.ofCatalog o c) column = some r →
        (r.type.IsArray ↔
          ∀ rule, source = .override rule → column.isArray = true → rule.type.IsArray) := by
  obtain ⟨d, g, -, -, hs, -⟩ := Options.ofDocumentsIn_eq_ok_iff.1 accepted
  refine ⟨answers.resolve?_eq_none_iff, fun r hr => ?_⟩
  obtain ⟨fits, rfl⟩ := answers.resolve?_eq_some_iff.1 hr
  rw [answers.resolve_eq (driver_typeTable hs)]
  refine ((source.completes_wrapped o.driver column).isArray_iff fits).trans ?_
  rw [Nat.pos_iff_ne_zero, ne_eq, source.extraDepth_eq_zero_iff listed]
  constructor
  · rintro (hextra | hfound)
    · exact fun rule hrule ha => absurd ⟨⟨rule, hrule⟩, ha⟩ hextra
    · rintro rule rfl -
      exact hfound
  · intro h
    by_cases hextra : (∃ rule, source = .override rule) ∧ column.isArray = true
    · obtain ⟨⟨rule, rfl⟩, ha⟩ := hextra
      exact .inr (h rule rfl ha)
    · exact .inl hextra

/-- A run with a type for the tags of posts. -/
def postsRun : Json :=
  .object [("package", .string "db"),
    ("overrides", .array [.object [("column", .string "posts.tags"),
      ("go_type", .string "example.com/tags.Tag")]])]

/-- The type of the tags. -/
def tagRule : Override where
  selector := .named ⟨none, ⟨"public"⟩, ⟨"posts"⟩⟩ ⟨"tags"⟩
  type := (TargetType.qualified "tags" "Tag").withOrigin ⟨"example.com/tags", none⟩

/-- What this run settles to. -/
def postsOptions : Options := { Options.new .postgresql "db" with overrides := [tagRule] }

/-- The tags of posts, given as a native array or as a slice parameter. -/
def postTags (isArray isSlice : Bool) : Column where
  name := "tags"
  isArray
  isSlice
  arrayDims := if isArray then 1 else 0
  table := some { name := "posts" }
  type := { name := "text" }

/-- As a slice parameter the tags have an array type. -/
theorem resolve?_isArray_iff_tags :
    Options.ofDocumentsIn .standard .postgresql "public" postsRun .null = .ok postsOptions ∧
      Answers postsOptions (.ofCatalog postsOptions {}) (postTags false true) (.override tagRule) ∧
      ∃ r, postsOptions.resolve? (.ofCatalog postsOptions {}) (postTags false true) = some r ∧
        r.type.IsArray := by
  have accepted : Options.ofDocumentsIn .standard .postgresql "public" postsRun .null = .ok postsOptions := by
    decide +kernel
  have answers : Answers postsOptions (.ofCatalog postsOptions {}) (postTags false true)
      (.override tagRule) := .override (by decide +kernel)
  have hresolved : postsOptions.resolve? (.ofCatalog postsOptions {}) (postTags false true) =
      some ⟨tagRule.type.slice, none⟩ := by decide +kernel
  refine ⟨accepted, answers, _, hresolved, ((resolve?_isArray_iff accepted {} (.inr rfl) answers).2 _ hresolved).2 ?_⟩
  rintro rule - ha
  cases ha

/-- As a native array they have the type of a single tag. -/
theorem resolve?_override_not_isArray :
    Options.ofDocumentsIn .standard .postgresql "public" postsRun .null = .ok postsOptions ∧
      (postTags true false).isArray = true ∧
      postsOptions.resolve? (.ofCatalog postsOptions {}) (postTags true false) = some ⟨tagRule.type, none⟩ ∧
      ¬ tagRule.type.IsArray :=
  ⟨by decide +kernel, rfl, by decide +kernel, fun h => h.depth rfl⟩

end EntityModel
