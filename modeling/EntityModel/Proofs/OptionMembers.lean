import EntityModel.Proofs.Settlement

/-!
# Members of an options document

The options document is read field by field, and the first fault ends the reading. `OptionsDocument.ReadFrom`
says of each option which field it comes from, with no order among them (`ofNode_eq_ok_iff`). A field is found
by its name, so a member that is set in a document given in place changes the option of that name and no other
(`readRun_setPointers`).
-/

namespace EntityModel

open Document

/-! ## What an accepted document says -/

/-- The options that the fields of a document give. -/
structure OptionsDocument.ReadFrom (fields : Fields) (d : OptionsDocument) : Prop where
  package : fields.text "package" = .ok d.package
  out : fields.text "out" = .ok d.out
  defaultSchema : fields.optional "default_schema" Node.text = .ok d.defaultSchema
  clientPackage : fields.text "sql_package" = .ok d.clientPackage
  emitPointers : fields.flag "emit_pointers_for_null_types" = .ok d.emitPointers
  exactTableNames : fields.flag "emit_exact_table_names" = .ok d.exactTableNames
  overrides : fields.list "overrides" OverrideSpec.ofNode = .ok d.overrides
  renames : fields.get "rename" [] Node.texts = .ok d.renames
  uninflected : fields.list "inflection_exclude_table_names" Node.text = .ok d.uninflected
  initialisms : fields.optional "initialisms" (Node.list Node.text) = .ok d.initialisms
  primaryKeys : fields.list "primary_keys_columns" Node.text = .ok d.primaryKeys
  modelImport : fields.text "model_import" = .ok d.modelImport
  defaultValues : fields.list "default_type_values" DefaultValue.ofNode = .ok d.defaultValues

theorem OptionsDocument.ofNode_eq_ok_iff {n : Node} {d : OptionsDocument} :
    ofNode n = .ok d ↔ ∃ fields, n.record fieldNames = .ok fields ∧ ReadFrom fields d := by
  constructor
  · intro h
    obtain ⟨fields, hrecord, h⟩ := bind_eq_ok_iff.1 h
    obtain ⟨_, hpackage, h⟩ := bind_eq_ok_iff.1 h
    obtain ⟨_, hout, h⟩ := bind_eq_ok_iff.1 h
    obtain ⟨_, hschema, h⟩ := bind_eq_ok_iff.1 h
    obtain ⟨_, hclient, h⟩ := bind_eq_ok_iff.1 h
    obtain ⟨_, hpointers, h⟩ := bind_eq_ok_iff.1 h
    obtain ⟨_, hexact, h⟩ := bind_eq_ok_iff.1 h
    obtain ⟨_, hoverrides, h⟩ := bind_eq_ok_iff.1 h
    obtain ⟨_, hrenames, h⟩ := bind_eq_ok_iff.1 h
    obtain ⟨_, huninflected, h⟩ := bind_eq_ok_iff.1 h
    obtain ⟨_, hinitialisms, h⟩ := bind_eq_ok_iff.1 h
    obtain ⟨_, hkeys, h⟩ := bind_eq_ok_iff.1 h
    obtain ⟨_, hmodel, h⟩ := bind_eq_ok_iff.1 h
    obtain ⟨_, hvalues, h⟩ := bind_eq_ok_iff.1 h
    cases h
    exact ⟨fields, hrecord, hpackage, hout, hschema, hclient, hpointers, hexact, hoverrides, hrenames,
      huninflected, hinitialisms, hkeys, hmodel, hvalues⟩
  · rintro ⟨fields, hrecord, h⟩
    cases d
    refine bind_eq_ok_iff.2 ⟨_, hrecord, bind_eq_ok_iff.2 ⟨_, h.package, ?_⟩⟩
    refine bind_eq_ok_iff.2 ⟨_, h.out, bind_eq_ok_iff.2 ⟨_, h.defaultSchema, ?_⟩⟩
    refine bind_eq_ok_iff.2 ⟨_, h.clientPackage, bind_eq_ok_iff.2 ⟨_, h.emitPointers, ?_⟩⟩
    refine bind_eq_ok_iff.2 ⟨_, h.exactTableNames, bind_eq_ok_iff.2 ⟨_, h.overrides, ?_⟩⟩
    refine bind_eq_ok_iff.2 ⟨_, h.renames, bind_eq_ok_iff.2 ⟨_, h.uninflected, ?_⟩⟩
    refine bind_eq_ok_iff.2 ⟨_, h.initialisms, bind_eq_ok_iff.2 ⟨_, h.primaryKeys, ?_⟩⟩
    exact bind_eq_ok_iff.2 ⟨_, h.modelImport, bind_eq_ok_iff.2 ⟨_, h.defaultValues, rfl⟩⟩

theorem mapError_eq_ok_iff {ε ε' α : Type} {f : ε → ε'} {x : Except ε α} {a : α} :
    x.mapError f = .ok a ↔ x = .ok a := by
  cases x <;> simp [Except.mapError]

/-! ## Setting a member -/

/-- A name stands once more only where it is the one that is set and was not there. -/
theorem countP_setMember (name key : String) (value : Json) (members : List (String × Json)) :
    (Node.ofMembers (Json.setMember name value members)).countP (·.1 = key) =
      if key = name then max 1 ((Node.ofMembers members).countP (·.1 = key))
      else (Node.ofMembers members).countP (·.1 = key) := by
  induction members with
  | nil =>
    by_cases h : key = name
    · simp [Json.setMember, Node.ofMembers, h]
    · simp [Json.setMember, Node.ofMembers, h, Ne.symm h]
  | cons m rest ih =>
    obtain ⟨n, v⟩ := m
    by_cases hn : n = name
    · subst hn
      by_cases h : key = n
      · simp [Json.setMember, Node.ofMembers, h]
      · simp [Json.setMember, Node.ofMembers, List.countP_cons, h]
    · simp only [Json.setMember, if_neg hn, Node.ofMembers, List.countP_cons, ih]
      by_cases h : key = name
      · simp [h, hn]
      · simp [h]

theorem lookup_setMember (name key : String) (value : Json) (members : List (String × Json)) :
    (Node.ofMembers (Json.setMember name value members)).lookup key =
      if key = name then some (Node.ofJson value) else (Node.ofMembers members).lookup key := by
  have hfalse : ∀ n : String, key ≠ n → (key == n) = false := fun n h => beq_eq_false_iff_ne.2 h
  induction members with
  | nil =>
    by_cases h : key = name
    · simp [Json.setMember, Node.ofMembers, h]
    · simp [Json.setMember, Node.ofMembers, List.lookup_cons, h, hfalse name h]
  | cons m rest ih =>
    obtain ⟨n, v⟩ := m
    by_cases hn : n = name
    · subst hn
      by_cases h : key = n
      · simp [Json.setMember, Node.ofMembers, h]
      · simp [Json.setMember, Node.ofMembers, List.lookup_cons, h, hfalse n h]
    · simp only [Json.setMember, if_neg hn, Node.ofMembers, List.lookup_cons, ih]
      by_cases h : key = name
      · subst h
        simp [hfalse n (Ne.symm hn)]
      · simp [h]

theorem record_map_eq_ok_iff {names : List String} {entries fields : Fields} :
    (Node.map entries).record names = .ok fields ↔
      fields = entries ∧ ∀ name ∈ names, entries.countP (·.1 = name) ≤ 1 := by
  rw [Node.record]
  cases hfind : names.find? fun name => 1 < entries.countP (·.1 = name) with
  | some name =>
    have htwice := List.find?_some hfind
    rw [decide_eq_true_eq] at htwice
    have hmem := List.mem_of_find?_eq_some hfind
    refine ⟨nofun, fun h => ?_⟩
    exact absurd htwice (Nat.not_lt.2 (h.2 name hmem))
  | none =>
    have honce : ∀ name ∈ names, entries.countP (·.1 = name) ≤ 1 := by
      simpa using List.find?_eq_none.1 hfind
    rw [Except.ok.injEq, eq_comm]
    exact ⟨fun h => ⟨h, honce⟩, fun h => h.1⟩

theorem get_setMember_of_ne {α : Type} {name key : String} (h : key ≠ name) (value : Json)
    (members : List (String × Json)) (default : α) (read : Node → Except Fault α) :
    Fields.get (Node.ofMembers (Json.setMember name value members)) key default read =
      Fields.get (Node.ofMembers members) key default read := by
  unfold Fields.get
  rw [lookup_setMember, if_neg h]

/-- The name of the option that asks for pointers. -/
def pointersMember : String := "emit_pointers_for_null_types"

/-- A document with another answer to whether pointers are asked for. -/
def OptionsDocument.withPointers (d : OptionsDocument) (b : Bool) : OptionsDocument :=
  { d with emitPointers := b }

theorem OptionsDocument.ReadFrom.setPointers {members : List (String × Json)} {d : OptionsDocument}
    (h : ReadFrom (Node.ofMembers members) d) (b : Bool) :
    ReadFrom (Node.ofMembers (Json.setMember pointersMember (.bool b) members)) (d.withPointers b) where
  package := (get_setMember_of_ne (by decide) _ _ _ _).trans h.package
  out := (get_setMember_of_ne (by decide) _ _ _ _).trans h.out
  defaultSchema := (get_setMember_of_ne (by decide) _ _ _ _).trans h.defaultSchema
  clientPackage := (get_setMember_of_ne (by decide) _ _ _ _).trans h.clientPackage
  emitPointers := by
    unfold Fields.flag Fields.get
    rw [lookup_setMember, pointersMember, if_pos rfl]
    rfl
  exactTableNames := (get_setMember_of_ne (by decide) _ _ _ _).trans h.exactTableNames
  overrides := (get_setMember_of_ne (by decide) _ _ _ _).trans h.overrides
  renames := (get_setMember_of_ne (by decide) _ _ _ _).trans h.renames
  uninflected := (get_setMember_of_ne (by decide) _ _ _ _).trans h.uninflected
  initialisms := (get_setMember_of_ne (by decide) _ _ _ _).trans h.initialisms
  primaryKeys := (get_setMember_of_ne (by decide) _ _ _ _).trans h.primaryKeys
  modelImport := (get_setMember_of_ne (by decide) _ _ _ _).trans h.modelImport
  defaultValues := (get_setMember_of_ne (by decide) _ _ _ _).trans h.defaultValues

/-- Setting the member in a document given in place sets the option, and nothing else. -/
theorem readRun_setPointers {members : List (String × Json)} {d : OptionsDocument}
    (h : Options.readRun (.object members) = .ok d) (b : Bool) :
    Options.readRun (.object (Json.setMember pointersMember (.bool b) members)) =
      .ok (d.withPointers b) := by
  obtain ⟨fields, hrecord, hread⟩ := OptionsDocument.ofNode_eq_ok_iff.1 (mapError_eq_ok_iff.1 h)
  obtain ⟨rfl, honce⟩ := record_map_eq_ok_iff.1 hrecord
  refine mapError_eq_ok_iff.2 (OptionsDocument.ofNode_eq_ok_iff.2 ⟨_, ?_, hread.setPointers b⟩)
  refine record_map_eq_ok_iff.2 ⟨rfl, fun name hname => ?_⟩
  rw [countP_setMember]
  have := honce name hname
  split
  · omega
  · exact this

end EntityModel
