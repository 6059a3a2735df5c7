import EntityModel.Proofs.OptionMembers
import EntityModel.Proofs.TextDocuments
import EntityModel.Request.Read
import Mathlib.Data.List.Nodup

/-!
# Requests written and read back

A request is written with all of its fields and read field by field. What is written for a part is read as this part
(`ReadsBack`): there is one such law for each kind of value, a list obeys it if its items do, and a record if its fields
do. The options of a request are kept as values, and a value is read back exactly if none of its objects names a member
twice (`readsBack_value_iff`); values that were read are of this kind, since of members given twice only the last is
kept (`Json.distinct_lastMembers`).

Main statement: a request comes back from the value that is written for it, and so does every request that was read
from anything (`Request.round_trip`).
-/

namespace EntityModel

open Document

/-! ## Values with names given once -/

namespace Json

variable {name : String} {value : Json} {members : List (String × Json)}

theorem distinctMembers_iff : DistinctMembers members ↔ ∀ m ∈ members, m.2.Distinct := by
  induction members with
  | nil => simp [DistinctMembers]
  | cons m rest ih => rw [DistinctMembers, ih, List.forall_mem_cons]

theorem distinct_object_iff :
    (object members).Distinct ↔ (members.map Prod.fst).Nodup ∧ ∀ m ∈ members, m.2.Distinct := by
  rw [Distinct, distinctMembers_iff]

theorem mem_setMember {m : String × Json} (h : m ∈ setMember name value members) :
    m = (name, value) ∨ m ∈ members := by
  induction members with
  | nil => exact .inl (List.mem_singleton.1 h)
  | cons first rest ih =>
    rw [setMember] at h
    split at h
    · exact (List.mem_cons.1 h).imp_right (List.mem_cons_of_mem first)
    · obtain rfl | h := List.mem_cons.1 h
      · exact .inr List.mem_cons_self
      · exact (ih h).imp_right (List.mem_cons_of_mem first)

theorem nodup_setMember (h : (members.map Prod.fst).Nodup) :
    ((setMember name value members).map Prod.fst).Nodup := by
  induction members with
  | nil => exact List.nodup_singleton name
  | cons first rest ih =>
    obtain ⟨hfirst, hrest⟩ := List.nodup_cons.1 h
    rw [setMember]
    split
    · next heq => rwa [List.map_cons, ← heq]
    · next hne =>
      refine List.nodup_cons.2 ⟨fun hmem => ?_, ih hrest⟩
      obtain ⟨m, hm, heq⟩ := List.mem_map.1 hmem
      obtain rfl | hm := mem_setMember hm
      · exact hne heq.symm
      · exact hfirst (heq ▸ List.mem_map_of_mem hm)

theorem distinct_setMember (hvalue : value.Distinct) (h : (object members).Distinct) :
    (object (setMember name value members)).Distinct := by
  obtain ⟨hnames, hvalues⟩ := distinct_object_iff.1 h
  refine distinct_object_iff.2 ⟨nodup_setMember hnames, fun m hm => ?_⟩
  obtain rfl | hm := mem_setMember hm
  · exact hvalue
  · exact hvalues m hm

/-- Of members given twice the last is kept, so no name is left twice. -/
theorem distinct_lastMembers (h : ∀ m ∈ members, m.2.Distinct) : (object (lastMembers members)).Distinct := by
  -- By induction on the members, which are set one after the other; what is kept stays distinct.
  suffices hrun : ∀ kept, (object kept).Distinct →
      (object (members.foldl (fun kept m => setMember m.1 m.2 kept) kept)).Distinct from
    hrun [] (distinct_object_iff.2 ⟨List.nodup_nil, List.forall_mem_nil _⟩)
  induction members with
  | nil => exact fun kept hkept => hkept
  | cons m rest ih =>
    obtain ⟨hm, hrest⟩ := List.forall_mem_cons.1 h
    exact fun kept hkept => ih hrest _ (distinct_setMember hm hkept)

end Json

namespace Document.Node

/-- Unquoted text holds no object. -/
theorem distinct_of_plainValue? {s : String} {v : Json} (h : plainValue? s = some v) : v.Distinct := by
  unfold plainValue? at h
  simp only at h
  -- One case for each reading: null, a Boolean, a whole number in or out of range, another number, plain text.
  split at h
  · cases h
    trivial
  split at h
  · cases h
    trivial
  · split at h
    · cases h
      trivial
    split at h
    · cases h
    · cases h
      split
      all_goals trivial
  · cases h
    trivial
  · cases h
    split
    all_goals trivial

mutual

theorem distinct_of_value? : ∀ {n : Node} {v : Json}, value? n = some v → v.Distinct
  | .null, _, h | .bool _, _, h | .int _, _, h | .decimal _, _, h | .string _, _, h => by
    cases h
    trivial
  | .plain _, _, h => distinct_of_plainValue? h
  | .array _, _, h | .sequence _, _, h => by
    obtain ⟨vs, hvs, rfl⟩ := Option.map_eq_some_iff.1 h
    exact distinctItems_of_values? hvs
  | .map _, _, h => by
    obtain ⟨ms, hms, rfl⟩ := Option.map_eq_some_iff.1 h
    exact Json.distinct_lastMembers (distinct_of_entryValues? hms)
  | .unusable, _, h => nomatch h

theorem distinctItems_of_values? : ∀ {ns : List Node} {vs : List Json}, values? ns = some vs → Json.DistinctItems vs
  | [], _, h => by
    cases h
    trivial
  | n :: rest, _, h => by
    obtain ⟨v, vs, hv, hvs, rfl⟩ := values?_cons_eq_some_iff.1 h
    exact ⟨distinct_of_value? hv, distinctItems_of_values? hvs⟩

theorem distinct_of_entryValues? : ∀ {es : List (String × Node)} {ms : List (String × Json)},
    entryValues? es = some ms → ∀ m ∈ ms, m.2.Distinct
  | [], _, h => by
    cases h
    exact List.forall_mem_nil _
  | (_, n) :: rest, _, h => by
    obtain ⟨v, ms, hv, hms, rfl⟩ := entryValues?_cons_eq_some_iff.1 h
    exact List.forall_mem_cons.2 ⟨distinct_of_value? hv, distinct_of_entryValues? hms⟩

end

theorem value?_ofJson_iff {v : Json} : value? (ofJson v) = some v ↔ v.Distinct :=
  ⟨distinct_of_value?, value?_ofJson⟩

end Document.Node

/-! ## Parts -/

section

variable {α β : Type} {read : Node → Except Fault α} {write : α → Json}

/-- What is written for `a` is read as `a`. -/
def ReadsBack (read : Node → Except Fault α) (write : α → Json) (a : α) : Prop := read (Node.ofJson (write a)) = .ok a

theorem readsBack_text (s : String) : ReadsBack Node.text .string s := rfl

theorem readsBack_flag (b : Bool) : ReadsBack Node.flag .bool b := rfl

theorem readsBack_word (n : UInt32) : ReadsBack Node.word (fun n => .int n.toNat) n := by
  have hrange : 0 ≤ (n.toNat : Int) ∧ (n.toNat : Int) < Int.pow 2 32 :=
    ⟨Int.natCast_nonneg _, Int.ofNat_lt.2 n.toNat_lt⟩
  rw [ReadsBack, Node.ofJson, Node.word, Node.word.ofInt, if_pos hrange, Int.toNat_natCast, UInt32.ofNat_toNat]

theorem readsBack_signedWord (n : Int32) : ReadsBack Node.signedWord (fun n => .int n.toInt) n := by
  have hrange : -Int.pow 2 31 ≤ n.toInt ∧ n.toInt < Int.pow 2 31 := ⟨n.le_toInt, n.toInt_lt⟩
  rw [ReadsBack, Node.ofJson, Node.signedWord, Node.signedWord.ofInt, if_pos hrange, Int32.ofInt_toInt]

theorem readsBack_value_iff {v : Json} : ReadsBack Node.value id v ↔ v.Distinct := by
  rw [← Node.value?_ofJson_iff]
  unfold ReadsBack Node.value id
  split
  · next h => simp [h]
  · next h => simp [h]

/-- By induction on the items. -/
theorem ReadsBack.list {as : List α} (each : ∀ a ∈ as, ReadsBack read write a) :
    ReadsBack (Node.list read) (fun as => .array (as.map write)) as := by
  show (Node.ofItems (as.map write)).mapM read = .ok as
  rw [mapM_eq_ok_iff]
  induction as with
  | nil => exact .nil
  | cons a rest ih =>
    obtain ⟨ha, hrest⟩ := List.forall_mem_cons.1 each
    exact .cons ha (ih hrest)

/-! ## Records -/

variable {names : List String} {members : List (String × Json)} {name : String}

/-- A record that is written with all of its fields has its members as fields. -/
theorem bind_record {rest : Fields → Except Fault α} {result : Except Fault α} (all : members.map Prod.fst = names)
    (distinct : names.Nodup) (h : rest (Node.ofMembers members) = result) :
    ((Node.ofJson (.object members)).record names >>= rest) = result := by
  have hrecord : (Node.map (Node.ofMembers members)).record names = .ok (Node.ofMembers members) := by
    refine record_map_eq_ok_iff.2 ⟨rfl, fun name _ => ?_⟩
    have hcount : (Node.ofMembers members).countP (·.1 = name) = names.count name := by
      rw [← all, ← Node.map_fst_ofMembers, List.count, List.countP_map]
      rfl
    rw [hcount]
    exact List.nodup_iff_count_le_one.1 distinct name
  rw [Node.ofJson, hrecord]
  exact h

theorem lookup_ofMembers (name : String) (members : List (String × Json)) :
    (Node.ofMembers members).lookup name = (members.lookup name).map Node.ofJson := by
  induction members with
  | nil => rfl
  | cons m rest ih =>
    rw [Node.ofMembers, List.lookup_cons, List.lookup_cons, ih]
    cases name == m.1 <;> rfl

/-- A field that is written is read as what was written, so its default does not matter. -/
theorem get_ofMembers {a default : α} (back : ReadsBack read write a) (stands : members.lookup name = some (write a)) :
    Fields.get (Node.ofMembers members) name default read = .ok a := by
  rw [Fields.get, lookup_ofMembers, stands]
  exact back

theorem bind_get {a default : α} {rest : α → Except Fault β} {result : Except Fault β} (back : ReadsBack read write a)
    (stands : members.lookup name = some (write a)) (h : rest a = result) :
    (Fields.get (Node.ofMembers members) name default read >>= rest) = result := by
  rw [get_ofMembers back stands]
  exact h

end

/-! ## Catalogs -/

theorem Identifier.readsBack (i : Identifier) : ReadsBack ofNode toJson i := by
  refine bind_record rfl (by decide) ?_
  refine bind_get (readsBack_text i.catalog) rfl ?_
  refine bind_get (readsBack_text i.schema) rfl ?_
  exact bind_get (readsBack_text i.name) rfl rfl

/-- A table is written as null where there is none. -/
theorem Identifier.readsBack_optional (table : Option Identifier) :
    ReadsBack (Node.optional ofNode) (fun table => table.elim .null toJson) table := by
  cases table with
  | none => rfl
  | some table =>
    show some <$> ofNode (Node.ofJson table.toJson) = .ok (some table)
    rw [table.readsBack]
    rfl

theorem Column.member?_table (c : Column) :
    c.toJson.member? "table" = some (c.table.elim .null Identifier.toJson) := by
  rw [toJson]
  cases c.table with
  | none => rfl
  | some table => rfl

theorem Column.readsBack (c : Column) : ReadsBack ofNode toJson c := by
  refine bind_record rfl (by decide) ?_
  refine bind_get (readsBack_text c.name) rfl ?_
  refine bind_get (readsBack_text c.unaliasedName) rfl ?_
  refine bind_get (readsBack_flag c.notNull) rfl ?_
  refine bind_get (readsBack_flag c.isArray) rfl ?_
  refine bind_get (readsBack_word c.arrayDims) rfl ?_
  refine bind_get (readsBack_flag c.unsigned) rfl ?_
  refine bind_get (readsBack_flag c.isSlice) rfl ?_
  refine bind_get (readsBack_signedWord c.length) rfl ?_
  refine bind_get (readsBack_text c.comment) rfl ?_
  refine bind_get (Identifier.readsBack_optional c.table) c.member?_table ?_
  exact bind_get c.type.readsBack rfl rfl

theorem Table.readsBack (t : Table) : ReadsBack ofNode toJson t := by
  refine bind_record rfl (by decide) ?_
  refine bind_get t.rel.readsBack rfl ?_
  refine bind_get (.list fun c _ => c.readsBack) rfl ?_
  exact bind_get (readsBack_text t.comment) rfl rfl

theorem EnumType.readsBack (e : EnumType) : ReadsBack ofNode toJson e := by
  refine bind_record rfl (by decide) ?_
  refine bind_get (readsBack_text e.name) rfl ?_
  refine bind_get (.list fun s _ => readsBack_text s) rfl ?_
  exact bind_get (readsBack_text e.comment) rfl rfl

theorem CompositeType.readsBack (c : CompositeType) : ReadsBack ofNode toJson c := by
  refine bind_record rfl (by decide) ?_
  refine bind_get (readsBack_text c.name) rfl ?_
  exact bind_get (readsBack_text c.comment) rfl rfl

theorem Schema.readsBack (s : Schema) : ReadsBack ofNode toJson s := by
  refine bind_record rfl (by decide) ?_
  refine bind_get (readsBack_text s.name) rfl ?_
  refine bind_get (readsBack_text s.comment) rfl ?_
  refine bind_get (.list fun t _ => t.readsBack) rfl ?_
  refine bind_get (.list fun e _ => e.readsBack) rfl ?_
  exact bind_get (.list fun c _ => c.readsBack) rfl rfl

theorem Catalog.readsBack (c : Catalog) : ReadsBack ofNode toJson c := by
  refine bind_record rfl (by decide) ?_
  refine bind_get (readsBack_text c.name) rfl ?_
  refine bind_get (readsBack_text c.comment) rfl ?_
  refine bind_get (readsBack_text c.defaultSchema) rfl ?_
  exact bind_get (.list fun s _ => s.readsBack) rfl rfl

/-! ## Requests -/

namespace Request

theorem readsBack_engineName (name : String) :
    ReadsBack engineNameOfNode (fun name => .object [("engine", .string name)]) name := by
  refine bind_record rfl (by decide) ?_
  exact get_ofMembers (readsBack_text name) rfl

theorem readsBack {r : Request} (options : r.options.Distinct) (globalOptions : r.globalOptions.Distinct) :
    ReadsBack ofNode toJson r := by
  refine bind_record rfl (by decide) ?_
  refine bind_get (readsBack_engineName r.engineName) rfl ?_
  refine bind_get r.catalog.readsBack rfl ?_
  refine bind_get (readsBack_value_iff.2 options) rfl ?_
  exact bind_get (readsBack_value_iff.2 globalOptions) rfl rfl

/-- A value that is read is one whose objects name each member once. -/
theorem distinct_of_value {fields : Fields} {name : String} {v : Json} (h : fields.value name = .ok v) :
    v.Distinct := by
  unfold Fields.value Fields.get at h
  split at h
  · unfold Node.value at h
    split at h
    · next hv =>
      cases h
      exact Node.distinct_of_value? hv
    · cases h
  · cases h
    trivial

theorem distinct_of_ofNode {n : Node} {r : Request} (h : ofNode n = .ok r) :
    r.options.Distinct ∧ r.globalOptions.Distinct := by
  obtain ⟨fields, -, h⟩ := bind_eq_ok_iff.1 h
  obtain ⟨_, -, h⟩ := bind_eq_ok_iff.1 h
  obtain ⟨_, -, h⟩ := bind_eq_ok_iff.1 h
  obtain ⟨_, hoptions, h⟩ := bind_eq_ok_iff.1 h
  obtain ⟨_, hglobal, h⟩ := bind_eq_ok_iff.1 h
  cases h
  exact ⟨distinct_of_value hoptions, distinct_of_value hglobal⟩

theorem ofJson_toJson_iff {r : Request} :
    ofJson r.toJson = .ok r ↔ r.options.Distinct ∧ r.globalOptions.Distinct :=
  ⟨fun h => distinct_of_ofNode (mapError_eq_ok_iff.1 h), fun h => mapError_eq_ok_iff.2 (readsBack h.1 h.2)⟩

theorem exists_ofNode_of_ofText {lib : Libraries} {format : Format} {text : String} {r : Request}
    (h : ofText lib format text = .ok r) : ∃ n, ofNode n = .ok r := by
  unfold ofText at h
  split at h
  · next n _ => exact ⟨n, mapError_eq_ok_iff.1 h⟩
  · cases h

/-- **Requests written and read back.** A request comes back from the value that is written for it exactly if no object
in its options names a member twice, as no object of a value that was read does. So a request that was read, from a
value or from text of either format, comes back from what is written for it with all of its fields. -/
theorem round_trip :
    (∀ r : Request, ofJson r.toJson = .ok r ↔ r.options.Distinct ∧ r.globalOptions.Distinct) ∧
    (∀ (v : Json) (r : Request), ofJson v = .ok r → ofJson r.toJson = .ok r) ∧
    ∀ (lib : Libraries) (format : Format) (text : String) (r : Request),
      ofText lib format text = .ok r → ofJson r.toJson = .ok r := by
  have hnode {n : Node} {r : Request} (h : ofNode n = .ok r) : ofJson r.toJson = .ok r :=
    ofJson_toJson_iff.2 (distinct_of_ofNode h)
  refine ⟨fun r => ofJson_toJson_iff, fun v r h => hnode (mapError_eq_ok_iff.1 h), fun lib format text r h => ?_⟩
  obtain ⟨n, hn⟩ := exists_ofNode_of_ofText h
  exact hnode hn

/-- A request with the largest and the least numbers, a column that names its table and one that does not. -/
def ledgerRequest : Request :=
  { engineName := "mysql"
    catalog :=
      { schemas := [{
          name := "shop"
          tables := [{
            rel := { name := "ledger" }
            columns := [
              { name := "amounts", isArray := true, arrayDims := 4294967295, length := -2147483648,
                table := some { schema := "shop", name := "ledger" }, type := { name := "bigint" } },
              { name := "note", length := 2147483647 }] }]
          enums := [{ name := "kind", vals := ["debit", "credit"] }] }] }
    options := .object [("package", .string "db"), ("rename", .object [("id", .null)])] }

/-- The same request without the fields that have their default. The first column has a field that is none, and the
second is the list of its fields. -/
def sparseLedger : Json :=
  .object [
    ("settings", .object [("engine", .string "mysql")]),
    ("catalog", .object [("schemas", .array [.object [
      ("name", .string "shop"),
      ("tables", .array [.object [
        ("rel", .object [("name", .string "ledger")]),
        ("columns", .array [
          .object [
            ("type", .object [("name", .string "bigint")]), ("name", .string "amounts"), ("is_array", .bool true),
            ("array_dims", .int 4294967295), ("length", .int (-2147483648)), ("collation", .null),
            ("table", .object [("schema", .string "shop"), ("name", .string "ledger")])],
          .array [.string "note", .string "", .bool false, .bool false, .int 0, .bool false, .bool false,
            .int 2147483647]])]]),
      ("enums", .array [.object [
        ("name", .string "kind"), ("vals", .array [.string "debit", .string "credit"])]])]])]),
    ("plugin_options", .object [
      ("package", .string "db"), ("rename", .object [("id", .null)])])]

/-- The tree of an object whose one member is an object that names a member twice. -/
def isDoubled : Node → Bool
  | .map [("global_options", .map [("a", .int 0), ("a", .array [])])] => true
  | _ => false

theorem eq_of_isDoubled {n : Node} (h : isDoubled n = true) :
    n = .map [("global_options", .map [("a", .int 0), ("a", .array [])])] := by
  unfold isDoubled at h
  split at h
  · rfl
  · cases h

/-- In a text, a member of the options may be given twice. -/
theorem round_trip_ledger :
    (ledgerRequest.options.Distinct ∧ ledgerRequest.globalOptions.Distinct) ∧
      ofJson ledgerRequest.toJson = .ok ledgerRequest ∧ ofJson sparseLedger = .ok ledgerRequest ∧
      ofText .standard .json "\x7b\"global_options\": \x7b\"a\": 0, \"a\": []\x7d\x7d" =
        .ok { globalOptions := .object [("a", .array [])] } ∧
      ofJson (toJson { globalOptions := .object [("a", .array [])] }) =
        .ok { globalOptions := .object [("a", .array [])] } := by
  have hread : ofJson sparseLedger = .ok ledgerRequest := rfl
  have htree : JsonText.read? "\x7b\"global_options\": \x7b\"a\": 0, \"a\": []\x7d\x7d" =
      some (.map [("global_options", .map [("a", .int 0), ("a", .array [])])]) := by
    have hdoubled : (JsonText.read? "\x7b\"global_options\": \x7b\"a\": 0, \"a\": []\x7d\x7d").map isDoubled =
        some true := by
      decide +kernel
    obtain ⟨n, hread, hn⟩ := Option.map_eq_some_iff.1 hdoubled
    rw [hread, eq_of_isDoubled hn]
  have htext : ofText .standard .json "\x7b\"global_options\": \x7b\"a\": 0, \"a\": []\x7d\x7d" =
      .ok { globalOptions := .object [("a", .array [])] } := by
    rw [ofText, Format.read?, htree]
    rfl
  have hback : ofJson ledgerRequest.toJson = .ok ledgerRequest := round_trip.2.1 _ _ hread
  exact ⟨(round_trip.1 ledgerRequest).1 hback, hback, hread, htext, round_trip.2.2 _ _ _ _ htext⟩

end Request

end EntityModel
