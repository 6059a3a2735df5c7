import EntityModel.Proofs.CaseImages
import EntityModel.Proofs.LikeColumns
import Mathlib.Data.List.Infix

/-!
# Spellings of type names

An engine does not tell apart the spellings of a type name that it normalizes alike: letter case never counts,
blanks count only inside a name or, for SQLite, nowhere, and PostgreSQL drops its system schema once. `Respelled`
states these freedoms on the text as it is written, without the functions that normalize it, and
`normalizeChars_of_respelled` that normalizing takes them all away.

Main statement: a column whose type is spelled in another way gets the same answer from the engine's table and the
same rule from any overrides (`answers_of_respelled`).
-/

namespace EntityModel

open Text

/-! ## ASCII text -/

namespace Text

theorem isBlank_toLower {c : Char} (h : c.toNat < 128) : isBlank c.toLower = isBlank c :=
  of_ascii (P := fun c => isBlank c.toLower = isBlank c) (by decide +kernel) h

theorem lower_trim {cs : List Char} (h : IsAscii cs) : lower (trim cs) = trim (cs.map Char.toLower) := by
  have htrim : IsAscii (trim cs) := fun c hc => h c (mem_of_mem_trim hc)
  rw [lower_of_ascii htrim, trim_map fun c hc => isBlank_toLower (h c hc)]

end Text

/-! ## Spellings -/

/-- The schema of PostgreSQL's own types, as it stands in front of their names. -/
def systemPrefix : List Char := "pg_catalog.".toList

/-- Two spellings of one type name for an engine. -/
inductive Respelled (engine : Engine) : List Char → List Char → Prop where
  /-- The letters differ in case only. -/
  | letterCase {a b : List Char} (letters : a.map Char.toLower = b.map Char.toLower) : Respelled engine a b
  /-- There are other blanks around the name. -/
  | ends {before after : List Char} (core : List Char) (notSqlite : engine ≠ .sqlite)
      (blankBefore : ∀ c ∈ before, isBlank c = true) (blankAfter : ∀ c ∈ after, isBlank c = true) :
    Respelled engine (before ++ core ++ after) core
  /-- There is one more blank anywhere. -/
  | blank {c : Char} (before after : List Char) (sqlite : engine = .sqlite) (blank : isBlank c = true) :
    Respelled engine (before ++ c :: after) (before ++ after)
  /-- The system schema stands in front of a name that does not name it already. -/
  | systemSchema {schema name : List Char} (postgresql : engine = .postgresql)
      (isSystem : schema.map Char.toLower = systemPrefix) (noBlank : ∀ c ∈ name.head?, isBlank c = false)
      (unqualified : ¬ systemPrefix <+: name.map Char.toLower) :
    Respelled engine (schema ++ name) name
  | symm {a b : List Char} (h : Respelled engine a b) : Respelled engine b a
  | trans {a b c : List Char} (ascii : IsAscii b) (first : Respelled engine a b) (second : Respelled engine b c) :
    Respelled engine a c

/-! ## What an engine looks up -/

namespace Postgres

/-- A name without the system schema in front of it. -/
def dropSystem (name : List Char) : List Char := (systemPrefix.isPrefixOf? name).getD name

theorem normalizeChars_of_ascii {cs : List Char} (h : IsAscii cs) :
    normalizeChars cs = dropSystem (trim (cs.map Char.toLower)) := by
  unfold normalizeChars
  rw [lower_trim h]
  rfl

theorem dropSystem_append (name : List Char) : dropSystem (systemPrefix ++ name) = name := by
  unfold dropSystem
  rw [List.isPrefixOf?_eq_some_iff_append_eq.2 rfl]
  rfl

theorem dropSystem_of_not_prefix {name : List Char} (h : ¬ systemPrefix <+: name) : dropSystem name = name := by
  unfold dropSystem
  cases hname : systemPrefix.isPrefixOf? name with
  | none => rfl
  | some rest => exact absurd ⟨rest, List.isPrefixOf?_eq_some_iff_append_eq.1 hname⟩ h

theorem normalizeChars_systemSchema {schema name : List Char} (ascii : IsAscii (schema ++ name))
    (isSystem : schema.map Char.toLower = systemPrefix) (noBlank : ∀ c ∈ name.head?, isBlank c = false)
    (unqualified : ¬ systemPrefix <+: name.map Char.toLower) :
    normalizeChars (schema ++ name) = normalizeChars name := by
  have hname : IsAscii name := fun c hc => ascii c (List.mem_append_right schema hc)
  have hsystem : ∀ c ∈ systemPrefix, isBlank c = false := by
    have hall : systemPrefix.all (!isBlank ·) = true := by decide +kernel
    simpa using hall
  have hhead : ∀ c ∈ (name.map Char.toLower).head?, isBlank c = false := by
    cases name with
    | nil => nofun
    | cons d rest =>
      intro c hc
      obtain rfl : d.toLower = c := Option.some.inj hc
      rw [isBlank_toLower (hname d List.mem_cons_self)]
      exact noBlank d rfl
  -- Trimming only shortens the name at its end, so it does not bring the schema to its front.
  have hdrop : ¬ systemPrefix <+: trim (name.map Char.toLower) := by
    intro htrim
    rw [trim, trimStart_eq_self hhead] at htrim
    exact unqualified (htrim.trans (trimEnd_isPrefix _))
  rw [normalizeChars_of_ascii ascii, normalizeChars_of_ascii hname, List.map_append, isSystem,
    trim_append hsystem hhead, dropSystem_append, dropSystem_of_not_prefix hdrop]

end Postgres

theorem MySql.normalizeChars_of_ascii {cs : List Char} (h : IsAscii cs) :
    normalizeChars cs = trim (cs.map Char.toLower) :=
  lower_trim h

namespace Sqlite

theorem normalizeChars_append (a b : List Char) : normalizeChars (a ++ b) = normalizeChars a ++ normalizeChars b := by
  unfold normalizeChars
  rw [List.filter_append, List.flatMap_append]

theorem normalizeChars_of_ascii {cs : List Char} (h : IsAscii cs) :
    normalizeChars cs = (cs.map Char.toLower).filter fun c => !isBlank c := by
  induction cs with
  | nil => rfl
  | cons c cs ih =>
    have hc : c.toNat < 128 := h c List.mem_cons_self
    have hrest : IsAscii cs := fun d hd => h d (List.mem_cons_of_mem c hd)
    have ih := ih hrest
    unfold normalizeChars at ih ⊢
    rw [List.map_cons, List.filter_cons, List.filter_cons, isBlank_toLower hc, ← ih]
    split
    · rw [List.flatMap_cons, lowerChar_of_ascii hc, List.singleton_append]
    · rfl

theorem normalizeChars_blank {c : Char} (before after : List Char) (blank : isBlank c = true) :
    normalizeChars (before ++ c :: after) = normalizeChars (before ++ after) := by
  unfold normalizeChars
  rw [List.filter_append, List.filter_append, List.filter_cons, blank]
  rfl

end Sqlite

namespace Engine

/-- The characters of a name as an engine looks it up. -/
def normalizeChars : Engine → List Char → List Char
  | .postgresql => Postgres.normalizeChars
  | .mysql => MySql.normalizeChars
  | .sqlite => Sqlite.normalizeChars

theorem normalizeTypeName_eq (engine : Engine) (name : String) :
    engine.normalizeTypeName name = String.ofList (engine.normalizeChars name.toList) := by
  cases engine <;> rfl

end Engine

/-- Two spellings of one type name are looked up alike. -/
theorem normalizeChars_of_respelled {engine : Engine} {a b : List Char} (h : Respelled engine a b)
    (ha : IsAscii a) (hb : IsAscii b) : engine.normalizeChars a = engine.normalizeChars b := by
  induction h with
  | @letterCase a b letters =>
    cases engine with
    | postgresql =>
      show Postgres.normalizeChars a = Postgres.normalizeChars b
      rw [Postgres.normalizeChars_of_ascii ha, Postgres.normalizeChars_of_ascii hb, letters]
    | mysql =>
      show MySql.normalizeChars a = MySql.normalizeChars b
      rw [MySql.normalizeChars_of_ascii ha, MySql.normalizeChars_of_ascii hb, letters]
    | sqlite =>
      show Sqlite.normalizeChars a = Sqlite.normalizeChars b
      rw [Sqlite.normalizeChars_of_ascii ha, Sqlite.normalizeChars_of_ascii hb, letters]
  | ends core notSqlite blankBefore blankAfter =>
    -- Two engines trim a name before they look at anything else in it.
    have htrim := trim_append_blanks core blankBefore blankAfter
    cases engine with
    | postgresql =>
      show Postgres.normalizeChars _ = Postgres.normalizeChars core
      unfold Postgres.normalizeChars
      rw [htrim]
    | mysql =>
      show MySql.normalizeChars _ = MySql.normalizeChars core
      unfold MySql.normalizeChars
      rw [htrim]
    | sqlite => exact absurd rfl notSqlite
  | blank before after sqlite blank =>
    subst sqlite
    exact Sqlite.normalizeChars_blank before after blank
  | systemSchema postgresql isSystem noBlank unqualified =>
    subst postgresql
    exact Postgres.normalizeChars_systemSchema ha isSystem noBlank unqualified
  | symm _ ih => exact (ih hb ha).symm
  | trans ascii _ _ ihFirst ihSecond => exact (ihFirst ha ascii).trans (ihSecond ascii hb)

/-! ## Columns -/

theorem alike_of_respelled {engine : Engine} {column : Column} {type : Identifier}
    (h : Respelled engine column.dataType.toList type.qualifiedName.toList) (ha : IsAscii column.dataType.toList)
    (hb : IsAscii type.qualifiedName.toList) : column.Alike engine { column with type } where
  typeName := by
    rw [Engine.normalizeTypeName_eq, Engine.normalizeTypeName_eq, normalizeChars_of_respelled h ha hb]
    rfl
  notNull := rfl
  sign := rfl
  width := rfl
  matchName := rfl
  table := rfl

/-- **Spelling does not count.** Columns that differ only in how an ASCII type name is spelled get the same answer
from the type table of the engine and the same rule from any list of rules. -/
theorem answers_of_respelled (table : TypeTable) (rules : List Override) (defaultSchema : String) {column : Column}
    {type : Identifier} (h : Respelled table.engine column.dataType.toList type.qualifiedName.toList)
    (ha : IsAscii column.dataType.toList) (hb : IsAscii type.qualifiedName.toList) :
    table.lookup column = table.lookup { column with type } ∧
      Override.find? rules table.engine defaultSchema column =
        Override.find? rules table.engine defaultSchema { column with type } :=
  ⟨(alike_of_respelled h ha hb).lookup_eq, (alike_of_respelled h ha hb).find?_eq rules defaultSchema⟩

/-- A column whose type is qualified and in capitals, with a blank at its end. -/
def countColumn : Column where
  name := "count"
  notNull := true
  type := { schema := "PG_Catalog", name := "INT4 " }

/-- The plain name of the type. -/
def countType : Identifier := { name := "int4" }

/-- A rule for the type under its plain name. -/
def countRules : List Override := [⟨.typed "int4" false false, .qualified "app" "Count"⟩]

/-- The table and the rule take the column as they take one with the plain name. -/
theorem answers_of_respelled_count :
    Respelled .postgresql countColumn.dataType.toList countType.qualifiedName.toList ∧
      IsAscii countColumn.dataType.toList ∧ IsAscii countType.qualifiedName.toList ∧
      ((TypeTable.postgres (.of .pgxV5 true)).lookup countColumn =
          (TypeTable.postgres (.of .pgxV5 true)).lookup { countColumn with type := countType } ∧
        Override.find? countRules .postgresql "public" countColumn =
          Override.find? countRules .postgresql "public" { countColumn with type := countType }) ∧
      (TypeTable.postgres (.of .pgxV5 true)).lookup countColumn = .resolved (.builtin "int32") := by
  have hqualified : Respelled .postgresql ("PG_Catalog.".toList ++ "INT4 ".toList) "INT4 ".toList := by
    refine .systemSchema rfl (by decide +kernel) (fun c hc => ?_) (by decide +kernel)
    obtain rfl : 'I' = c := Option.some.inj hc
    decide
  have hend : Respelled .postgresql ([] ++ "INT4".toList ++ [' ']) "INT4".toList :=
    .ends _ nofun nofun (by simp [isBlank, inRanges, blankRanges])
  have hcase : Respelled .postgresql "INT4".toList "int4".toList := .letterCase (by decide +kernel)
  have h : Respelled .postgresql countColumn.dataType.toList countType.qualifiedName.toList :=
    .trans (by decide +kernel) hqualified (.trans (by decide +kernel) hend hcase)
  have ha : IsAscii countColumn.dataType.toList := by decide +kernel
  have hb : IsAscii countType.qualifiedName.toList := by decide +kernel
  exact ⟨h, ha, hb, answers_of_respelled (.postgres (.of .pgxV5 true)) countRules "public" h ha hb, by decide +kernel⟩

end EntityModel
