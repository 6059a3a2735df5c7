import EntityModel.Proofs.TypeSpellings

/-!
# SQLite type names with an argument

The declared type of a column may end with an argument in parentheses. It stays part of the name, so a name with an
argument is never one of those that are recognized as a whole, and belongs to a family by its start or not at all
(`family?_argument`).

Main statement: in any letter case and with any blanks, a name of the character family or of the decimal family has
the type of the family, and keeps it with an argument unless it is one of the three that have to stand alone; these
are unknown with one (`map_argument`).
-/

namespace EntityModel.Sqlite

open Text

/-! ## Starts of names -/

/-- What starts a name with an argument starts the name already, if it does not reach the parenthesis. -/
theorem prefix_argument_iff {start : List Char} (h : '(' ∉ start) (name rest : List Char) :
    start <+: name ++ '(' :: rest ↔ start <+: name := by
  constructor
  · intro hstart
    have hname : name <+: name ++ '(' :: rest := List.prefix_append name ('(' :: rest)
    rcases List.prefix_or_prefix_of_prefix hstart hname with hshort | ⟨more, rfl⟩
    · exact hshort
    · cases more with
      | nil => rw [List.append_nil]
      | cons c more =>
        have hmore : c :: more <+: '(' :: rest := (List.prefix_append_right_inj name).1 hstart
        obtain ⟨rfl, -⟩ := List.cons_prefix_cons.1 hmore
        exact absurd (by simp) h
  · intro hstart
    exact hstart.trans (List.prefix_append name ('(' :: rest))

theorem startsWith_argument {start : String} (h : '(' ∉ start.toList) (name rest : List Char) :
    startsWith start (String.ofList (name ++ '(' :: rest)) = startsWith start (String.ofList name) := by
  unfold startsWith
  rw [Bool.eq_iff_iff, List.isPrefixOf_iff_prefix, List.isPrefixOf_iff_prefix, String.toList_ofList,
    String.toList_ofList, prefix_argument_iff h]

/-! ## Families of names with an argument -/

/-- The family of character types. -/
def characters : Family := .plain (.builtin "string") "NullString"

/-- The family of decimal types. -/
def decimals : Family := .plain (.builtin "float64") "NullFloat64"

/-- The family that a name belongs to by its start. -/
def startFamily? (name : String) : Option Family :=
  if textStarts.any fun start => startsWith start name then some characters
  else if startsWith "decimal" name then some decimals
  else none

theorem noArgument_families : ∀ row ∈ families, ∀ name ∈ row.1, '(' ∉ name.toList := by decide

theorem noArgument_textStarts : ∀ start ∈ textStarts, '(' ∉ start.toList := by decide

/-- With an argument only the start of a name counts. -/
theorem family?_argument (name rest : List Char) :
    family? (String.ofList (name ++ '(' :: rest)) = startFamily? (String.ofList name) := by
  have hwhole (whole : String) (h : '(' ∉ whole.toList) : String.ofList (name ++ '(' :: rest) ≠ whole := by
    rintro rfl
    rw [String.toList_ofList] at h
    exact h (List.mem_append_right name List.mem_cons_self)
  have hrows : (families.find? fun row => String.ofList (name ++ '(' :: rest) ∈ row.1) = none := by
    refine List.find?_eq_none.2 fun row hrow hname => ?_
    have hmem : String.ofList (name ++ '(' :: rest) ∈ row.1 := of_decide_eq_true hname
    exact hwhole _ (noArgument_families row hrow _ hmem) rfl
  have hstarts : (textStarts.any fun start => startsWith start (String.ofList (name ++ '(' :: rest))) =
      textStarts.any fun start => startsWith start (String.ofList name) := by
    rw [Bool.eq_iff_iff, List.any_eq_true, List.any_eq_true]
    refine exists_congr fun start => and_congr_right fun hstart => ?_
    rw [startsWith_argument (noArgument_textStarts start hstart)]
  unfold family? startFamily?
  rw [hrows]
  simp only [hwhole "text" (by decide), hwhole "clob" (by decide), hwhole "numeric" (by decide), hstarts,
    startsWith_argument (by decide : '(' ∉ "decimal".toList), false_or]
  rfl

/-! ## The names of the two families -/

/-- The names of character types. -/
def characterNames : List String :=
  ["character", "varchar", "varying character", "nchar", "native character", "nvarchar", "text", "clob"]

/-- The names of decimal types. -/
def decimalNames : List String := ["decimal", "numeric"]

/-- The names among them that are recognized only when they stand alone. -/
def wholeNames : List String := ["text", "clob", "numeric"]

/-- The family of such a name. -/
def affinity (name : String) : Family := if name ∈ characterNames then characters else decimals

theorem isAscii_of_mem : ∀ name ∈ characterNames ++ decimalNames, IsAscii name.toList := by decide

/-- The names are looked up without their blanks. -/
theorem normalize_of_mem {name : String} (h : name ∈ characterNames ++ decimalNames) :
    normalize name = String.ofList ((name.toList.map Char.toLower).filter fun c => !isBlank c) :=
  congrArg String.ofList (normalizeChars_of_ascii (isAscii_of_mem name h))

theorem family?_of_mem {name : String} (h : name ∈ characterNames ++ decimalNames) :
    family? (normalize name) = some (affinity name) := by
  rw [normalize_of_mem h]
  revert name
  decide

theorem startFamily?_of_mem {name : String} (h : name ∈ characterNames ++ decimalNames) :
    startFamily? (normalize name) = if name ∈ wholeNames then none else some (affinity name) := by
  rw [normalize_of_mem h]
  revert name
  decide

theorem normalize_argument (written argument : String) :
    normalize (written ++ "(" ++ argument ++ ")") =
      String.ofList (normalizeChars written.toList ++ '(' :: normalizeChars (argument.toList ++ [')'])) := by
  have hopen : normalizeChars ['('] = ['('] := by decide
  have htext : (written ++ "(" ++ argument ++ ")").toList =
      written.toList ++ (['('] ++ (argument.toList ++ [')'])) := by simp
  rw [normalize, htext, normalizeChars_append, normalizeChars_append, hopen, List.singleton_append]

/-- **Affinity with an argument.** A name of a character or decimal type stands for the type of its family, and so
does any spelling of it that an argument follows, but for the three names that have to stand alone: these are
unknown with an argument. -/
theorem map_argument {name written : String} (h : name ∈ characterNames ++ decimalNames)
    (spelled : Respelled .sqlite written.toList name.toList) (ascii : IsAscii written.toList) (argument : String)
    (pointers notNull : Bool) :
    map pointers (normalize name) notNull = .resolved ((affinity name).type pointers notNull) ∧
      map pointers (normalize (written ++ "(" ++ argument ++ ")")) notNull =
        if name ∈ wholeNames then .unknown else map pointers (normalize name) notNull := by
  have hbare : map pointers (normalize name) notNull = .resolved ((affinity name).type pointers notNull) := by
    unfold map
    rw [family?_of_mem h]
  have hwritten : String.ofList (normalizeChars written.toList) = normalize name :=
    congrArg String.ofList (normalizeChars_of_respelled spelled ascii (isAscii_of_mem name h))
  refine ⟨hbare, ?_⟩
  rw [hbare, normalize_argument]
  unfold map
  rw [family?_argument, hwritten, startFamily?_of_mem h]
  by_cases hwhole : name ∈ wholeNames
  · rw [if_pos hwhole, if_pos hwhole]
  · rw [if_neg hwhole, if_neg hwhole]

/-- A name of two words in capitals, with blanks in other places and an argument. -/
theorem map_argument_varying :
    "varying character" ∈ characterNames ++ decimalNames ∧
      Respelled .sqlite "VARYINGCHARACTER ".toList "varying character".toList ∧
      IsAscii "VARYINGCHARACTER ".toList ∧
      (map true (normalize "varying character") false =
          .resolved ((affinity "varying character").type true false) ∧
        map true (normalize ("VARYINGCHARACTER " ++ "(" ++ " 255 " ++ ")")) false =
          if "varying character" ∈ wholeNames then .unknown
          else map true (normalize "varying character") false) ∧
      (affinity "varying character").type true false = (TargetType.builtin "string").toPointer := by
  have hmem : "varying character" ∈ characterNames ++ decimalNames := by decide
  have hend : Respelled .sqlite ("VARYINGCHARACTER".toList ++ ' ' :: []) ("VARYINGCHARACTER".toList ++ []) :=
    .blank _ _ rfl (by decide)
  have hmiddle : Respelled .sqlite ("VARYING".toList ++ ' ' :: "CHARACTER".toList)
      ("VARYING".toList ++ "CHARACTER".toList) := .blank _ _ rfl (by decide)
  have hcase : Respelled .sqlite "VARYING CHARACTER".toList "varying character".toList :=
    .letterCase (by decide +kernel)
  have hspelled : Respelled .sqlite "VARYINGCHARACTER ".toList "varying character".toList :=
    .trans (by decide +kernel) hend (.trans (by decide +kernel) hmiddle.symm hcase)
  have hascii : IsAscii "VARYINGCHARACTER ".toList := by decide +kernel
  exact ⟨hmem, hspelled, hascii, map_argument hmem hspelled hascii " 255 " true false, by decide +kernel⟩

/-- A decimal with its digits is unknown under one name of the family, which is a float under that name alone and
under the other name with the same digits. -/
theorem map_argument_numeric :
    "numeric" ∈ characterNames ++ decimalNames ∧ Respelled .sqlite "NUMERIC".toList "numeric".toList ∧
      map false (normalize ("NUMERIC" ++ "(" ++ "10,2" ++ ")")) true = .unknown ∧
      map false (normalize "numeric") true = .resolved (.builtin "float64") ∧
      map false (normalize ("DECIMAL" ++ "(" ++ "10,2" ++ ")")) true = .resolved (.builtin "float64") :=
  ⟨by decide, .letterCase (by decide +kernel), by decide +kernel, by decide +kernel, by decide +kernel⟩

end EntityModel.Sqlite
