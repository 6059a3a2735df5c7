import EntityModel.TargetType.Compact

/-!
# Compact forms are written as they were read

Reading a compact form takes it apart from its start: the brackets, the star, the qualifier, the base name.
Each step only cuts the text (`brackets_append_readBrackets`, `star_append_readStar`), and a named type is
written as the text that its name was read from (`compactName_of_readNamed`): an import path is written in
full, since the package name of the type is the one that the path implies. So a type is written as the text
it was read from, without the blanks around it, and that text reads as the type (`compact_restores_text`).
Only a path that implies no package name, as in `a/.T`, is lost, since nothing is written in front of the
base name of a type without a qualifier.
-/

namespace EntityModel

namespace TargetType

open Text

/-- The brackets of that many array dimensions. -/
def brackets (depth : Nat) : List Char := (List.replicate depth ['[', ']']).flatten

/-- The star of a pointer. -/
def star (pointer : Bool) : List Char := if pointer then ['*'] else []

/-- The compact form of a type without its wrappers. -/
def compactName (t : TargetType) : String :=
  if t.qualifier = "" then t.base else t.compactQualifier ++ "." ++ t.base

theorem length_brackets (depth : Nat) : (brackets depth).length = 2 * depth := by
  simp [brackets, Nat.mul_comm]

theorem wrapper_eq (t : TargetType) :
    t.wrapper = String.ofList (brackets t.depth.toNat ++ star t.pointer) := rfl

theorem compact_eq (t : TargetType) : t.compact = t.wrapper ++ t.compactName := rfl

/-! ## Wrappers -/

theorem brackets_append_readBrackets (cs : List Char) :
    brackets (readBrackets cs).1 ++ (readBrackets cs).2 = cs := by
  fun_induction readBrackets cs with
  | case1 rest depth after h ih =>
    rw [h] at ih
    show '[' :: ']' :: (brackets depth ++ after) = '[' :: ']' :: rest
    rw [ih]
  | case2 cs => rfl

theorem readBrackets_of_ne {cs : List Char} (h : ∀ rest, cs ≠ '[' :: ']' :: rest) :
    readBrackets cs = (0, cs) := by
  fun_cases readBrackets cs with
  | case1 rest => exact absurd rfl (h rest)
  | case2 => rfl

theorem star_append_readStar (cs : List Char) : star (readStar cs).1 ++ (readStar cs).2 = cs := by
  fun_cases readStar cs with
  | case1 rest => rfl
  | case2 cs => rfl

/-! ## Names -/

theorem ofList_ne_empty {cs : List Char} (h : cs ≠ []) : String.ofList cs ≠ "" := by
  intro he
  exact h (by simpa using congrArg String.toList he)

@[simp] theorem base_ofParts (qualifier base : List Char) :
    (ofParts qualifier base).base = String.ofList base := by
  unfold ofParts
  split <;> rfl

/-- A package is never given a local name in front of a base name. -/
theorem localName_ofParts {qualifier base : List Char} {i : Import}
    (h : (ofParts qualifier base).origin = some i) : i.localName = none := by
  unfold ofParts withOrigin at h
  split at h
  · dsimp only at h
    split at h
    · cases h
    · cases h
      rfl
  · cases h

/-- A qualifier without a path is written as it is. -/
theorem compactName_of_bare {t : TargetType} (ho : t.origin = none) (hq : t.qualifier ≠ "") :
    t.compactName = t.qualifier ++ "." ++ t.base := by
  rw [compactName, if_neg hq, compactQualifier, ho]

/-- A qualifier that its path implies is written as the path. -/
theorem compactName_of_path {t : TargetType} {path : String} (ho : t.origin = some ⟨path, none⟩)
    (hs : '/' ∈ path.toList) (hn : PackagePath.name path = t.qualifier) (hq : t.qualifier ≠ "") :
    t.compactName = path ++ "." ++ t.base := by
  rw [compactName, if_neg hq, compactQualifier, ho]
  simp only [hs, hn, and_self, if_true]

theorem compactName_ofParts {qualifier base : List Char} (hq : qualifier ≠ [])
    (named : (ofParts qualifier base).qualifier ≠ "" ∨ (ofParts qualifier base).origin = none) :
    (ofParts qualifier base).compactName = String.ofList (qualifier ++ '.' :: base) := by
  have hjoin : String.ofList qualifier ++ "." ++ String.ofList base =
      String.ofList (qualifier ++ '.' :: base) := by
    simp [String.ext_iff]
  by_cases hs : '/' ∈ qualifier
  · have horigin : (ofParts qualifier base).origin = some ⟨String.ofList qualifier, none⟩ := by
      simp [ofParts, hs, withOrigin, ofList_ne_empty hq]
    have hname : PackagePath.name (String.ofList qualifier) = (ofParts qualifier base).qualifier := by
      simp [ofParts, hs, withOrigin, qualified]
    have hne : (ofParts qualifier base).qualifier ≠ "" := named.resolve_right (by simp [horigin])
    rw [compactName_of_path horigin (by simpa using hs) hname hne, base_ofParts, hjoin]
  · have hparts : ofParts qualifier base = qualified (String.ofList qualifier) (String.ofList base) := by
      simp [ofParts, hs]
    rw [hparts, compactName_of_bare rfl (ofList_ne_empty hq)]
    exact hjoin

/-- A text is read as a name without a package, or cut into a qualifier and a base name. -/
theorem readNamed_cases {cs : List Char} {t : TargetType} (read : readNamed cs = some t) :
    t = builtin (String.ofList cs) ∨
      ∃ qualifier base, cs = qualifier ++ '.' :: base ∧ qualifier ≠ [] ∧ base ≠ [] ∧
        t = ofParts qualifier base := by
  unfold readNamed at read
  split at read
  · cases read
    exact .inl rfl
  · next qualifier name hsplit =>
    dsimp only at read
    split at read
    · cases read
    · next hne =>
      cases read
      -- Behind the dot stand the rest of the head and the brackets that end it.
      have hcs : cs = qualifier ++ '.' :: (name ++ cs.dropWhile (· ≠ '[')) := by
        rw [← List.cons_append, ← List.append_assoc, ← (eq_of_splitAtLast hsplit).1,
          List.takeWhile_append_dropWhile]
      exact .inr ⟨qualifier, _, hcs, fun h => hne (.inl h), fun h => hne (.inr h), rfl⟩

/-- A name is written as the text that it was read from. -/
theorem compactName_of_readNamed {cs : List Char} {t : TargetType} (read : readNamed cs = some t)
    (named : t.qualifier ≠ "" ∨ t.origin = none) : t.compactName = String.ofList cs := by
  rcases readNamed_cases read with rfl | ⟨_, _, rfl, hq, -, rfl⟩
  · rfl
  · exact compactName_ofParts hq named

/-- A qualifier without brackets is cut off at the last dot before the arguments of the name. -/
theorem readNamed_append {qualifier base : List Char} (noBracket : '[' ∉ qualifier)
    (noDot : '.' ∉ base.takeWhile (· ≠ '[')) :
    readNamed (qualifier ++ '.' :: base) =
      if qualifier = [] ∨ base = [] then none else some (ofParts qualifier base) := by
  have hpass : ∀ c ∈ qualifier ++ ['.'], decide (c ≠ '[') = true := by
    intro c hc
    refine decide_eq_true ?_
    rintro rfl
    rcases List.mem_append.1 hc with hc | hc
    · exact noBracket hc
    · simp at hc
  have hcut : qualifier ++ '.' :: base = (qualifier ++ ['.']) ++ base := by simp
  have hhead : (qualifier ++ '.' :: base).takeWhile (· ≠ '[') =
      qualifier ++ '.' :: base.takeWhile (· ≠ '[') := by
    rw [hcut, List.takeWhile_append_of_pos hpass]
    simp
  have htail : (qualifier ++ '.' :: base).dropWhile (· ≠ '[') = base.dropWhile (· ≠ '[') := by
    rw [hcut, List.dropWhile_append_of_pos hpass]
  rw [readNamed, hhead, splitAtLast_append noDot, htail]
  simp only [List.takeWhile_append_dropWhile]

/-- The base name is the end of the text, and something of it. -/
theorem base_of_readNamed {cs : List Char} {t : TargetType} (read : readNamed cs = some t) :
    t.base.toList <:+ cs ∧ (cs ≠ [] → t.base.toList ≠ []) := by
  rcases readNamed_cases read with rfl | ⟨qualifier, base, rfl, -, hbase, rfl⟩
  · simp [builtin]
  · have hend : base <:+ qualifier ++ '.' :: base := ⟨qualifier ++ ['.'], by simp⟩
    simp [hend, hbase]

/-! ## The text of a type -/

/-- The parts that the text of a type is cut into: wrappers and a name, with nothing but blanks beside them. -/
theorem exists_name_of_readCompact {cs : List Char} {t : TargetType} (read : readCompact cs = some t) :
    ∃ (depth : Nat) (pointer : Bool) (name : List Char) (u : TargetType),
      brackets depth ++ (star pointer ++ name) = trim cs ∧ name ≠ [] ∧ readNamed name = some u ∧
        t = { u with pointer }.withDepth (UInt32.ofNat depth) := by
  have hb := brackets_append_readBrackets (trim cs)
  unfold readCompact at read
  generalize readBrackets (trim cs) = first at hb read
  obtain ⟨depth, rest⟩ := first
  have hs := star_append_readStar rest
  dsimp only at hb read
  generalize readStar rest = second at hs read
  obtain ⟨pointer, name⟩ := second
  dsimp only at hs read
  split at read
  · cases read
  · next hname =>
    obtain ⟨u, hu, ht⟩ := Option.map_eq_some_iff.1 read
    exact ⟨depth, pointer, name, u, by rw [hs, hb], hname, hu, ht.symm⟩

/-- A type that is read from a text has a base name. -/
theorem trim_base_ne_nil_of_parse? {s : String} {t : TargetType} (read : parse? s = some t) :
    trim t.base.toList ≠ [] := by
  obtain ⟨depth, pointer, name, u, htext, hname, hu, rfl⟩ := exists_name_of_readCompact read
  obtain ⟨hsuffix, hbase⟩ := base_of_readNamed hu
  -- The last character of the base name is that of the text, which is trimmed.
  obtain ⟨front, c, hlast⟩ := (List.eq_nil_or_concat u.base.toList).resolve_left (hbase hname)
  have hc : c ∈ (trim s.toList).getLast? := by
    obtain ⟨before, hbefore⟩ := hsuffix
    rw [← htext, ← hbefore, hlast]
    simp
  have hblank : isBlank c = false := not_isBlank_getLast?_trim s.toList c hc
  exact trim_ne_nil (c := c) (by simp [withDepth, hlast]) hblank

/-- **A type is written as it was read.** The text is that of the type up to blanks around it, and reads as
the type. The dimensions have to fit into their count. -/
theorem compact_restores_text {s : String} {t : TargetType} (read : parse? s = some t)
    (fits : ∀ depth, brackets depth <+: trim s.toList → depth < UInt32.size)
    (named : t.qualifier ≠ "" ∨ t.origin = none) :
    t.compact = String.ofList (trim s.toList) ∧ parse? t.compact = some t := by
  have hcompact : t.compact = String.ofList (trim s.toList) := by
    obtain ⟨depth, pointer, name, u, htext, -, hu, rfl⟩ := exists_name_of_readCompact read
    have hdepth : (UInt32.ofNat depth).toNat = depth := by
      have h := fits depth (htext ▸ List.prefix_append _ _)
      exact UInt32.toNat_ofNat_of_lt' h
    have hname : u.compactName = String.ofList name := compactName_of_readNamed hu named
    have hwrapper : ({ u with pointer }.withDepth (UInt32.ofNat depth)).wrapper =
        String.ofList (brackets depth ++ star pointer) := by
      rw [wrapper_eq]
      simp [withDepth, hdepth]
    rw [compact_eq, hwrapper, ← htext]
    show _ ++ u.compactName = _
    rw [hname, ← String.ofList_append, List.append_assoc]
  refine ⟨hcompact, ?_⟩
  have htrim : trim (trim s.toList) = trim s.toList := trim_trim s.toList
  rw [hcompact, parse?, String.toList_ofList, readCompact, htrim]
  exact read

/-- A type from a versioned path, with blanks around its text. -/
def nodeText : String := " []*gopkg.in/yaml.v3.Node[time.Time]\t"

/-- The type that this text is read as. -/
def nodeType : TargetType where
  base := "Node[time.Time]"
  qualifier := "yaml"
  origin := some ⟨"gopkg.in/yaml.v3", none⟩
  pointer := true
  array := true
  depth := 1

/-- The blanks are gone, everything else is as it was. -/
theorem compact_restores_text_node :
    parse? nodeText = some nodeType ∧
      nodeType.compact = "[]*gopkg.in/yaml.v3.Node[time.Time]" ∧
      parse? nodeType.compact = some nodeType := by
  have read : parse? nodeText = some nodeType := by decide +kernel
  have fits : ∀ depth, brackets depth <+: trim nodeText.toList → depth < UInt32.size := by
    intro depth h
    have hlength := h.length_le
    rw [length_brackets] at hlength
    have hsize : (trim nodeText.toList).length < UInt32.size := by decide +kernel
    omega
  obtain ⟨hcompact, hread⟩ := compact_restores_text read fits (.inl (by decide))
  exact ⟨read, hcompact.trans (by decide +kernel), hread⟩

end TargetType

end EntityModel
