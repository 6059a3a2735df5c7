import EntityModel.CustomType
import EntityModel.Proofs.CompactForm
import EntityModel.Proofs.PathNames

/-!
# The package of generated types

A generated type is read from the text of the option for its package, a dot and its name, as if all of this were
the compact form of a type. Up to the dot the reader takes from that text what it would take without the name
(`Front`), so the text can hold more than a package: a wrapper in front of it, a bracket that draws the dot into
type arguments, or a path that implies no package name. A text that is no type at all is taken as the package as
it stands.

Main statement: a generated type has its name, a package and no wrapper exactly if its package was taken as it
stands, or none of these things stands in the text (`modelType_isPlain_iff`).
-/

namespace EntityModel

open Text

/-! ## Names of generated types -/

/-- A name of letters and digits, behind at most one underscore. -/
def IsWord (name : String) : Prop :=
  name ≠ "" ∧ ∃ word : List Char, (name.toList = word ∨ name.toList = '_' :: word) ∧
    ∀ c ∈ word, isAlphanumeric c = true

/-- A base name that the compact form cannot take apart or trim. -/
structure IsClosed (name : List Char) : Prop where
  ne_nil : name ≠ []
  noDot : '.' ∉ name
  noBracket : '[' ∉ name
  noBlank : ∀ c ∈ name, isBlank c = false

theorem inRanges_eq_false_of_disjoint {ranges others : List (Nat × Nat)}
    (disjoint : ∀ r ∈ ranges, ∀ s ∈ others, r.2 < s.1 ∨ s.2 < r.1) {c : Char}
    (h : inRanges ranges c = true) : inRanges others c = false := by
  by_contra hc
  rw [Bool.not_eq_false, inRanges_iff] at hc
  obtain ⟨r, hr, hrc⟩ := inRanges_iff.1 h
  obtain ⟨s, hs, hsc⟩ := hc
  have hapart : r.2 < s.1 ∨ s.2 < r.1 := disjoint r hr s hs
  omega

theorem isAlphanumeric_eq_false_of_isBlank {c : Char} (h : isBlank c = true) : isAlphanumeric c = false :=
  inRanges_eq_false_of_disjoint (by decide +kernel) h

theorem IsWord.isClosed {name : String} (h : IsWord name) : IsClosed name.toList := by
  obtain ⟨hne, word, hword, halnum⟩ := h
  have hchar : ∀ c ∈ name.toList, c = '_' ∨ isAlphanumeric c = true := by
    intro c hc
    rcases hword with hword | hword
    · exact .inr (halnum c (hword ▸ hc))
    · rw [hword] at hc
      exact (List.mem_cons.1 hc).imp_right (halnum c)
  refine ⟨?_, fun hc => ?_, fun hc => ?_, fun c hc => ?_⟩
  · simpa using hne
  · exact absurd (hchar '.' hc) (by decide +kernel)
  · exact absurd (hchar '[' hc) (by decide +kernel)
  · by_contra hblank
    rw [Bool.not_eq_false] at hblank
    rcases hchar c hc with rfl | halnum
    · exact absurd hblank (by decide)
    · rw [isAlphanumeric_eq_false_of_isBlank hblank] at halnum
      cases halnum

/-! ## The text in front of a name -/

/-- What a text says in front of a dot and a name: the brackets of array dimensions, the star of a pointer, and a
package. -/
structure Front where
  depth : Nat
  pointer : Bool
  package : List Char

namespace Front

/-- The parts of a text in front of a name. -/
def ofText (text : List Char) : Front :=
  let (depth, rest) := TargetType.readBrackets (trimStart text)
  let (pointer, package) := TargetType.readStar rest
  ⟨depth, pointer, package⟩

/-- There is no type in the text with a name behind it: the only dot that counts has nothing in front of it. -/
def IsNothing (front : Front) : Prop :=
  front.package = [] ∨
    ∃ word arguments, front.package = '.' :: (word ++ '[' :: arguments) ∧ '.' ∉ word ∧ '[' ∉ word

/-- The text is a package, by its name or by a path that implies one. The count of dimensions is a 32-bit word,
so as many dimensions as there are words are none. -/
structure IsPackage (front : Front) : Prop where
  depth : front.depth % UInt32.size = 0
  pointer : front.pointer = false
  noBracket : '[' ∉ front.package
  named : '/' ∈ front.package → ¬ PackagePath.Nameless front.package

end Front

namespace TargetType

/-- A type of a package, under that base name and without wrappers. -/
structure IsPlain (t : TargetType) (name : String) : Prop where
  base : t.base = name
  qualifier : t.qualifier ≠ ""
  pointer : t.pointer = false
  array : t.array = false

/-! ## Reading a text up to a dot -/

theorem trim_front {name : List Char} (closed : IsClosed name) (text : List Char) :
    trim (text ++ '.' :: name) = trimStart text ++ '.' :: name := by
  have hstart : trimStart (text ++ '.' :: name) = trimStart text ++ '.' :: name := by
    unfold trimStart
    rw [List.dropWhile_append]
    split
    · next h =>
      rw [List.isEmpty_iff.1 h]
      rfl
    · rfl
  have hend : trimEnd (trimStart text ++ '.' :: name) = trimStart text ++ '.' :: name := by
    refine trimEnd_eq_self fun c hc => ?_
    rw [List.append_cons, List.getLast?_append_of_ne_nil _ closed.ne_nil] at hc
    exact closed.noBlank c (List.mem_of_getLast? hc)
  rw [trim, hstart, hend]

theorem readBrackets_append_dot (text name : List Char) :
    readBrackets (text ++ '.' :: name) =
      ((readBrackets text).1, (readBrackets text).2 ++ '.' :: name) := by
  fun_induction readBrackets text with
  | case1 rest depth after h ih =>
    rw [h] at ih
    show readBrackets ('[' :: ']' :: (rest ++ '.' :: name)) = _
    rw [readBrackets, ih]
  | case2 text noBrackets =>
    -- The dot is no bracket, so it does not make a pair with what stands in front of it.
    have hstart : ∀ rest, text ++ '.' :: name ≠ '[' :: ']' :: rest := by
      intro rest h
      match text with
      | [] => simp at h
      | [c] => simp at h
      | c :: d :: text =>
        simp only [List.cons_append, List.cons.injEq] at h
        exact noBrackets text (by rw [h.1, h.2.1])
    exact readBrackets_of_ne hstart

theorem readStar_append_dot (text name : List Char) :
    readStar (text ++ '.' :: name) = ((readStar text).1, (readStar text).2 ++ '.' :: name) := by
  fun_cases readStar text with
  | case1 rest => rfl
  | case2 text noStar =>
    cases text with
    | nil => rfl
    | cons c text =>
      have hc : c ≠ '*' := fun h => noStar text (by rw [h])
      rw [List.cons_append, readStar]
      simpa using hc

/-- The name is read with the package in front of it, and wrapped as the text says. -/
theorem parse?_front {name : String} (closed : IsClosed name.toList) (text : String) :
    parse? (text ++ "." ++ name) =
      (readNamed ((Front.ofText text.toList).package ++ '.' :: name.toList)).map fun t =>
        { t with pointer := (Front.ofText text.toList).pointer }.withDepth
          (UInt32.ofNat (Front.ofText text.toList).depth) := by
  have hchars : (text ++ "." ++ name).toList = text.toList ++ '.' :: name.toList := by simp
  unfold parse? readCompact
  rw [hchars, trim_front closed, readBrackets_append_dot]
  simp only [readStar_append_dot]
  rw [if_neg (by simp)]
  rfl

/-! ## Reading the package and the name -/

/-- The package is given by its name, or by a path that has to imply one. -/
theorem qualifier_ofParts_eq_empty_iff {qualifier : List Char} (given : qualifier ≠ []) (base : List Char) :
    (ofParts qualifier base).qualifier = "" ↔ '/' ∈ qualifier ∧ PackagePath.Nameless qualifier := by
  unfold ofParts
  by_cases h : '/' ∈ qualifier
  · rw [if_pos h]
    show PackagePath.name (String.ofList qualifier) = "" ↔ _
    rw [PackagePath.name_eq_empty_iff, String.toList_ofList, and_iff_right h]
  · rw [if_neg h]
    show String.ofList qualifier = "" ↔ _
    simp [given, h]

/-- The first bracket is found behind text that has none. -/
theorem cut_bracket {front : List Char} (noBracket : '[' ∉ front) (arguments : List Char) :
    (front ++ '[' :: arguments).takeWhile (· ≠ '[') = front ∧
      (front ++ '[' :: arguments).dropWhile (· ≠ '[') = '[' :: arguments := by
  have hpass : ∀ c ∈ front, decide (c ≠ '[') = true :=
    fun c hc => decide_eq_true fun h => noBracket (h ▸ hc)
  rw [List.takeWhile_append_of_pos hpass, List.dropWhile_append_of_pos hpass]
  simp

/-- A name in front of a bracket is cut at its last dot, and the bracket stays with the base name. -/
theorem readNamed_bracket {front : List Char} (noBracket : '[' ∉ front) (arguments : List Char) :
    (readNamed (front ++ '[' :: arguments) = none ↔ ∃ word, front = '.' :: word ∧ '.' ∉ word) ∧
      ∀ t, readNamed (front ++ '[' :: arguments) = some t → '[' ∈ t.base.toList := by
  obtain ⟨hhead, htail⟩ := cut_bracket noBracket arguments
  unfold readNamed
  rw [hhead, htail]
  cases hsplit : splitAtLast '.' front with
  | none =>
    have noDot : '.' ∉ front := splitAtLast_eq_none_iff.1 hsplit
    refine ⟨⟨nofun, ?_⟩, fun t ht => ?_⟩
    · rintro ⟨word, rfl, -⟩
      exact absurd List.mem_cons_self noDot
    · cases ht
      simp [builtin]
  | some parts =>
    obtain ⟨qualifier, word⟩ := parts
    obtain ⟨rfl, noDot⟩ := eq_of_splitAtLast hsplit
    cases qualifier with
    | nil => exact ⟨⟨fun _ => ⟨word, rfl, noDot⟩, fun _ => by simp⟩, fun t ht => by simp at ht⟩
    | cons c qualifier =>
      refine ⟨⟨fun h => by simp at h, ?_⟩, fun t ht => ?_⟩
      · rintro ⟨other, hother, hdot⟩
        rw [List.cons_append, List.cons.injEq] at hother
        exact absurd (hother.2 ▸ List.mem_append_right _ List.mem_cons_self) hdot
      · simp only [reduceCtorEq, List.append_eq_nil_iff, and_false, or_self, if_false,
          Option.some.injEq] at ht
        rw [← ht, base_ofParts]
        simp

end TargetType

/-! ## Generated types -/

theorem TargetType.isPlain_qualified {qualifier : String} (given : qualifier ≠ "") (name : String) :
    (TargetType.qualified qualifier name).IsPlain name :=
  ⟨rfl, given, rfl, rfl⟩

/-- A word keeps a package that is read off in front of it apart from it. -/
theorem readNamed_word {package name : List Char} (closed : IsClosed name) (noBracket : '[' ∉ package) :
    TargetType.readNamed (package ++ '.' :: name) =
      if package = [] then none else some (TargetType.ofParts package name) := by
  have noDot : '.' ∉ name.takeWhile (· ≠ '[') := fun h => closed.noDot ((List.takeWhile_prefix _).subset h)
  rw [TargetType.readNamed_append noBracket noDot]
  simp [closed.ne_nil]

theorem isPlain_wrapped_iff {package : List Char} (given : package ≠ []) (name : String) (pointer : Bool)
    (depth : Nat) :
    (({ TargetType.ofParts package name.toList with pointer } : TargetType).withDepth
        (UInt32.ofNat depth)).IsPlain name ↔
      depth % UInt32.size = 0 ∧ pointer = false ∧ ('/' ∈ package → ¬ PackagePath.Nameless package) := by
  have hdepth : (UInt32.ofNat depth != 0) = false ↔ depth % UInt32.size = 0 := by
    rw [bne_eq_false_iff_eq, ← UInt32.toNat_inj, UInt32.toNat_ofNat']
    rfl
  have hqualifier : (TargetType.ofParts package name.toList).qualifier ≠ "" ↔
      ('/' ∈ package → ¬ PackagePath.Nameless package) := by
    rw [ne_eq, TargetType.qualifier_ofParts_eq_empty_iff given, not_and]
  constructor
  · rintro ⟨-, hq, hp, ha⟩
    exact ⟨hdepth.1 ha, hp, hqualifier.1 hq⟩
  · rintro ⟨hd, hp, hnamed⟩
    exact ⟨by simp [TargetType.withDepth], hqualifier.2 hnamed, hp, hdepth.2 hd⟩

theorem Front.isNothing_bracket_iff {head : List Char} (noBracket : '[' ∉ head) (arguments : List Char)
    (depth : Nat) (pointer : Bool) :
    (Front.mk depth pointer (head ++ '[' :: arguments)).IsNothing ↔ ∃ word, head = '.' :: word ∧ '.' ∉ word := by
  constructor
  · rintro (h | ⟨word, others, h, noDot, hword⟩)
    · simp at h
    · have htext : head ++ '[' :: arguments = ('.' :: word) ++ '[' :: others := h
      have hother : '[' ∉ '.' :: word := by simpa using hword
      refine ⟨word, ?_, noDot⟩
      rw [← (TargetType.cut_bracket noBracket arguments).1, htext, (TargetType.cut_bracket hother others).1]
  · rintro ⟨word, rfl, noDot⟩
    exact .inr ⟨word, arguments, rfl, noDot, fun h => noBracket (List.mem_cons_of_mem _ h)⟩

/-- **When a generated type is qualified by its package.** It has its name, a package and no wrapper exactly if the
text of the option is a package, or nothing that a type could be read from and then a package as it stands. -/
theorem modelType_isPlain_iff {modelImport name : String} (given : modelImport ≠ "") (word : IsWord name) :
    (modelType modelImport name).IsPlain name ↔
      (Front.ofText modelImport.toList).IsNothing ∨ (Front.ofText modelImport.toList).IsPackage := by
  have closed : IsClosed name.toList := word.isClosed
  have plain : (TargetType.qualified modelImport name).IsPlain name := TargetType.isPlain_qualified given name
  unfold modelType
  rw [if_neg given, TargetType.parse?_front closed]
  generalize Front.ofText modelImport.toList = front
  obtain ⟨depth, pointer, package⟩ := front
  by_cases hbracket : '[' ∈ package
  · -- The bracket takes the name into the arguments of another type, if there is one.
    obtain ⟨head, arguments, rfl, noBracket⟩ := List.eq_append_cons_of_mem hbracket
    have hnothing : (Front.mk depth pointer (head ++ '[' :: arguments)).IsNothing ↔
        ∃ word, head = '.' :: word ∧ '.' ∉ word := Front.isNothing_bracket_iff noBracket arguments depth pointer
    have hpackage : ¬ (Front.mk depth pointer (head ++ '[' :: arguments)).IsPackage :=
      fun h => h.noBracket hbracket
    obtain ⟨hnone, hsome⟩ := TargetType.readNamed_bracket noBracket (arguments ++ '.' :: name.toList)
    rw [hnothing, or_iff_left hpackage, List.append_assoc, List.cons_append, ← hnone]
    cases hread : TargetType.readNamed (head ++ '[' :: (arguments ++ '.' :: name.toList)) with
    | none => simp [plain]
    | some t =>
      simp only [Option.map_some, Option.getD_some, reduceCtorEq, iff_false]
      intro h
      refine closed.noBracket ?_
      rw [← h.base]
      exact hsome t hread
  · rw [readNamed_word closed hbracket]
    by_cases hempty : package = []
    · simp [hempty, Front.IsNothing, plain]
    · have hnothing : ¬ (Front.mk depth pointer package).IsNothing := by
        rintro (h | ⟨word, arguments, h, -⟩)
        · exact hempty h
        · have htext : package = '.' :: (word ++ '[' :: arguments) := h
          exact hbracket (by simp [htext])
      rw [if_neg hempty, or_iff_right hnothing]
      refine (isPlain_wrapped_iff hempty name pointer depth).trans ?_
      exact ⟨fun ⟨hd, hp, hn⟩ => ⟨hd, hp, hbracket, hn⟩, fun ⟨hd, hp, _, hn⟩ => ⟨hd, hp, hn⟩⟩

/-- A path with a version in the end, and a text that no type can be read from. -/
theorem modelType_isPlain_iff_state :
    IsWord "NullState" ∧ (modelType "example.com/shop/v2" "NullState").IsPlain "NullState" ∧
      IsWord "_2fa" ∧ (modelType ".[" "_2fa").IsPlain "_2fa" := by
  have letters : IsWord "NullState" := ⟨by decide, "NullState".toList, .inl rfl, List.all_eq_true.1 (by decide)⟩
  have digits : IsWord "_2fa" := ⟨by decide, "2fa".toList, .inr rfl, List.all_eq_true.1 (by decide)⟩
  have path : (Front.ofText "example.com/shop/v2".toList).IsPackage :=
    ⟨by decide, by decide, by decide, by decide⟩
  have nothing : (Front.ofText ".[".toList).IsNothing := .inr ⟨[], [], by decide, by simp, by simp⟩
  exact ⟨letters, (modelType_isPlain_iff (by decide) letters).2 (.inr path), digits,
    (modelType_isPlain_iff (by decide) digits).2 (.inl nothing)⟩

/-- A path that ends in a slash or is decorated with nothing in between, a star, and the brackets of an array: none
of these texts gives a generated type that is qualified and without a wrapper. -/
theorem modelType_not_isPlain :
    IsWord "User" ∧
      modelType "example.com/app/models/" "User" =
        { base := "User", origin := some ⟨"example.com/app/models/", none⟩ } ∧
      ∀ text ∈ ["example.com/app/models/", "example.com/app/go-", "*models", "[]models"],
        text ≠ "" ∧ ¬ (modelType text "User").IsPlain "User" := by
  refine ⟨⟨by decide, "User".toList, .inl rfl, List.all_eq_true.1 (by decide)⟩, by decide, ?_⟩
  simp only [List.forall_mem_cons, List.not_mem_nil, false_implies, implies_true, and_true]
  refine ⟨⟨by decide, fun h => ?_⟩, ⟨by decide, fun h => ?_⟩, ⟨by decide, fun h => ?_⟩, by decide, fun h => ?_⟩
  · exact absurd h.qualifier (by decide)
  · exact absurd h.qualifier (by decide)
  · exact absurd h.pointer (by decide)
  · exact absurd h.array (by decide)

end EntityModel
