import EntityModel.Proofs.PathNames
import Mathlib.Data.List.TakeWhile

/-!
# Names of decorated and versioned paths

The package name of a path comes from its last segment, or from the one before a version (`lastSegment`,
`namingSegment_append_version`), and only the part of the segment in front of its first dot counts. The decorations
`go-` and `-go` are dropped once each, in this order (`undecorated`).

Main statement: a version behind a path and the decorations of a segment leave the name as it is, and a name holds no
slash and no dot (`name_ignores_decorations`).
-/

namespace EntityModel.PackagePath

open Text

variable {path segment : List Char}

/-! ## Versions -/

/-- `v` and at least one digit. -/
def IsVersion (segment : List Char) : Prop :=
  ∃ digits, digits ≠ [] ∧ (∀ d ∈ digits, d.isDigit = true) ∧ segment = 'v' :: digits

theorem isMajorVersion_iff : isMajorVersion segment = true ↔ IsVersion segment := by
  constructor
  · intro h
    unfold isMajorVersion at h
    split at h
    · next digit digits => exact ⟨digit :: digits, List.cons_ne_nil _ _, List.all_eq_true.1 h, rfl⟩
    · cases h
  · rintro ⟨digits, hne, hdigits, rfl⟩
    obtain ⟨digit, rest, rfl⟩ := List.exists_cons_of_ne_nil hne
    exact List.all_eq_true.2 hdigits

instance (segment : List Char) : Decidable (IsVersion segment) := decidable_of_iff _ isMajorVersion_iff

/-- All characters of a version are `v` or digits. -/
theorem not_isVersion_of_mem {c : Char} (h : c ∈ segment) (hv : c ≠ 'v') (hdigit : c.isDigit = false) :
    ¬ IsVersion segment := by
  rintro ⟨digits, -, hdigits, rfl⟩
  obtain rfl | hc := List.mem_cons.1 h
  · exact hv rfl
  · rw [hdigits c hc] at hdigit
    cases hdigit

/-! ## Segments -/

/-- The segment of a path behind its last slash. -/
def lastSegment (path : List Char) : List Char :=
  match splitAtLast '/' path with
  | some (_, segment) => segment
  | none => path

theorem lastSegment_of_not_mem (plain : '/' ∉ segment) : lastSegment segment = segment := by
  rw [lastSegment, splitAtLast_eq_none_iff.2 plain]

theorem lastSegment_append_slash (before : List Char) (plain : '/' ∉ segment) :
    lastSegment (before ++ '/' :: segment) = segment := by
  rw [lastSegment, splitAtLast_append plain]

theorem lastSegment_append (path : List Char) {suffix : List Char} (plain : '/' ∉ suffix) :
    lastSegment (path ++ suffix) = lastSegment path ++ suffix := by
  rw [lastSegment.eq_def path]
  cases hsplit : splitAtLast '/' path with
  | none =>
    have hpath : '/' ∉ path := splitAtLast_eq_none_iff.1 hsplit
    exact lastSegment_of_not_mem (List.not_mem_append hpath plain)
  | some cut =>
    obtain ⟨before, segment⟩ := cut
    obtain ⟨rfl, hsegment⟩ := eq_of_splitAtLast hsplit
    rw [List.append_assoc, List.cons_append, lastSegment_append_slash before (List.not_mem_append hsegment plain)]

/-- A slash is the end of one segment and the start of another one. -/
theorem splitOn_slash (before after : List Char) :
    splitOn '/' (before ++ '/' :: after) = splitOn '/' before ++ splitOn '/' after := by
  unfold splitOn
  induction before with
  | nil => simp [splitBy]
  | cons c rest ih =>
    cases hrest : splitBy (· == '/') rest with
    | nil => exact absurd hrest (splitBy_ne_nil _ rest)
    | cons first others =>
      rw [hrest] at ih
      by_cases hc : c = '/'
      · simp [splitBy, hc, hrest, ih]
      · simp [splitBy, hc, hrest, ih]

theorem reverse_splitOn (path : List Char) : ∃ earlier, (splitOn '/' path).reverse = lastSegment path :: earlier := by
  rw [lastSegment]
  cases hsplit : splitAtLast '/' path with
  | none => exact ⟨[], by rw [splitOn_of_not_mem (splitAtLast_eq_none_iff.1 hsplit), List.reverse_singleton]⟩
  | some cut =>
    obtain ⟨before, segment⟩ := cut
    obtain ⟨rfl, plain⟩ := eq_of_splitAtLast hsplit
    exact ⟨(splitOn '/' before).reverse, by rw [splitOn_slash, splitOn_of_not_mem plain, List.reverse_concat]⟩

theorem namingSegment_of_not_isVersion (h : ¬ IsVersion (lastSegment path)) :
    namingSegment path = lastSegment path := by
  obtain ⟨earlier, hsplit⟩ := reverse_splitOn path
  rw [namingSegment, hsplit]
  cases earlier with
  | nil => rfl
  | cons previous earlier => exact if_neg (mt isMajorVersion_iff.1 h)

/-- Behind a slash, a version gives way to the segment in front of it. -/
theorem namingSegment_append_version (path : List Char) (version : IsVersion segment) :
    namingSegment (path ++ '/' :: segment) = lastSegment path := by
  have plain : '/' ∉ segment := fun h => not_isVersion_of_mem h (by decide) (by decide) version
  obtain ⟨earlier, hsplit⟩ := reverse_splitOn path
  rw [namingSegment, splitOn_slash, splitOn_of_not_mem plain, List.reverse_append, List.reverse_singleton, hsplit]
  exact if_pos (isMajorVersion_iff.2 version)

theorem slash_not_mem_namingSegment (path : List Char) : '/' ∉ namingSegment path := by
  have hpart : namingSegment path = [] ∨ namingSegment path ∈ splitOn '/' path := by
    rw [← List.mem_reverse, namingSegment]
    split
    · next last previous _ h =>
      split
      · exact .inr (h ▸ List.mem_cons_of_mem _ List.mem_cons_self)
      · exact .inr (h ▸ List.mem_cons_self)
    · next last h => exact .inr (h ▸ List.mem_cons_self)
    · exact .inl rfl
  obtain h | h := hpart
  · rw [h]
    exact List.not_mem_nil
  · exact fun hmem => absurd (not_of_mem_splitBy h '/' hmem) (by decide)

/-! ## Names -/

theorem nameChars_eq (path : List Char) : nameChars path = dropTrailingGo (dropLeadingGo (stem path)) := rfl

/-- What follows a dot does not count. -/
theorem takeWhile_append_dot (segment rest : List Char) :
    (segment ++ '.' :: rest).takeWhile (· ≠ '.') = segment.takeWhile (· ≠ '.') := by
  induction segment with
  | nil => rfl
  | cons c segment ih => rw [List.cons_append, List.takeWhile_cons, List.takeWhile_cons, ih]

theorem nameChars_congr {other : List Char} (h : stem path = stem other) : nameChars path = nameChars other := by
  rw [nameChars_eq, nameChars_eq, h]

theorem nameChars_append_version (h : ¬ IsVersion (lastSegment path)) (version : IsVersion segment) :
    nameChars (path ++ '/' :: segment) = nameChars path := by
  refine nameChars_congr ?_
  rw [stem, stem, namingSegment_append_version path version, namingSegment_of_not_isVersion h]

theorem nameChars_append_dot (h : ¬ IsVersion (lastSegment path)) {suffix : List Char} (plain : '/' ∉ suffix) :
    nameChars (path ++ '.' :: suffix) = nameChars path := by
  have hlast : lastSegment (path ++ '.' :: suffix) = lastSegment path ++ '.' :: suffix :=
    lastSegment_append path (List.not_mem_cons_of_ne_of_not_mem (by decide) plain)
  have hother : ¬ IsVersion (lastSegment (path ++ '.' :: suffix)) := by
    rw [hlast]
    exact not_isVersion_of_mem (List.mem_append_right _ List.mem_cons_self) (by decide) (by decide)
  refine nameChars_congr ?_
  rw [stem, stem, namingSegment_of_not_isVersion hother, namingSegment_of_not_isVersion h, hlast, takeWhile_append_dot]

/-- A segment that is nothing but a package name. -/
structure IsPlain (segment : List Char) : Prop where
  noDot : '.' ∉ segment
  noSlash : '/' ∉ segment
  noLeadingGo : ¬ ['g', 'o', '-'] <+: segment
  noTrailingGo : ¬ ['-', 'g', 'o'] <:+ segment
  noVersion : ¬ IsVersion segment

theorem dropLeadingGo_append (rest : List Char) : dropLeadingGo (['g', 'o', '-'] ++ rest) = rest := by
  rw [dropLeadingGo, List.isPrefixOf?_eq_some_iff_append_eq.2 rfl]
  rfl

theorem dropTrailingGo_append (front : List Char) : dropTrailingGo (front ++ ['-', 'g', 'o']) = front := by
  rw [dropTrailingGo, List.isSuffixOf?_eq_some_iff_append_eq.2 rfl]
  rfl

theorem dropLeadingGo_of_not (h : ¬ ['g', 'o', '-'] <+: segment) : dropLeadingGo segment = segment :=
  (dropLeadingGo_cases segment).resolve_left fun heq => h ⟨_, heq.symm⟩

theorem dropTrailingGo_of_not (h : ¬ ['-', 'g', 'o'] <:+ segment) : dropTrailingGo segment = segment :=
  (dropTrailingGo_cases segment).resolve_left fun heq => h ⟨_, heq.symm⟩

/-- A trailing decoration makes no leading one, except that it may complete `go`. -/
theorem dropLeadingGo_trailing (h : ¬ ['g', 'o', '-'] <+: segment) :
    segment = ['g', 'o'] ∨ dropLeadingGo (segment ++ ['-', 'g', 'o']) = segment ++ ['-', 'g', 'o'] := by
  obtain heq | heq := dropLeadingGo_cases (segment ++ ['-', 'g', 'o'])
  · left
    -- The leading decoration ends inside the trailing one, and they share the dash.
    obtain ⟨overlap, hlead, htrail⟩ | ⟨rest, hsegment, -⟩ := List.append_eq_append_iff.1 heq
    · cases overlap with
      | nil =>
        rw [List.append_nil] at hlead
        exact absurd (hlead ▸ List.prefix_refl segment) h
      | cons c tail =>
        obtain ⟨rfl, -⟩ := List.cons.inj htrail
        have hsuffix : '-' :: tail <:+ ['g', 'o', '-'] := ⟨segment, hlead.symm⟩
        obtain rfl : tail = [] := by simpa [List.suffix_cons_iff] using hsuffix
        exact (List.append_inj' hlead rfl).1.symm
    · exact absurd ⟨rest, hsegment.symm⟩ h
  · exact .inr heq

/-- The decorations of a plain name are dropped, and the name is left alone. -/
theorem undecorated (h : IsPlain segment) {lead trail : String} (hlead : lead ∈ ["", "go-"])
    (htrail : trail ∈ ["", "-go"]) :
    dropTrailingGo (dropLeadingGo (lead.toList ++ segment ++ trail.toList)) = segment := by
  have hbare : dropTrailingGo segment = segment := dropTrailingGo_of_not h.noTrailingGo
  simp only [List.mem_cons, List.not_mem_nil, or_false] at hlead htrail
  obtain rfl | rfl := hlead
  · obtain rfl | rfl := htrail
    · rw [String.toList_empty, List.append_nil, List.nil_append, dropLeadingGo_of_not h.noLeadingGo, hbare]
    · obtain rfl | hlead := dropLeadingGo_trailing h.noLeadingGo
      · decide
      · exact (congrArg dropTrailingGo hlead).trans (dropTrailingGo_append segment)
  · rw [List.append_assoc]
    refine (congrArg dropTrailingGo (dropLeadingGo_append _)).trans ?_
    obtain rfl | rfl := htrail
    · rw [String.toList_empty, List.append_nil, hbare]
    · exact dropTrailingGo_append segment

theorem nameChars_of_segment {front : List Char} (starts : front = [] ∨ ∃ before, front = before ++ ['/'])
    (noDot : '.' ∉ segment) (noSlash : '/' ∉ segment) (noVersion : ¬ IsVersion segment) :
    nameChars (front ++ segment) = dropTrailingGo (dropLeadingGo segment) := by
  have hlast : lastSegment (front ++ segment) = segment := by
    obtain rfl | ⟨before, rfl⟩ := starts
    · exact lastSegment_of_not_mem noSlash
    · rw [List.append_assoc, List.singleton_append, lastSegment_append_slash before noSlash]
  have hstem : segment.takeWhile (· ≠ '.') = segment :=
    List.takeWhile_eq_self_iff.2 fun c hc => decide_eq_true fun h => noDot (h ▸ hc)
  rw [nameChars_eq, stem, namingSegment_of_not_isVersion (hlast.symm ▸ noVersion), hlast, hstem]

theorem nameChars_decorated {front : List Char} (starts : front = [] ∨ ∃ before, front = before ++ ['/'])
    (h : IsPlain segment) {lead trail : String} (hlead : lead ∈ ["", "go-"]) (htrail : trail ∈ ["", "-go"]) :
    nameChars (front ++ (lead.toList ++ segment ++ trail.toList)) = segment := by
  have hletters : ∀ lead ∈ ["", "go-"], ∀ trail ∈ ["", "-go"], ('.' ∉ lead.toList ∧ '.' ∉ trail.toList) ∧
      ('/' ∉ lead.toList ∧ '/' ∉ trail.toList) ∧
      (lead = "" ∧ trail = "" ∨ '-' ∈ lead.toList ∨ '-' ∈ trail.toList) := by
    decide
  obtain ⟨hdot, hslash, hdash⟩ := hletters lead hlead trail htrail
  have noVersion : ¬ IsVersion (lead.toList ++ segment ++ trail.toList) := by
    obtain ⟨rfl, rfl⟩ | hdash := hdash
    · rw [String.toList_empty, List.append_nil, List.nil_append]
      exact h.noVersion
    · have hmem : '-' ∈ lead.toList ++ segment ++ trail.toList := by
        rw [List.mem_append, List.mem_append]
        exact hdash.imp_left .inl
      exact not_isVersion_of_mem hmem (by decide) (by decide)
  rw [nameChars_of_segment starts (by simp [hdot, h.noDot]) (by simp [hslash, h.noSlash]) noVersion,
    undecorated h hlead htrail]

/-- The decorations are dropped, and nothing is added. -/
theorem mem_of_mem_undecorated {c : Char} (h : c ∈ dropTrailingGo (dropLeadingGo segment)) : c ∈ segment := by
  have hlead : c ∈ dropLeadingGo segment := by
    obtain heq | heq := dropTrailingGo_cases (dropLeadingGo segment)
    · exact heq ▸ List.mem_append_left _ h
    · exact heq ▸ h
  obtain heq | heq := dropLeadingGo_cases segment
  · exact heq ▸ List.mem_append_right _ hlead
  · exact heq ▸ hlead

/-- A name is part of one segment, and ends in front of its first dot. -/
theorem not_mem_name (path : String) : '/' ∉ (name path).toList ∧ '.' ∉ (name path).toList := by
  rw [name, String.toList_ofList, nameChars_eq]
  constructor
  · intro h
    exact slash_not_mem_namingSegment _ ((List.takeWhile_sublist _).subset (mem_of_mem_undecorated h))
  · intro h
    have hdot := List.mem_takeWhile_imp (p := (· ≠ '.')) (mem_of_mem_undecorated h)
    exact absurd hdot (by decide)

/-- **Versions and decorations do not count.** A version behind a path whose last segment is none, be it a segment of
its own or behind a dot, leaves the name as it is; a segment that is a plain name is the name of the path, with or
without `go-` in front and `-go` behind; and no name holds a slash or a dot. -/
theorem name_ignores_decorations :
    (∀ path digits : String, ¬ IsVersion (lastSegment path.toList) → digits ≠ "" →
      (∀ d ∈ digits.toList, d.isDigit = true) →
        name (path ++ "/v" ++ digits) = name path ∧ name (path ++ ".v" ++ digits) = name path) ∧
    (∀ front segment : String, (front = "" ∨ ∃ before, front = before ++ "/") → IsPlain segment.toList →
      ∀ lead ∈ ["", "go-"], ∀ trail ∈ ["", "-go"], name (front ++ (lead ++ segment ++ trail)) = segment) ∧
    ∀ path : String, '/' ∉ (name path).toList ∧ '.' ∉ (name path).toList := by
  refine ⟨fun path digits hlast hne hdigits => ?_, fun front segment starts plain lead hlead trail htrail => ?_,
    not_mem_name⟩
  · have version : IsVersion ('v' :: digits.toList) := ⟨digits.toList, by simpa using hne, hdigits, rfl⟩
    have noSlash : '/' ∉ 'v' :: digits.toList := fun h => not_isVersion_of_mem h (by decide) (by decide) version
    constructor
    · rw [name, name, String.ofList_inj, ← nameChars_append_version hlast version]
      simp
    · rw [name, name, String.ofList_inj, ← nameChars_append_dot hlast noSlash]
      simp
  · have hfront : front.toList = [] ∨ ∃ before, front.toList = before ++ ['/'] := by
      obtain rfl | ⟨before, rfl⟩ := starts
      · exact .inl rfl
      · exact .inr ⟨before.toList, String.toList_append⟩
    rw [name, String.toList_append, String.toList_append, String.toList_append,
      nameChars_decorated hfront plain hlead htrail, String.ofList_toList]

/-- The name `go` is what is left of its own decorations. -/
theorem name_ignores_decorations_go :
    ¬ IsVersion (lastSegment "gopkg.in/yaml".toList) ∧ "3" ≠ "" ∧ (∀ d ∈ "3".toList, d.isDigit = true) ∧
      (∃ before, "example.com/" = before ++ "/") ∧ IsPlain "go".toList ∧
      (name "gopkg.in/yaml/v3" = name "gopkg.in/yaml" ∧ name "gopkg.in/yaml.v3" = name "gopkg.in/yaml") ∧
      name "gopkg.in/yaml" = "yaml" ∧ name "example.com/go-go" = "go" ∧ name "example.com/go-go-go" = "go" := by
  have hlast : ¬ IsVersion (lastSegment "gopkg.in/yaml".toList) := by decide
  have hdigits : ∀ d ∈ "3".toList, d.isDigit = true := List.all_eq_true.1 (by decide)
  have starts : ∃ before, "example.com/" = before ++ "/" := ⟨"example.com", rfl⟩
  have plain : IsPlain "go".toList := ⟨by decide, by decide, by decide, by decide, by decide⟩
  have hversions := name_ignores_decorations.1 "gopkg.in/yaml" "3" hlast (by decide) hdigits
  have hdecorated := name_ignores_decorations.2.1 "example.com/" "go" (.inr starts) plain
  exact ⟨hlast, by decide, hdigits, starts, plain, hversions, by decide, hdecorated "" (by decide) "-go" (by decide),
    hdecorated "go-" (by decide) "-go" (by decide)⟩

end EntityModel.PackagePath
