import EntityModel.Naming.Identifier
import EntityModel.Proofs.CaseImages

/-!
# What exported identifiers are spelled with

The words of a raw name hold letters and digits only. In each word some characters are raised to capitals, all of an
initialism and the first of any other word, and the rest stay as they are (`casedWord_eq`). So capitals are all that
an identifier can have besides the letters and digits of the raw name, and some capitals are spelled with marks.

Main statement: an identifier consists of letters and digits, behind an underscore exactly if they start with a digit,
unless a letter that takes marks is raised; and there is an identifier for each raw name with some letter or digit
(`identifier_exported_iff`).
-/

namespace EntityModel.Naming

open Text

/-! ## Exported names -/

/-- Characters of one kind, behind an underscore exactly if the first of them is a digit. -/
inductive Exported (kind : Char → Prop) : List Char → Prop where
  | empty : Exported kind []
  | letter {c : Char} {rest : List Char} (first : isNumeric c = false) (all : ∀ d ∈ c :: rest, kind d) :
    Exported kind (c :: rest)
  | digit {c : Char} {rest : List Char} (first : isNumeric c = true) (all : ∀ d ∈ c :: rest, kind d) :
    Exported kind ('_' :: c :: rest)

theorem exported_guardDigit {kind : Char → Prop} {body : List Char} (all : ∀ c ∈ body, kind c) :
    Exported kind (guardDigit body) := by
  cases body with
  | nil => exact .empty
  | cons c rest =>
    rw [guardDigit]
    split
    · next first => exact .digit first all
    · next first => exact .letter (Bool.not_eq_true _ ▸ first) all

theorem exported_guardDigit_iff {kind : Char → Prop} {body : List Char} (noUnderscore : '_' ∉ body) :
    Exported kind (guardDigit body) ↔ ∀ c ∈ body, kind c := by
  refine ⟨fun h => ?_, exported_guardDigit⟩
  cases body with
  | nil => nofun
  | cons c rest =>
    rw [guardDigit] at h
    split at h
    · cases h with
      | letter first all => exact fun d hd => all d (List.mem_cons_of_mem '_' hd)
      | digit first all => exact all
    · cases h with
      | letter first all => exact all
      | digit first all => exact absurd List.mem_cons_self noUnderscore

/-! ## Words -/

/-- The words of a raw name. -/
def words (raw : List Char) : List (List Char) := splitBy (fun c => !isAlphanumeric c) raw

/-- The characters of a word that are raised to capitals. -/
def raised (initialisms : List String) (word : List Char) : List Char :=
  if String.ofList (lower word) ∈ initialisms then word else word.take 1

variable {initialisms : List String} {raw word : List Char}

theorem isAlphanumeric_of_mem_words (hword : word ∈ words raw) {c : Char} (hc : c ∈ word) :
    isAlphanumeric c = true := by
  simpa using not_of_mem_splitBy hword c hc

theorem mem_of_mem_raised {c : Char} (hc : c ∈ raised initialisms word) : c ∈ word := by
  unfold raised at hc
  split at hc
  · exact hc
  · exact List.mem_of_mem_take hc

/-- A word in an identifier: what is raised, and the rest of it. -/
theorem casedWord_eq (initialisms : List String) (word : List Char) :
    casedWord initialisms word =
      upper (raised initialisms word) ++ word.drop (raised initialisms word).length := by
  unfold casedWord raised
  split
  · simp
  · cases word <;> simp [capitalize, upper]

theorem casedWord_eq_nil_iff : casedWord initialisms word = [] ↔ word = [] := by
  unfold casedWord
  cases word with
  | nil => simp [upper, capitalize]
  | cons c rest => split <;> simp [upper, capitalize, upperChar_ne_nil]

/-! ## Characters of the words -/

theorem isAlphanumeric_or_mark_of_mem_casedWord (hword : word ∈ words raw) {d : Char}
    (hd : d ∈ casedWord initialisms word) : isAlphanumeric d = true ∨ d.toNat ∈ combiningMarks := by
  rw [casedWord_eq, List.mem_append] at hd
  rcases hd with hraised | hrest
  · obtain ⟨c, hc, hcd⟩ := List.mem_flatMap.1 hraised
    have halnum := isAlphanumeric_of_mem_words hword (mem_of_mem_raised hc)
    exact (isAlphanumeric_or_mark halnum hcd).imp_right And.right
  · exact .inl (isAlphanumeric_of_mem_words hword (List.mem_of_mem_drop hrest))

/-- Only raised letters that take marks bring something else than letters and digits into a word. -/
theorem casedWord_isAlphanumeric_iff (hword : word ∈ words raw) :
    (∀ d ∈ casedWord initialisms word, isAlphanumeric d = true) ↔
      ∀ c ∈ raised initialisms word, c.toNat ∉ markedLetters := by
  have hraised : ∀ c ∈ raised initialisms word, isAlphanumeric c = true := fun c hc =>
    isAlphanumeric_of_mem_words hword (mem_of_mem_raised hc)
  rw [casedWord_eq]
  constructor
  · intro hall c hc
    refine (upperChar_isAlphanumeric_iff (hraised c hc)).1 fun d hd => hall d ?_
    exact List.mem_append_left _ (List.mem_flatMap.2 ⟨c, hc, hd⟩)
  · intro hplain d hd
    rcases List.mem_append.1 hd with hd | hd
    · obtain ⟨c, hc, hcd⟩ := List.mem_flatMap.1 hd
      exact (upperChar_isAlphanumeric_iff (hraised c hc)).2 (hplain c hc) d hcd
    · exact isAlphanumeric_of_mem_words hword (List.mem_of_mem_drop hd)

theorem not_underscore_of_mem_casedWord (hword : word ∈ words raw) : '_' ∉ casedWord initialisms word := by
  intro h
  have halnum : isAlphanumeric '_' = false := by decide +kernel
  have hmark : '_'.toNat ∉ combiningMarks := by decide
  rcases isAlphanumeric_or_mark_of_mem_casedWord hword h with h | h
  · simp [halnum] at h
  · exact hmark h

/-! ## Identifiers -/

theorem mem_identifierBody_iff {d : Char} :
    d ∈ identifierBody initialisms raw ↔ ∃ word ∈ words raw, d ∈ casedWord initialisms word :=
  List.mem_flatMap

theorem identifierBody_eq_nil_iff :
    identifierBody initialisms raw = [] ↔ ∀ c ∈ raw, isAlphanumeric c = false := by
  have hwords : identifierBody initialisms raw = [] ↔ (words raw).flatten = [] := by
    rw [identifierBody, List.flatMap_eq_nil_iff, List.flatten_eq_nil_iff]
    exact forall₂_congr fun word _ => casedWord_eq_nil_iff
  rw [hwords, words, flatten_splitBy, List.filter_eq_nil_iff]
  simp

theorem guardDigit_eq_nil_iff {body : List Char} : guardDigit body = [] ↔ body = [] := by
  cases body with
  | nil => rfl
  | cons c rest =>
    rw [guardDigit]
    split <;> simp

/-- A raw name without an entry of its own is spelled by its words. -/
theorem toList_identifier {renames : List (String × String)} {raw : String} (plain : raw ∉ renames.map Prod.fst)
    (initialisms : List String) :
    (identifier renames initialisms raw).toList = guardDigit (identifierBody initialisms raw.toList) := by
  rw [identifier, lookup_eq_none_iff_not_mem.2 plain]
  exact String.toList_ofList

/-- **Letters and digits in identifiers.** The identifier of a name without an entry of its own consists of letters
and digits, behind an underscore exactly if they start with a digit, if and only if no letter that takes marks is
raised to a capital. Besides letters and digits there are such marks at most, and the identifier is empty for names
without letters and digits only. -/
theorem identifier_exported_iff {renames : List (String × String)} {raw : String}
    (plain : raw ∉ renames.map Prod.fst) (initialisms : List String) :
    (Exported (isAlphanumeric · = true) (identifier renames initialisms raw).toList ↔
        ∀ word ∈ words raw.toList, ∀ c ∈ raised initialisms word, c.toNat ∉ markedLetters) ∧
      Exported (fun c => isAlphanumeric c = true ∨ c.toNat ∈ combiningMarks)
        (identifier renames initialisms raw).toList ∧
      (identifier renames initialisms raw = "" ↔ ∀ c ∈ raw.toList, isAlphanumeric c = false) := by
  have hchars := toList_identifier plain initialisms
  have noUnderscore : '_' ∉ identifierBody initialisms raw.toList := by
    rw [mem_identifierBody_iff]
    rintro ⟨word, hword, h⟩
    exact not_underscore_of_mem_casedWord hword h
  refine ⟨?_, ?_, ?_⟩
  · rw [hchars, exported_guardDigit_iff noUnderscore]
    constructor
    · intro hall word hword
      refine (casedWord_isAlphanumeric_iff hword).1 fun d hd => hall d ?_
      exact mem_identifierBody_iff.2 ⟨word, hword, hd⟩
    · intro hplain d hd
      obtain ⟨word, hword, hd⟩ := mem_identifierBody_iff.1 hd
      exact (casedWord_isAlphanumeric_iff hword).2 (hplain word hword) d hd
  · rw [hchars]
    refine exported_guardDigit fun d hd => ?_
    obtain ⟨word, hword, hd⟩ := mem_identifierBody_iff.1 hd
    exact isAlphanumeric_or_mark_of_mem_casedWord hword hd
  · rw [← String.toList_eq_nil_iff, hchars, guardDigit_eq_nil_iff, identifierBody_eq_nil_iff]

/-- A leading digit is kept off the start, `ß` is raised to two letters, and `ǰ` stands where it is not raised. -/
theorem identifier_exported_iff_cards :
    "2fa_ßǰ.id" ∉ ([("user", "Member")] : List (String × String)).map Prod.fst ∧
      Exported (isAlphanumeric · = true) (identifier [("user", "Member")] ["id"] "2fa_ßǰ.id").toList ∧
      identifier [("user", "Member")] ["id"] "2fa_ßǰ.id" = "_2faSSǰID" := by
  have plain : "2fa_ßǰ.id" ∉ ([("user", "Member")] : List (String × String)).map Prod.fst := by decide
  have hwords : words "2fa_ßǰ.id".toList = [['2', 'f', 'a'], ['ß', 'ǰ'], ['i', 'd']] := by decide +kernel
  refine ⟨plain, (identifier_exported_iff plain ["id"]).1.2 ?_, by decide +kernel⟩
  intro word hword c hc
  rw [hwords] at hword
  have hraised : ∀ word ∈ [['2', 'f', 'a'], ['ß', 'ǰ'], ['i', 'd']],
      (raised ["id"] word).all (·.toNat ∉ markedLetters) = true := by decide +kernel
  simpa using List.all_eq_true.1 (hraised word hword) c hc

/-- The letter `ǰ` is raised to `J` and a caron, and a caron is neither a letter nor a digit. -/
theorem identifier_not_exported :
    identifier [] ["id"] "ǰan_id" = "J\u030canID" ∧ isAlphanumeric '\u030c' = false ∧
      ¬ Exported (isAlphanumeric · = true) (identifier [] ["id"] "ǰan_id").toList := by
  have hname : identifier [] ["id"] "ǰan_id" = "J\u030canID" := by decide +kernel
  have hcaron : isAlphanumeric '\u030c' = false := by decide +kernel
  refine ⟨hname, hcaron, fun h => ?_⟩
  rw [hname] at h
  have hchars : "J\u030canID".toList = ['J', '\u030c', 'a', 'n', 'I', 'D'] := by decide
  rw [hchars] at h
  cases h with
  | letter first all => simpa [hcaron] using all '\u030c' (by simp)

end EntityModel.Naming
