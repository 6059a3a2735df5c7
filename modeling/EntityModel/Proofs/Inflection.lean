import EntityModel.Naming.Singular
import EntityModel.Proofs.CaseImages
import Mathlib.Data.List.Infix

/-!
# How words are made singular

A word is looked up on the lists first (`inflection`), and the ending decides about the words that are on none
(`ending`). Both look at the word in lower case only, but what they do, they do to the word as it is written. So the
same is done to all spellings of a word.

Main statement: the singular of an ASCII name in lower case is the singular of the name, in lower case
(`lower_singular`).
-/

namespace EntityModel

/-! ## Letter case of ASCII text -/

namespace Text

variable {cs : List Char}

theorem isAscii_lower (h : IsAscii cs) : IsAscii (lower cs) := by
  rw [lower_of_ascii h]
  intro d hd
  obtain ⟨c, hc, rfl⟩ := List.mem_map.1 hd
  exact of_ascii (P := fun c => c.toLower.toNat < 128) (by decide) (h c hc)

theorem lower_lower (h : IsAscii cs) : lower (lower cs) = lower cs := by
  rw [lower_of_ascii (isAscii_lower h), lower_of_ascii h, List.map_map]
  refine List.map_congr_left fun c hc => ?_
  exact of_ascii (P := fun c => c.toLower.toLower = c.toLower) (by decide) (h c hc)

theorem lower_append {a b : List Char} (ha : IsAscii a) (hb : IsAscii b) : lower (a ++ b) = lower a ++ lower b := by
  have hab : IsAscii (a ++ b) := fun c hc => (List.mem_append.1 hc).elim (ha c) (hb c)
  rw [lower_of_ascii hab, lower_of_ascii ha, lower_of_ascii hb, List.map_append]

theorem capitalize_of_ascii {c : Char} (h : c.toNat < 128) (rest : List Char) :
    capitalize (c :: rest) = c.toUpper :: rest := by
  rw [capitalize, upperChar_of_ascii h, List.singleton_append]

theorem isAscii_capitalize (h : IsAscii cs) : IsAscii (capitalize cs) := by
  cases cs with
  | nil => exact h
  | cons c rest =>
    have hc : c.toNat < 128 := h c List.mem_cons_self
    have hupper : c.toUpper.toNat < 128 := of_ascii (P := fun c => c.toUpper.toNat < 128) (by decide) hc
    rw [capitalize_of_ascii hc]
    exact List.forall_mem_cons.2 ⟨hupper, fun d hd => h d (List.mem_cons_of_mem c hd)⟩

theorem lower_capitalize (h : IsAscii cs) : lower (capitalize cs) = lower cs := by
  rw [lower_of_ascii (isAscii_capitalize h), lower_of_ascii h]
  cases cs with
  | nil => rfl
  | cons c rest =>
    have hc : c.toNat < 128 := h c List.mem_cons_self
    have hback : c.toUpper.toLower = c.toLower := of_ascii (P := fun c => c.toUpper.toLower = c.toLower) (by decide) hc
    rw [capitalize_of_ascii hc, List.map_cons, List.map_cons, hback]

theorem lower_underscore {before after : List Char} (hbefore : IsAscii before) (hafter : IsAscii after) :
    lower (before ++ '_' :: after) = lower before ++ '_' :: lower after := by
  have hword : IsAscii ('_' :: after) := List.forall_mem_cons.2 ⟨by decide, hafter⟩
  rw [lower_append hbefore hword, lower_of_ascii hword, lower_of_ascii hafter]
  rfl

theorem underscore_not_mem_lower (h : IsAscii cs) (plain : '_' ∉ cs) : '_' ∉ lower cs := by
  rw [lower_of_ascii h]
  intro hmem
  obtain ⟨c, hc, hletter⟩ := List.mem_map.1 hmem
  have hsame : c = '_' := of_ascii (P := fun c => c.toLower = '_' → c = '_') (by decide) (h c hc) hletter
  exact plain (hsame ▸ hc)

end Text

namespace Naming

open Text

variable {word low : List Char}

/-! ## Endings -/

theorem endsIn_iff {suffix : String} : endsIn suffix word = true ↔ suffix.toList <:+ word :=
  List.isSuffixOf_iff_suffix

/-- What words in a sibilant end in when they do not take a bare `s`. -/
def sibilants : List String := ["ss", "x", "ch", "sh", "zz"]

/-- What the ending of a word in lower case asks for. -/
inductive Ending (low : List Char) : Prop where
  /-- One of the stems that end in a single `s`, and `es`. -/
  | stem (stem : String) (listed : stem ∈ sibilantStems) (eq : low = stem.toList ++ ['e', 's'])
    (result : ∀ word, singularByEnding word low = dropLast 2 word)
  /-- More than `ies`. -/
  | ies (front : List Char) (eq : low = front ++ ['i', 'e', 's'])
    (result : ∀ word, singularByEnding word low =
      dropLast 3 word ++ [if endsIn "IES" word then 'Y' else 'y'])
  /-- A sibilant and `es`. -/
  | sibilant (front : List Char) (sibilant : String) (listed : sibilant ∈ sibilants)
    (eq : low = front ++ sibilant.toList ++ ['e', 's']) (result : ∀ word, singularByEnding word low = dropLast 2 word)
  /-- A bare `s` behind a letter that does not make it part of the stem. -/
  | s (front : List Char) (last : Char) (other : last ≠ 's' ∧ last ≠ 'u' ∧ last ≠ 'i')
    (eq : low = front ++ [last] ++ ['s']) (result : ∀ word, singularByEnding word low = dropLast 1 word)
  /-- Anything else is left alone. -/
  | kept (result : ∀ word, singularByEnding word low = word)

/-- The letter in front of a bare `s`. -/
theorem exists_last_of_s (ends : endsIn "s" low = true) (long : 1 < low.length)
    (bare : ¬ (["ss", "us", "is"].any (endsIn · low)) = true) :
    ∃ front last, low = front ++ [last] ++ ['s'] ∧ last ≠ 's' ∧ last ≠ 'u' ∧ last ≠ 'i' := by
  obtain ⟨stem, rfl⟩ := endsIn_iff.1 ends
  obtain rfl | ⟨front, last, rfl⟩ := List.eq_nil_or_concat stem
  · exact absurd long (by decide)
  have hother : ∀ suffix ∈ ["ss", "us", "is"], suffix.toList ≠ [last, 's'] := by
    intro suffix hmem h
    exact bare (List.any_eq_true.2 ⟨suffix, hmem, endsIn_iff.2 ⟨front, by simp [h]⟩⟩)
  refine ⟨front, last, by simp, ?_, ?_, ?_⟩
  · rintro rfl
    exact hother "ss" (by simp) rfl
  · rintro rfl
    exact hother "us" (by simp) rfl
  · rintro rfl
    exact hother "is" (by simp) rfl

theorem ending (low : List Char) : Ending low := by
  -- The rules are asked in a row, so each is known not to apply where a later one does.
  by_cases hstem : (sibilantStems.any fun stem => stem.toList ++ ['e', 's'] = low) = true
  · obtain ⟨stem, listed, eq⟩ := List.any_eq_true.1 hstem
    exact .stem stem listed (of_decide_eq_true eq).symm fun word => by rw [singularByEnding, if_pos hstem]
  by_cases hies : (endsIn "ies" low && 3 < low.length) = true
  · obtain ⟨front, eq⟩ := endsIn_iff.1 (Bool.and_eq_true_iff.1 hies).1
    exact .ies front eq.symm fun word => by rw [singularByEnding, if_neg hstem, if_pos hies]
  by_cases hsibilant : (["sses", "xes", "ches", "shes", "zzes"].any (endsIn · low)) = true
  · obtain ⟨suffix, hsuffix, hends⟩ := List.any_eq_true.1 hsibilant
    have hcut : ∀ suffix ∈ ["sses", "xes", "ches", "shes", "zzes"],
        ∃ sibilant ∈ sibilants, suffix.toList = sibilant.toList ++ ['e', 's'] := by decide
    obtain ⟨sibilant, listed, hsplit⟩ := hcut suffix hsuffix
    obtain ⟨front, eq⟩ := endsIn_iff.1 hends
    refine .sibilant front sibilant listed ?_ fun word => by
      rw [singularByEnding, if_neg hstem, if_neg hies, if_pos hsibilant]
    rw [← eq, hsplit, List.append_assoc]
  by_cases hclosed : (["ss", "us", "is"].any (endsIn · low)) = true
  · exact .kept fun word => by
      rw [singularByEnding, if_neg hstem, if_neg hies, if_neg hsibilant, if_pos hclosed]
  by_cases hs : (endsIn "s" low && 1 < low.length) = true
  · obtain ⟨hends, hlong⟩ := Bool.and_eq_true_iff.1 hs
    obtain ⟨front, last, eq, other⟩ := exists_last_of_s hends (of_decide_eq_true hlong) hclosed
    exact .s front last other eq fun word => by
      rw [singularByEnding, if_neg hstem, if_neg hies, if_neg hsibilant, if_neg hclosed, if_pos hs]
  · exact .kept fun word => by
      rw [singularByEnding, if_neg hstem, if_neg hies, if_neg hsibilant, if_neg hclosed, if_neg hs]

/-! ## Words -/

/-- How a word is made singular. -/
inductive Inflection (word : List Char) : Prop where
  /-- The word is its own singular. -/
  | uncountable (listed : String.ofList (lower word) ∈ uncountables) (result : singularWord word = word)
  /-- The list has a singular for the word. -/
  | irregular (single : String) (listed : irregulars.lookup (String.ofList (lower word)) = some single)
    (result : singularWord word = withLeadingCase word single.toList)
  /-- A word with letters outside ASCII, on none of the lists. -/
  | foreign (letters : ¬ IsAscii word) (result : singularWord word = word)
  /-- A word whose ending counts. -/
  | regular (ascii : IsAscii word) (countable : String.ofList (lower word) ∉ uncountables)
    (unlisted : irregulars.lookup (String.ofList (lower word)) = none)
    (result : singularWord word = singularByEnding word (lower word))

theorem singularWord_of_uncountable (listed : String.ofList (lower word) ∈ uncountables) :
    singularWord word = word := by
  rw [singularWord]
  exact if_pos listed

theorem singularWord_of_irregular {single : String}
    (listed : irregulars.lookup (String.ofList (lower word)) = some single) :
    singularWord word = withLeadingCase word single.toList := by
  have countable : String.ofList (lower word) ∉ uncountables := by
    have hapart : ∀ e ∈ irregulars, e.1 ∉ uncountables := by decide
    exact hapart (String.ofList (lower word), single) (mem_of_lookup_eq_some listed)
  simp only [singularWord, if_neg countable, listed]

theorem singularWord_of_regular (ascii : IsAscii word) (countable : String.ofList (lower word) ∉ uncountables)
    (unlisted : irregulars.lookup (String.ofList (lower word)) = none) :
    singularWord word = singularByEnding word (lower word) := by
  simp only [singularWord, if_neg countable, unlisted, all_lt_iff_isAscii.2 ascii, if_true]

theorem inflection (word : List Char) : Inflection word := by
  by_cases listed : String.ofList (lower word) ∈ uncountables
  · exact .uncountable listed (singularWord_of_uncountable listed)
  cases hlookup : irregulars.lookup (String.ofList (lower word)) with
  | some single => exact .irregular single hlookup (singularWord_of_irregular hlookup)
  | none =>
    by_cases ascii : IsAscii word
    · exact .regular ascii listed hlookup (singularWord_of_regular ascii listed hlookup)
    · have hforeign := mt all_lt_iff_isAscii.1 ascii
      exact .foreign ascii (by simp only [singularWord, if_neg listed, hlookup, if_neg hforeign])

/-- The irregular singulars are words in small ASCII letters. -/
theorem small_of_irregular {plural single : String} (listed : irregulars.lookup plural = some single) :
    IsAscii single.toList ∧ lower single.toList = single.toList := by
  have hsmall : ∀ e ∈ irregulars, IsAscii e.2.toList ∧ e.2.toList.map Char.toLower = e.2.toList := by decide
  obtain ⟨hascii, hmap⟩ := hsmall (plural, single) (mem_of_lookup_eq_some listed)
  exact ⟨hascii, (lower_of_ascii hascii).trans hmap⟩

/-- The singular is given a capital first letter or left as it is on the list. -/
theorem withLeadingCase_cases (word replacement : List Char) :
    withLeadingCase word replacement = replacement ∨ withLeadingCase word replacement = capitalize replacement := by
  unfold withLeadingCase
  split
  · split
    · exact .inr rfl
    · exact .inl rfl
  · exact .inl rfl

theorem isAscii_withLeadingCase {plural single : String} (listed : irregulars.lookup plural = some single)
    (word : List Char) : IsAscii (withLeadingCase word single.toList) := by
  obtain ⟨hascii, -⟩ := small_of_irregular listed
  obtain h | h := withLeadingCase_cases word single.toList
  · rwa [h]
  · rw [h]
    exact isAscii_capitalize hascii

theorem lower_withLeadingCase {plural single : String} (listed : irregulars.lookup plural = some single)
    (word : List Char) : lower (withLeadingCase word single.toList) = single.toList := by
  obtain ⟨hascii, hsmall⟩ := small_of_irregular listed
  obtain h | h := withLeadingCase_cases word single.toList
  · rw [h, hsmall]
  · rw [h, lower_capitalize hascii, hsmall]

theorem withLeadingCase_lower (ascii : IsAscii word) (replacement : List Char) :
    withLeadingCase (lower word) replacement = replacement := by
  rw [lower_of_ascii ascii]
  cases word with
  | nil => rfl
  | cons c rest =>
    have hsmall : c.toLower.isUpper = false :=
      of_ascii (P := fun c => c.toLower.isUpper = false) (by decide) (ascii c List.mem_cons_self)
    rw [List.map_cons, withLeadingCase, hsmall]
    rfl

/-- What ends in small letters does not end in capitals. -/
theorem not_endsIn_capitals {front : List Char} (eq : low = front ++ ['i', 'e', 's']) : endsIn "IES" low = false := by
  rw [Bool.eq_false_iff, ne_eq, endsIn_iff, eq]
  rintro ⟨other, h⟩
  exact absurd (List.append_inj' h rfl).2 (by decide)

theorem isAscii_dropLast (ascii : IsAscii word) (n : Nat) : IsAscii (dropLast n word) :=
  fun c hc => ascii c (List.mem_of_mem_take hc)

theorem lower_dropLast (ascii : IsAscii word) (n : Nat) : lower (dropLast n word) = dropLast n (lower word) := by
  rw [lower_of_ascii (isAscii_dropLast ascii n), lower_of_ascii ascii, dropLast, dropLast, List.map_take,
    List.length_map]

/-- The ending of a word is taken off in the same way in lower case. -/
theorem lower_singularByEnding (ascii : IsAscii word) :
    lower (singularByEnding word (lower word)) = singularByEnding (lower word) (lower word) := by
  cases ending (lower word) with
  | stem _ _ _ result => rw [result, result, lower_dropLast ascii]
  | ies front eq result =>
    have hy : lower [if endsIn "IES" word then 'Y' else 'y'] = ['y'] := by
      split <;> decide
    rw [result, result, lower_append (isAscii_dropLast ascii 3) (by split <;> decide), lower_dropLast ascii, hy,
      not_endsIn_capitals eq]
    rfl
  | sibilant _ _ _ _ result => rw [result, result, lower_dropLast ascii]
  | s _ _ _ _ result => rw [result, result, lower_dropLast ascii]
  | kept result => rw [result, result]

/-- The letters of a word without its ending are those of the word, and `y` may be new. -/
theorem mem_singularByEnding {c : Char} (h : c ∈ singularByEnding word low) : c ∈ word ∨ c = 'y' ∨ c = 'Y' := by
  cases ending low with
  | stem _ _ _ result => exact .inl (List.mem_of_mem_take (result word ▸ h))
  | ies _ _ result =>
    rw [result, List.mem_append, List.mem_singleton] at h
    obtain h | rfl := h
    · exact .inl (List.mem_of_mem_take h)
    · split <;> simp
  | sibilant _ _ _ _ result => exact .inl (List.mem_of_mem_take (result word ▸ h))
  | s _ _ _ _ result => exact .inl (List.mem_of_mem_take (result word ▸ h))
  | kept result => exact .inl (result word ▸ h)

theorem isAscii_singularByEnding (ascii : IsAscii word) (low : List Char) : IsAscii (singularByEnding word low) := by
  intro c hc
  obtain h | rfl | rfl := mem_singularByEnding hc
  · exact ascii c h
  · decide
  · decide

theorem isAscii_singularWord (ascii : IsAscii word) : IsAscii (singularWord word) := by
  cases inflection word with
  | uncountable _ result => rwa [result]
  | irregular single listed result =>
    rw [result]
    exact isAscii_withLeadingCase listed word
  | foreign _ result => rwa [result]
  | regular _ _ _ result =>
    rw [result]
    exact isAscii_singularByEnding ascii _

theorem lower_singularWord (ascii : IsAscii word) : lower (singularWord word) = singularWord (lower word) := by
  have hlower := lower_lower ascii
  cases inflection word with
  | uncountable listed result =>
    rw [result, singularWord_of_uncountable (by rwa [hlower])]
  | irregular single listed result =>
    rw [result, lower_withLeadingCase listed, singularWord_of_irregular (by rwa [hlower]), withLeadingCase_lower ascii]
  | foreign letters result => exact absurd ascii letters
  | regular _ countable unlisted result =>
    rw [result, singularWord_of_regular (isAscii_lower ascii) (by rwa [hlower]) (by rwa [hlower]), hlower,
      lower_singularByEnding ascii]

/-! ## Names -/

/-- Only what follows an underscore is made singular. -/
theorem singularChars_append (before after : List Char) :
    singularChars (before ++ '_' :: after) = before ++ '_' :: singularChars after := by
  rw [singularChars, singularChars]
  cases hsplit : splitAtLast '_' after with
  | none => rw [splitAtLast_append (splitAtLast_eq_none_iff.1 hsplit)]
  | some cut =>
    obtain ⟨rfl, plain⟩ := eq_of_splitAtLast hsplit
    rw [← List.cons_append, ← List.append_assoc, splitAtLast_append plain]
    simp

theorem underscore_not_mem_singularWord (plain : '_' ∉ word) : '_' ∉ singularWord word := by
  cases inflection word with
  | uncountable _ result => rwa [result]
  | irregular single listed result =>
    have hsingles : ∀ e ∈ irregulars, '_' ∉ e.2.toList ∧ '_' ∉ capitalize e.2.toList := by decide
    obtain ⟨hsmall, hcapital⟩ := hsingles _ (mem_of_lookup_eq_some listed)
    obtain h | h := withLeadingCase_cases word single.toList
    · rwa [result, h]
    · rwa [result, h]
  | foreign _ result => rwa [result]
  | regular _ _ _ result =>
    rw [result]
    intro h
    obtain h | h | h := mem_singularByEnding h
    · exact plain h
    · exact absurd h (by decide)
    · exact absurd h (by decide)

theorem singularChars_of_not_mem (plain : '_' ∉ word) : singularChars word = singularWord word := by
  rw [singularChars, splitAtLast_eq_none_iff.2 plain]

theorem singular_nil (name : String) : singular name [] = String.ofList (singularChars name.toList) :=
  if_neg List.not_mem_nil

theorem lower_singularChars {name : List Char} (ascii : IsAscii name) :
    lower (singularChars name) = singularChars (lower name) := by
  cases hsplit : splitAtLast '_' name with
  | none =>
    have plain : '_' ∉ name := splitAtLast_eq_none_iff.1 hsplit
    rw [singularChars_of_not_mem plain, singularChars_of_not_mem (underscore_not_mem_lower ascii plain),
      lower_singularWord ascii]
  | some cut =>
    obtain ⟨before, word⟩ := cut
    obtain ⟨rfl, plain⟩ := eq_of_splitAtLast hsplit
    have hbefore : IsAscii before := fun c hc => ascii c (List.mem_append_left _ hc)
    have hword : IsAscii word := fun c hc => ascii c (List.mem_append_right _ (List.mem_cons_of_mem _ hc))
    rw [singularChars_append, singularChars_of_not_mem plain, lower_underscore hbefore (isAscii_singularWord hword),
      lower_underscore hbefore hword, singularChars_append,
      singularChars_of_not_mem (underscore_not_mem_lower hword plain), lower_singularWord hword]

/-- **Letter case does not count.** The singular of an ASCII name is the same for all spellings of the name, and is
spelled in lower case where the name is. -/
theorem lower_singular {name : String} (ascii : IsAscii name.toList) :
    String.ofList (lower (singular name []).toList) = singular (String.ofList (lower name.toList)) [] := by
  rw [singular_nil, singular_nil, String.toList_ofList, String.toList_ofList, lower_singularChars ascii]

/-- A word on the list keeps its capital, and a replaced ending is in small letters unless all of it was in
capitals. -/
theorem lower_singular_people :
    IsAscii "App_PEOPLE".toList ∧ IsAscii "CategorIEs".toList ∧
      String.ofList (lower (singular "App_PEOPLE" []).toList) =
        singular (String.ofList (lower "App_PEOPLE".toList)) [] ∧
      String.ofList (lower (singular "CategorIEs" []).toList) =
        singular (String.ofList (lower "CategorIEs".toList)) [] ∧
      singular "App_PEOPLE" [] = "App_Person" ∧ singular "CategorIEs" [] = "Category" := by
  have people : IsAscii "App_PEOPLE".toList := by decide
  have categories : IsAscii "CategorIEs".toList := by decide
  exact ⟨people, categories, lower_singular people, lower_singular categories, by decide, by decide⟩

end Naming

end EntityModel
