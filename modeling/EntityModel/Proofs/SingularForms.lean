import EntityModel.Proofs.Inflection

/-!
# Singulars of singulars

A word that has been made singular no longer ends in an `s` that would be taken off, and it is left alone from then on
(`singularWord_of_closed`, `singularWord_of_open`). Two things get in the way: taking off an `s` can leave an
irregular plural, and one of the stems on the list ends like a plural.

Main statement: the singular of a name is its own singular exactly unless the last word of the name is one of eleven
words (`singular_singular_iff`).
-/

namespace EntityModel.Naming

open Text

variable {word low : List Char}

/-! ## Words that are left alone -/

/-- A word in lower case that does not end in `s`. -/
theorem singularByEnding_of_open (last : low.getLast? ≠ some 's') (word : List Char) :
    singularByEnding word low = word := by
  cases ending low with
  | stem stem _ eq _ => exact absurd (by simp [eq]) last
  | ies front eq _ => exact absurd (by simp [eq]) last
  | sibilant front sibilant _ eq _ => exact absurd (by simp [eq]) last
  | s front c _ eq _ => exact absurd (by simp [eq]) last
  | kept result => exact result word

/-- A word in lower case that ends in `ss`, `us` or `is`. -/
theorem singularByEnding_of_closed {front : List Char} {c : Char} (eq : low = front ++ [c, 's'])
    (closed : c = 's' ∨ c = 'u' ∨ c = 'i') (word : List Char) : singularByEnding word low = word := by
  have hlast (other : List Char) {d : Char} (h : low = other ++ [d, 's']) : d = c := by
    have hpair := (List.append_inj' (h.symm.trans eq) rfl).2
    simpa using hpair
  have hnot_e : ¬ 'e' = c := by
    rintro rfl
    revert closed
    decide
  cases ending low with
  | stem stem _ h _ => exact absurd (hlast _ h) hnot_e
  | ies other h _ => exact absurd (hlast (other ++ ['i']) (by simp [h])) hnot_e
  | sibilant other sibilant _ h _ => exact absurd (hlast _ h) hnot_e
  | s other d open_ h _ =>
    obtain rfl := hlast other (by simpa using h)
    obtain ⟨hs, hu, hi⟩ := open_
    rcases closed with h | h | h
    · exact absurd h hs
    · exact absurd h hu
    · exact absurd h hi
  | kept result => exact result word

/-- The plurals on the list of irregular words. -/
def irregularPlurals : List String := irregulars.map Prod.fst

theorem singularWord_of_kept (ascii : IsAscii word) (regular : String.ofList (lower word) ∉ irregularPlurals)
    (kept : singularByEnding word (lower word) = word) : singularWord word = word := by
  by_cases listed : String.ofList (lower word) ∈ uncountables
  · exact singularWord_of_uncountable listed
  · exact (singularWord_of_regular ascii listed (lookup_eq_none_iff_not_mem.2 regular)).trans kept

theorem singularWord_of_open (ascii : IsAscii word) (regular : String.ofList (lower word) ∉ irregularPlurals)
    (last : (lower word).getLast? ≠ some 's') : singularWord word = word :=
  singularWord_of_kept ascii regular (singularByEnding_of_open last word)

theorem singularWord_of_closed (ascii : IsAscii word) (regular : String.ofList (lower word) ∉ irregularPlurals)
    {front : List Char} {c : Char} (eq : lower word = front ++ [c, 's']) (closed : c = 's' ∨ c = 'u' ∨ c = 'i') :
    singularWord word = word :=
  singularWord_of_kept ascii regular (singularByEnding_of_closed eq closed word)

/-- An irregular plural is not left alone. -/
theorem singularWord_ne_of_irregular (listed : String.ofList (lower word) ∈ irregularPlurals) :
    singularWord word ≠ word := by
  intro h
  cases hlookup : irregulars.lookup (String.ofList (lower word)) with
  | none => exact lookup_eq_none_iff_not_mem.1 hlookup listed
  | some single =>
    have hne : ∀ e ∈ irregulars, e.1 ≠ e.2 := by decide
    refine hne _ (mem_of_lookup_eq_some hlookup) ?_
    rw [← String.toList_inj, String.toList_ofList, ← lower_withLeadingCase hlookup word,
      ← singularWord_of_irregular hlookup, h]

/-- A word without an `s` at its end is left alone exactly if it is no irregular plural. -/
theorem singularWord_eq_self_iff_of_open (ascii : IsAscii word) (last : (lower word).getLast? ≠ some 's') :
    singularWord word = word ↔ String.ofList (lower word) ∉ irregularPlurals :=
  ⟨fun h listed => singularWord_ne_of_irregular listed h, fun regular => singularWord_of_open ascii regular last⟩

/-- Of the stems in `s` only one is not left alone. -/
theorem singularWord_eq_self_iff_of_stem (ascii : IsAscii word) {stem : String} (listed : stem ∈ sibilantStems)
    (eq : lower word = stem.toList) : singularWord word = word ↔ stem ≠ "alias" := by
  constructor
  · rintro h rfl
    have hlower : singularWord "alias".toList = "alias".toList := by rw [← eq, ← lower_singularWord ascii, h]
    exact absurd hlower (by decide)
  · intro hother
    have hus : ∀ stem ∈ sibilantStems, stem ≠ "alias" → stem ∉ irregularPlurals ∧ "us".toList <:+ stem.toList := by
      decide
    obtain ⟨hregular, front, hfront⟩ := hus stem listed hother
    have regular : String.ofList (lower word) ∉ irregularPlurals := by rwa [eq, String.ofList_toList]
    exact singularWord_of_closed ascii regular (eq.trans hfront.symm) (.inr (.inl rfl))

/-- A word with an ending that no word on a list has is not on the list. -/
theorem not_mem_of_suffix {listed : List String} {suffix : List Char}
    (apart : ∀ other ∈ listed, ¬ suffix <:+ other.toList) (ends : suffix <:+ low) : String.ofList low ∉ listed := by
  intro h
  refine apart _ h ?_
  rwa [String.toList_ofList]

theorem singularWord_of_y (ascii : IsAscii word) {front : List Char} (eq : lower word = front ++ ['y']) :
    singularWord word = word := by
  have regular : String.ofList (lower word) ∉ irregularPlurals := not_mem_of_suffix (by decide) ⟨front, eq.symm⟩
  exact singularWord_of_open ascii regular (by simp [eq])

theorem singularWord_of_sibilant (ascii : IsAscii word) {front : List Char} {sibilant : String}
    (listed : sibilant ∈ sibilants) (eq : lower word = front ++ sibilant.toList) : singularWord word = word := by
  have hapart : ∀ sibilant ∈ sibilants, ∀ plural ∈ irregularPlurals, ¬ sibilant.toList <:+ plural.toList := by decide
  have hlast : ∀ sibilant ∈ sibilants, sibilant = "ss" ∨ sibilant.toList.getLast?.any (· ≠ 's') = true := by decide
  have regular : String.ofList (lower word) ∉ irregularPlurals :=
    not_mem_of_suffix (hapart sibilant listed) ⟨front, eq.symm⟩
  obtain rfl | hopen := hlast sibilant listed
  · exact singularWord_of_closed ascii regular eq (.inl rfl)
  · refine singularWord_of_open ascii regular ?_
    obtain ⟨last, hsome, hother⟩ := (Option.any_eq_true _ _).1 hopen
    rw [eq, List.getLast?_append, hsome]
    simpa using hother

/-! ## Words with a second singular -/

/-- Words whose singular has a singular of its own: the irregular plurals without an `s`, with one more `s`, and the
plural of `alias`. -/
def doublePlurals : List String :=
  ["aliases", "peoples", "childrens", "mens", "womens", "mices", "geeses", "teeths", "feets", "oxens", "criterias"]

theorem isAscii_of_doublePlural (h : String.ofList (lower word) ∈ doublePlurals) : IsAscii word := by
  have hplain : ∀ d ∈ doublePlurals, (d.toList.all fun c => c.toNat < 128 && c != 'k') = true := by decide
  have hall := hplain _ h
  rw [String.toList_ofList] at hall
  refine isAscii_of_lower fun c hc => ?_
  simpa using List.all_eq_true.1 hall c hc

theorem dropLast_of_eq_append {front suffix : List Char} (eq : low = front ++ suffix) :
    dropLast suffix.length low = front := by
  rw [eq, dropLast, List.length_append, Nat.add_sub_cancel, List.take_left]

theorem mem_doublePlurals_iff_of_s {stem : List Char} (last : stem.getLast? ≠ some 's') (eq : low = stem ++ ['s'])
    (result : ∀ word, singularByEnding word low = dropLast 1 word) :
    String.ofList low ∈ doublePlurals ↔ String.ofList stem ∈ irregularPlurals := by
  constructor
  · intro h
    have hdouble : ∀ d ∈ doublePlurals,
        d = "aliases" ∨ ∃ plural ∈ irregularPlurals, d.toList = plural.toList ++ ['s'] := by
      decide
    obtain halias | ⟨plural, hplural, hs⟩ := hdouble _ h
    · -- This one loses two letters.
      have hlow : low = "aliases".toList := by rw [← halias, String.toList_ofList]
      exact absurd (result "aliases".toList) (by rw [hlow]; decide)
    · rw [String.toList_ofList, eq] at hs
      rwa [List.append_cancel_right hs, String.ofList_toList]
  · intro h
    have hs : ∀ plural ∈ irregularPlurals,
        plural.toList.getLast? = some 's' ∨ String.ofList (plural.toList ++ ['s']) ∈ doublePlurals := by decide
    obtain hlast | hdouble := hs _ h
    · rw [String.toList_ofList] at hlast
      exact absurd hlast last
    · rwa [String.toList_ofList, ← eq] at hdouble

/-- Taking off an ending leaves a word that is left alone, unless the word is one of these. -/
theorem singularWord_singularByEnding_iff (ascii : IsAscii word)
    (kept : singularByEnding word (lower word) = word → singularWord word = word) :
    singularWord (singularByEnding word (lower word)) = singularByEnding word (lower word) ↔
      String.ofList (lower word) ∉ doublePlurals := by
  have hascii := isAscii_singularByEnding ascii (lower word)
  have hlower := lower_singularByEnding ascii
  -- Whether what is left is left alone depends on its end, which the ending that was taken off determines.
  cases ending (lower word) with
  | stem stem listed eq result =>
    have hcut : lower (singularByEnding word (lower word)) = stem.toList := by
      rw [hlower, result]
      exact dropLast_of_eq_append eq
    have hdouble : ∀ stem ∈ sibilantStems,
        String.ofList (stem.toList ++ ['e', 's']) ∈ doublePlurals ↔ stem = "alias" := by
      decide
    rw [singularWord_eq_self_iff_of_stem hascii listed hcut, eq, hdouble stem listed]
  | ies front eq result =>
    have hcut : lower (singularByEnding word (lower word)) = front ++ ['y'] := by
      rw [hlower, result, not_endsIn_capitals eq]
      exact congrArg (· ++ ['y']) (dropLast_of_eq_append eq)
    exact iff_of_true (singularWord_of_y hascii hcut) (not_mem_of_suffix (by decide) ⟨front, eq.symm⟩)
  | sibilant front sibilant listed eq result =>
    have hcut : lower (singularByEnding word (lower word)) = front ++ sibilant.toList := by
      rw [hlower, result]
      exact dropLast_of_eq_append eq
    have hapart : ∀ sibilant ∈ sibilants, ∀ double ∈ doublePlurals,
        ¬ sibilant.toList ++ ['e', 's'] <:+ double.toList := by
      decide
    have hsuffix : sibilant.toList ++ ['e', 's'] <:+ lower word := ⟨front, by rw [eq, List.append_assoc]⟩
    exact iff_of_true (singularWord_of_sibilant hascii listed hcut) (not_mem_of_suffix (hapart sibilant listed) hsuffix)
  | s front last other eq result =>
    have hcut : lower (singularByEnding word (lower word)) = front ++ [last] := by
      rw [hlower, result]
      exact dropLast_of_eq_append eq
    have hlast : (front ++ [last]).getLast? ≠ some 's' := by simpa using other.1
    rw [singularWord_eq_self_iff_of_open hascii (hcut ▸ hlast), hcut, mem_doublePlurals_iff_of_s hlast eq result]
  | kept result =>
    have hdouble : ∀ d ∈ doublePlurals, singularByEnding d.toList d.toList ≠ d.toList := by decide
    rw [result]
    refine iff_of_true (kept (result word)) fun h => hdouble _ h ?_
    rw [String.toList_ofList, result]

theorem singularWord_singularWord_iff (word : List Char) :
    singularWord (singularWord word) = singularWord word ↔ String.ofList (lower word) ∉ doublePlurals := by
  cases inflection word with
  | uncountable listed result =>
    have hapart : ∀ w ∈ uncountables, w ∉ doublePlurals := by decide
    rw [result]
    exact iff_of_true result (hapart _ listed)
  | irregular single listed result =>
    have hapart : ∀ e ∈ irregulars,
        e.1 ∉ doublePlurals ∧ e.2 ∉ irregularPlurals ∧ e.2.toList.getLast? ≠ some 's' := by
      decide
    obtain ⟨hdouble, hregular, hlast⟩ := hapart _ (mem_of_lookup_eq_some listed)
    have hlower := lower_withLeadingCase listed word
    have hascii := isAscii_withLeadingCase listed word
    rw [result]
    refine iff_of_true (singularWord_of_open hascii ?_ ?_) hdouble
    · rwa [hlower, String.ofList_toList]
    · rwa [hlower]
  | foreign letters result =>
    rw [result]
    exact iff_of_true result fun h => letters (isAscii_of_doublePlural h)
  | regular ascii _ _ result =>
    rw [result]
    exact singularWord_singularByEnding_iff ascii result.trans

/-! ## Names -/

/-- The last word of a name, behind the last underscore. -/
def lastWord (name : List Char) : List Char :=
  match splitAtLast '_' name with
  | some (_, word) => word
  | none => name

theorem singularChars_singularChars_iff (name : List Char) :
    singularChars (singularChars name) = singularChars name ↔
      singularWord (singularWord (lastWord name)) = singularWord (lastWord name) := by
  cases hsplit : splitAtLast '_' name with
  | none =>
    have plain : '_' ∉ name := splitAtLast_eq_none_iff.1 hsplit
    rw [lastWord, hsplit, singularChars_of_not_mem plain,
      singularChars_of_not_mem (underscore_not_mem_singularWord plain)]
  | some cut =>
    obtain ⟨before, word⟩ := cut
    rw [lastWord, hsplit]
    obtain ⟨rfl, plain⟩ := eq_of_splitAtLast hsplit
    rw [singularChars_append, singularChars_of_not_mem plain, singularChars_append,
      singularChars_of_not_mem (underscore_not_mem_singularWord plain), List.append_right_inj, List.cons_inj_right]

/-- **Singulars of singulars.** The singular of a name is its own singular exactly unless the last word of the name
is, in any letter case, one of the words with a second singular. -/
theorem singular_singular_iff (name : String) :
    singular (singular name []) [] = singular name [] ↔
      String.ofList (lower (lastWord name.toList)) ∉ doublePlurals := by
  rw [singular_nil, singular_nil, String.toList_ofList, String.ofList_inj, singularChars_singularChars_iff,
    singularWord_singularWord_iff]

/-- The stem `alias` is on the list of words in a single `s`, but it loses this `s` where it stands by itself. -/
theorem singular_alias :
    "alias" ∈ sibilantStems ∧ singular "aliases" [] = "alias" ∧ singular "alias" [] = "alia" := by
  decide

end EntityModel.Naming
