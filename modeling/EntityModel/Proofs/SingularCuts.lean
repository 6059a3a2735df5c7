import EntityModel.Proofs.Inflection

/-!
# Singulars by byte offsets

Text is stored as bytes, and a name is made singular by cutting it at byte offsets: behind the last underscore, and one
to three bytes before the end of the last word. `singularCut?` does so, by the rules for singular names, and has no
answer when an offset is no position of the text (`Text.cutAt?`). Offsets in a word are counted from the end of the word
as it is written, while the ending is looked for in lower case; only ASCII words are cut, where a letter is a byte and
has as many in lower case.

Main statement: all cuts can be made, whatever the name, and they leave the singular (`singular_total`).
-/

namespace EntityModel

/-! ## Cuts at byte offsets -/

namespace Text

/-- The parts of a text in front of a byte offset and behind it. The offset has to be a position of the text: not
behind its end, and not inside a character. -/
def cutAt? (offset : Nat) (s : String) : Option (String × String) :=
  if h : String.Pos.Raw.IsValid s ⟨offset⟩ then
    some ((s.sliceTo (s.pos ⟨offset⟩ h)).copy, (s.sliceFrom (s.pos ⟨offset⟩ h)).copy)
  else none

theorem cutAt?_eq_some_iff {offset : Nat} {s front back : String} :
    cutAt? offset s = some (front, back) ↔ s = front ++ back ∧ front.utf8ByteSize = offset := by
  unfold cutAt?
  constructor
  · intro h
    split at h
    · next hvalid =>
      have hsplits := (s.pos ⟨offset⟩ hvalid).splits
      cases h
      exact ⟨hsplits.eq_append, (congrArg String.Pos.Raw.byteIdx hsplits.offset_eq_rawEndPos).symm⟩
    · cases h
  · rintro ⟨rfl, rfl⟩
    have hvalid : String.Pos.Raw.IsValid (front ++ back) ⟨front.utf8ByteSize⟩ :=
      String.Pos.Raw.isValid_iff_exists_append.2 ⟨front, back, rfl, rfl⟩
    have hparts : ((front ++ back).pos ⟨front.utf8ByteSize⟩ hvalid).Splits front back := ⟨rfl, rfl⟩
    obtain ⟨hfront, hback⟩ := ((front ++ back).pos _ hvalid).splits.eq hparts
    rw [dif_pos hvalid, hfront, hback]

/-- A text without its last `n` bytes; it has to have as many. -/
def withoutBytes? (n : Nat) (s : String) : Option String :=
  if n ≤ s.utf8ByteSize then (cutAt? (s.utf8ByteSize - n) s).map Prod.fst else none

theorem withoutBytes?_zero (s : String) : withoutBytes? 0 s = some s := by
  have hcut : cutAt? s.utf8ByteSize s = some (s, "") := cutAt?_eq_some_iff.2 ⟨String.append_empty.symm, rfl⟩
  rw [withoutBytes?, if_pos (Nat.zero_le _), Nat.sub_zero, hcut]
  rfl

theorem length_lower {cs : List Char} (ascii : IsAscii cs) : (lower cs).length = cs.length := by
  rw [lower_of_ascii ascii, List.length_map]

end Text

namespace Naming

open Text

/-! ## Singulars by byte offsets -/

/-- The singular of an ASCII word by its ending, with the end cut off at a byte offset. -/
def endingCut? (word : String) (low : List Char) : Option String :=
  if sibilantStems.any fun stem => stem.toList ++ ['e', 's'] = low then withoutBytes? 2 word
  else if endsIn "ies" low && 3 < (String.ofList low).utf8ByteSize then
    (withoutBytes? 3 word).map (· ++ if endsIn "IES" word.toList then "Y" else "y")
  else if ["sses", "xes", "ches", "shes", "zzes"].any (endsIn · low) then withoutBytes? 2 word
  else if ["ss", "us", "is"].any (endsIn · low) then withoutBytes? 0 word
  else if endsIn "s" low && 1 < (String.ofList low).utf8ByteSize then withoutBytes? 1 word
  else withoutBytes? 0 word

/-- The singular of one word. Only ASCII words are cut. -/
def wordCut? (word : String) : Option String :=
  let low := lower word.toList
  if String.ofList low ∈ uncountables then some word
  else
    match irregulars.lookup (String.ofList low) with
    | some single => some (String.ofList (withLeadingCase word.toList single.toList))
    | none => if word.toList.all fun c => c.toNat < 128 then endingCut? word low else some word

/-- The offset behind the last underscore, or the start of a name without one. -/
def wordStart (name : String) : Nat :=
  match splitAtLast '_' name.toList with
  | some (before, _) => (String.ofList before).utf8ByteSize + 1
  | none => 0

/-- The singular of a name, which is cut into what precedes the last word and this word. -/
def singularCut? (name : String) (exclusions : List String) : Option String :=
  if name ∈ exclusions then some name
  else (cutAt? (wordStart name) name).bind fun parts => (wordCut? parts.2).map (parts.1 ++ ·)

theorem withoutBytes?_of_ascii {n : Nat} {word : String} (ascii : IsAscii word.toList)
    (enough : n ≤ word.toList.length) :
    withoutBytes? n word = some (String.ofList (dropLast n word.toList)) := by
  have hsize : word.utf8ByteSize = word.toList.length := by
    rw [← utf8ByteSize_of_ascii ascii, String.ofList_toList]
  have hfront : (String.ofList (dropLast n word.toList)).utf8ByteSize = word.utf8ByteSize - n := by
    rw [utf8ByteSize_of_ascii (isAscii_dropLast ascii n), dropLast, List.length_take, hsize]
    omega
  have hparts : word = String.ofList (dropLast n word.toList) ++
      String.ofList (word.toList.drop (word.toList.length - n)) := by
    rw [← String.ofList_append, dropLast, List.take_append_drop, String.ofList_toList]
  rw [withoutBytes?, if_pos (hsize ▸ enough), cutAt?_eq_some_iff.2 ⟨hparts, hfront⟩]
  rfl

theorem endingCut?_eq {word : String} (ascii : IsAscii word.toList) :
    endingCut? word (lower word.toList) =
      some (String.ofList (singularByEnding word.toList (lower word.toList))) := by
  have hcut (n : Nat) (enough : n ≤ (lower word.toList).length) :
      withoutBytes? n word = some (String.ofList (dropLast n word.toList)) :=
    withoutBytes?_of_ascii ascii (length_lower ascii ▸ enough)
  have hwhole : withoutBytes? 0 word = some (String.ofList word.toList) := by
    rw [withoutBytes?_zero, String.ofList_toList]
  rw [endingCut?, singularByEnding, utf8ByteSize_of_ascii (isAscii_lower ascii)]
  -- Both programs ask for the same endings in the same order.
  split
  · next h =>
    obtain ⟨stem, -, heq⟩ := List.any_eq_true.1 h
    refine hcut 2 ?_
    rw [← of_decide_eq_true heq, List.length_append]
    exact Nat.le_add_left 2 _
  split
  · next h =>
    rw [hcut 3 (endsIn_iff.1 (Bool.and_eq_true_iff.1 h).1).length_le, Option.map_some]
    split
    · rw [String.ofList_append]
    · rw [String.ofList_append]
  split
  · next h =>
    obtain ⟨suffix, hsuffix, hends⟩ := List.any_eq_true.1 h
    have hlong : ∀ suffix ∈ ["sses", "xes", "ches", "shes", "zzes"], 2 ≤ suffix.toList.length := by decide
    exact hcut 2 ((hlong suffix hsuffix).trans (endsIn_iff.1 hends).length_le)
  split
  · exact hwhole
  split
  · next h => exact hcut 1 (endsIn_iff.1 (Bool.and_eq_true_iff.1 h).1).length_le
  · exact hwhole

theorem wordCut?_eq (word : String) : wordCut? word = some (String.ofList (singularWord word.toList)) := by
  rw [wordCut?, singularWord]
  split
  · rw [String.ofList_toList]
  cases irregulars.lookup (String.ofList (lower word.toList)) with
  | some single => rfl
  | none =>
    simp only
    split
    · next h => exact endingCut?_eq (all_lt_iff_isAscii.1 h)
    · rw [String.ofList_toList]

/-- Every ending leaves something of a word that has it. -/
theorem eq_nil_of_singularByEnding {word : List Char} (ascii : IsAscii word)
    (h : singularByEnding word (lower word) = []) : word = [] := by
  have hshort (n : Nat) (hdrop : dropLast n word = []) : (lower word).length ≤ n := by
    have hzero := congrArg List.length hdrop
    rw [dropLast, List.length_take, List.length_nil] at hzero
    rw [length_lower ascii]
    omega
  cases ending (lower word) with
  | stem stem listed eq result =>
    have hstems : ∀ stem ∈ sibilantStems, 0 < stem.toList.length := by decide
    have hstem := hstems stem listed
    have hle := hshort 2 (result word ▸ h)
    rw [eq, List.length_append, List.length_cons, List.length_singleton] at hle
    omega
  | ies front eq result =>
    rw [result] at h
    exact absurd h (List.append_ne_nil_of_right_ne_nil _ (List.cons_ne_nil _ _))
  | sibilant front sibilant listed eq result =>
    have hsibilants : ∀ sibilant ∈ sibilants, 0 < sibilant.toList.length := by decide
    have hsibilant := hsibilants sibilant listed
    have hle := hshort 2 (result word ▸ h)
    rw [eq, List.length_append, List.length_append, List.length_cons, List.length_singleton] at hle
    omega
  | s front last other eq result =>
    have hle := hshort 1 (result word ▸ h)
    rw [eq, List.length_append, List.length_append, List.length_singleton, List.length_singleton] at hle
    omega
  | kept result => exact (result word).symm.trans h

theorem singularWord_eq_nil_iff {word : List Char} : singularWord word = [] ↔ word = [] := by
  constructor
  · intro h
    cases inflection word with
    | uncountable _ result => exact result.symm.trans h
    | irregular single listed result =>
      have hsingles : ∀ e ∈ irregulars, e.2.toList ≠ [] := by decide
      have hlower := lower_withLeadingCase listed word
      rw [← result, h] at hlower
      exact absurd hlower.symm (hsingles _ (mem_of_lookup_eq_some listed))
    | foreign _ result => exact result.symm.trans h
    | regular ascii _ _ result => exact eq_nil_of_singularByEnding ascii (result.symm.trans h)
  · rintro rfl
    decide

/-- The first cut is made at the last word. -/
theorem exists_cut (name : String) :
    ∃ front word : String, cutAt? (wordStart name) name = some (front, word) ∧
      (front = "" ∨ ∃ before, front = before ++ "_") ∧ '_' ∉ word.toList ∧
      singularChars name.toList = front.toList ++ singularWord word.toList := by
  rw [wordStart, singularChars]
  cases hsplit : splitAtLast '_' name.toList with
  | none =>
    have hcut : cutAt? 0 name = some ("", name) := cutAt?_eq_some_iff.2 ⟨String.empty_append.symm, rfl⟩
    exact ⟨"", name, hcut, .inl rfl, splitAtLast_eq_none_iff.1 hsplit, rfl⟩
  | some cut =>
    obtain ⟨before, word⟩ := cut
    obtain ⟨hname, plain⟩ := eq_of_splitAtLast hsplit
    have hparts : name = String.ofList before ++ "_" ++ String.ofList word := by
      rw [← String.toList_inj, hname]
      simp
    have hsize : (String.ofList before ++ "_").utf8ByteSize = (String.ofList before).utf8ByteSize + 1 :=
      String.utf8ByteSize_append
    refine ⟨String.ofList before ++ "_", String.ofList word, cutAt?_eq_some_iff.2 ⟨hparts, hsize⟩,
      .inr ⟨_, rfl⟩, ?_, ?_⟩
    · rwa [String.toList_ofList]
    · simp

/-- **No cut fails.** Made singular by byte offsets, every name has a singular, and it is the singular of the name: all
that precedes the last word is kept, up to and including the last underscore, and a word is left exactly where there was
one. -/
theorem singular_total (name : String) (exclusions : List String) :
    singularCut? name exclusions = some (singular name exclusions) ∧
      ∃ front word single : String, name = front ++ word ∧ (front = "" ∨ ∃ before, front = before ++ "_") ∧
        '_' ∉ word.toList ∧ singular name exclusions = front ++ single ∧ '_' ∉ single.toList ∧
        (single = "" ↔ word = "") := by
  obtain ⟨front, word, hcut, hfront, plain, hchars⟩ := exists_cut name
  have hname : name = front ++ word := (cutAt?_eq_some_iff.1 hcut).1
  rw [singularCut?, singular]
  split
  · exact ⟨rfl, front, word, word, hname, hfront, plain, hname, plain, Iff.rfl⟩
  · have hsingular : String.ofList (singularChars name.toList) = front ++ String.ofList (singularWord word.toList) := by
      rw [hchars, String.ofList_append, String.ofList_toList]
    refine ⟨?_, front, word, String.ofList (singularWord word.toList), hname, hfront, plain, hsingular, ?_, ?_⟩
    · rw [hcut, Option.bind_some, wordCut?_eq, Option.map_some, hsingular]
    · rw [String.toList_ofList]
      exact underscore_not_mem_singularWord plain
    · rw [← String.toList_inj, ← String.toList_inj, String.toList_ofList]
      exact singularWord_eq_nil_iff

end Naming

end EntityModel
