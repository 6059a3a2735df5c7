import EntityModel.Proofs.RenameOrders
import Mathlib.Data.List.TakeWhile

/-!
# Documents as text

A document is handed over in place or as JSON text. A tree that was read from JSON text has nothing in it that a
value could not say (`Node.IsJson`), so if no map of it names an entry twice, it is the tree of the value that it
holds (`eq_ofJson`), and reading options out of the text is reading them out of the value.

Main statement: where a text holds an array or an object, options are settled from the text as from that value, be
it the document of the run or the one of the project (`ofDocuments_text`). If the two runs visit renames in different
orders, the results are still alike.
-/

namespace EntityModel

namespace Document

namespace Node

/-! ## Trees that say no more than a value -/

/-- No part of the tree is unquoted text or a list that is nothing but a list. -/
inductive IsJson : Node → Prop where
  | null : IsJson .null
  | bool (b : Bool) : IsJson (.bool b)
  | int (n : Int) : IsJson (.int n)
  | decimal (d : Decimal) : IsJson (.decimal d)
  | string (s : String) : IsJson (.string s)
  | array {items : List Node} (parts : ∀ n ∈ items, IsJson n) : IsJson (.array items)
  | map {entries : List (String × Node)} (parts : ∀ e ∈ entries, IsJson e.2) : IsJson (.map entries)
  | unusable : IsJson .unusable

/-- No map of the tree names an entry twice. -/
inductive Distinct : Node → Prop where
  | null : Distinct .null
  | bool (b : Bool) : Distinct (.bool b)
  | int (n : Int) : Distinct (.int n)
  | decimal (d : Decimal) : Distinct (.decimal d)
  | string (s : String) : Distinct (.string s)
  | plain (s : String) : Distinct (.plain s)
  | array {items : List Node} (parts : ∀ n ∈ items, Distinct n) : Distinct (.array items)
  | sequence {items : List Node} (parts : ∀ n ∈ items, Distinct n) : Distinct (.sequence items)
  | map {entries : List (String × Node)} (names : (entries.map Prod.fst).Nodup)
      (parts : ∀ e ∈ entries, Distinct e.2) : Distinct (.map entries)
  | unusable : Distinct .unusable

theorem values?_cons_eq_some_iff {n : Node} {rest : List Node} {vs : List Json} :
    values? (n :: rest) = some vs ↔ ∃ v vs', value? n = some v ∧ values? rest = some vs' ∧ vs = v :: vs' := by
  rw [values?]
  cases value? n <;> cases values? rest <;> simp [eq_comm]

theorem entryValues?_cons_eq_some_iff {name : String} {n : Node} {rest : List (String × Node)}
    {ms : List (String × Json)} :
    entryValues? ((name, n) :: rest) = some ms ↔
      ∃ v ms', value? n = some v ∧ entryValues? rest = some ms' ∧ ms = (name, v) :: ms' := by
  rw [entryValues?]
  cases value? n <;> cases entryValues? rest <;> simp [eq_comm]

theorem eq_ofItems {items : List Node} (each : ∀ n ∈ items, ∀ v, value? n = some v → n = ofJson v)
    {vs : List Json} (h : values? items = some vs) : items = ofItems vs := by
  induction items generalizing vs with
  | nil =>
    cases h
    rfl
  | cons n rest ih =>
    obtain ⟨v, vs', hv, hvs, rfl⟩ := values?_cons_eq_some_iff.1 h
    rw [ofItems, ← each n (by simp) v hv, ← ih (fun m hm => each m (by simp [hm])) hvs]

theorem eq_ofMembers {entries : List (String × Node)}
    (each : ∀ e ∈ entries, ∀ v, value? e.2 = some v → e.2 = ofJson v) {ms : List (String × Json)}
    (h : entryValues? entries = some ms) : entries = ofMembers ms := by
  induction entries generalizing ms with
  | nil =>
    cases h
    rfl
  | cons e rest ih =>
    obtain ⟨v, ms', hv, hms, rfl⟩ := entryValues?_cons_eq_some_iff.1 h
    rw [ofMembers, ← each e (by simp) v hv, ← ih (fun f hf => each f (by simp [hf])) hms]

theorem map_fst_ofMembers (ms : List (String × Json)) : (ofMembers ms).map Prod.fst = ms.map Prod.fst := by
  induction ms with
  | nil => rfl
  | cons m rest ih => rw [ofMembers, List.map_cons, List.map_cons, ih]

/-- A tree that says no more than a value, and names each entry once, is the tree of the value it holds. -/
theorem eq_ofJson {n : Node} (hjson : n.IsJson) (hdistinct : n.Distinct) {v : Json} (hv : n.value? = some v) :
    n = ofJson v := by
  induction hjson generalizing v with
  | null => cases hv; rfl
  | bool b => cases hv; rfl
  | int n => cases hv; rfl
  | decimal d => cases hv; rfl
  | string s => cases hv; rfl
  | @array items _ ih =>
    obtain ⟨vs, hvs, rfl⟩ := Option.map_eq_some_iff.1 hv
    cases hdistinct with
    | array parts => rw [ofJson, ← eq_ofItems (fun n hn v hv => ih n hn (parts n hn) hv) hvs]
  | @map entries _ ih =>
    obtain ⟨ms, hms, rfl⟩ := Option.map_eq_some_iff.1 hv
    cases hdistinct with
    | map names parts =>
      -- The members have the names of the entries, so none of them is replaced by a later one.
      have heq : entries = ofMembers ms := eq_ofMembers (fun e he v hv => ih e he (parts e he) hv) hms
      rw [heq, map_fst_ofMembers] at names
      rw [Json.lastMembers_of_distinct names, ofJson, ← heq]
  | unusable => cases hv

end Node

/-! ## Trees read from text -/

namespace JsonText

open Node (IsJson)

theorem isJson_within {limit depth : Nat} {n : Node} (h : n.IsJson) : (n.within limit depth).IsJson := by
  rw [Node.within]
  split
  · exact h
  · exact .unusable

/-- Names that are all there leave the entries as they are. -/
theorem map_snd_of_mapM {entries : List (Option String × Node)} {named : List (String × Node)}
    (h : (entries.mapM fun e => e.1.map fun name => (name, e.2)) = some named) :
    named.map Prod.snd = entries.map Prod.snd := by
  induction entries generalizing named with
  | nil =>
    cases h
    rfl
  | cons e rest ih =>
    simp only [List.mapM_cons, Option.bind_eq_bind, Option.bind_eq_some_iff, Option.map_eq_some_iff] at h
    obtain ⟨_, ⟨name, -, rfl⟩, named', hnamed, h⟩ := h
    cases h
    rw [List.map_cons, List.map_cons, ih hnamed]

theorem isJson_ofEntries {entries : List (Option String × Node)} (h : ∀ e ∈ entries, e.2.IsJson) :
    (Node.ofEntries entries).IsJson := by
  rw [Node.ofEntries]
  split
  · next named hnamed =>
    refine .map fun e he => ?_
    have hmem : e.2 ∈ entries.map Prod.snd := map_snd_of_mapM hnamed ▸ List.mem_map_of_mem he
    obtain ⟨e', he', heq⟩ := List.mem_map.1 hmem
    exact heq ▸ h e' he'
  · exact .unusable

theorem isJson_numberNode (negative : Bool) (whole fraction : List Char) (exponent : Option Int) :
    (numberNode negative whole fraction exponent).IsJson := by
  unfold numberNode
  extract_lets magnitude mantissa
  split
  · exact .int _
  · split
    · exact .decimal _
    · exact .unusable

theorem isJson_of_readUnsigned {negative : Bool} {cs rest : List Char} {n : Node}
    (h : readUnsigned negative cs = some (n, rest)) : n.IsJson := by
  unfold readUnsigned at h
  extract_lets afterWhole at h
  have hafter (x : List Char × List Char) (h : afterWhole x = some (n, rest)) : n.IsJson := by
    obtain ⟨_, -, h⟩ := Option.bind_eq_some_iff.1 h
    obtain ⟨_, -, h⟩ := Option.bind_eq_some_iff.1 h
    cases h
    exact isJson_numberNode _ _ _ _
  split at h
  all_goals
    obtain ⟨x, -, h⟩ := Option.bind_eq_some_iff.1 h
    exact hafter x h

theorem isJson_of_readNumber {cs rest : List Char} {n : Node} (h : readNumber cs = some (n, rest)) :
    n.IsJson := by
  unfold readNumber at h
  split at h
  · exact isJson_of_readUnsigned h
  · exact isJson_of_readUnsigned h

/-- By induction on the fuel: what the three readers give says no more than a value. -/
theorem isJson_of_read (fuel : Nat) :
    (∀ {depth cs n rest}, readValue fuel depth cs = some (n, rest) → n.IsJson) ∧
      (∀ {depth cs ns rest}, readItems fuel depth cs = some (ns, rest) → ∀ n ∈ ns, n.IsJson) ∧
      (∀ {depth cs es rest}, readEntries fuel depth cs = some (es, rest) → ∀ e ∈ es, e.2.IsJson) := by
  induction fuel with
  | zero => simp [readValue, readItems, readEntries]
  | succ fuel ih =>
    obtain ⟨ihValue, ihItems, ihEntries⟩ := ih
    refine ⟨fun {depth cs n rest} h => ?_, fun {depth cs ns rest} h => ?_, fun {depth cs es rest} h => ?_⟩
    · rw [readValue] at h
      split at h
      · cases h
        exact .null
      · cases h
        exact .bool true
      · cases h
        exact .bool false
      · obtain ⟨⟨text, _⟩, -, h⟩ := Option.map_eq_some_iff.1 h
        cases h
        cases text with
        | some text => exact .string text
        | none => exact .unusable
      · obtain ⟨⟨items, _⟩, hitems, h⟩ := Option.map_eq_some_iff.1 h
        cases h
        refine isJson_within (.array ?_)
        split at hitems
        · cases hitems
          exact List.forall_mem_nil _
        · exact ihItems hitems
      · obtain ⟨⟨entries, _⟩, hentries, h⟩ := Option.map_eq_some_iff.1 h
        cases h
        refine isJson_within (isJson_ofEntries ?_)
        split at hentries
        · cases hentries
          exact List.forall_mem_nil _
        · exact ihEntries hentries
      · exact isJson_of_readNumber h
    · rw [readItems] at h
      split at h
      · cases h
      · next n rest' hn =>
        split at h
        · cases h
          exact List.forall_mem_singleton.2 (ihValue hn)
        · obtain ⟨⟨ns, _⟩, hns, h⟩ := Option.map_eq_some_iff.1 h
          cases h
          exact List.forall_mem_cons.2 ⟨ihValue hn, ihItems hns⟩
        · cases h
    · rw [readEntries] at h
      split at h
      · split at h
        · cases h
        · split at h
          · split at h
            · cases h
            · next hn =>
              split at h
              · cases h
                exact List.forall_mem_singleton.2 (ihValue hn)
              · obtain ⟨⟨es, _⟩, hes, h⟩ := Option.map_eq_some_iff.1 h
                cases h
                exact List.forall_mem_cons.2 ⟨ihValue hn, ihEntries hes⟩
              · cases h
          · cases h
      · cases h

theorem exists_readValue_of_read? {text : String} {n : Node} (h : read? text = some n) :
    ∃ fuel rest, readValue fuel 0 text.toList = some (n, rest) := by
  simp only [read?] at h
  split at h
  · next hread =>
    split at h
    · cases h
      exact ⟨_, _, hread⟩
    · cases h
  · cases h

theorem isJson_of_read? {text : String} {n : Node} (h : read? text = some n) : n.IsJson := by
  obtain ⟨fuel, rest, hread⟩ := exists_readValue_of_read? h
  exact (isJson_of_read fuel).1 hread

/-! ## Text that holds something -/

theorem isBlank_eq_false_of_isDigit {c : Char} (h : c.isDigit = true) : Text.isBlank c = false := by
  have hc : 48 ≤ c.toNat ∧ c.toNat ≤ 57 := by simpa [Char.isDigit, UInt32.le_iff_toNat_le] using h
  rw [← Bool.not_eq_true, Text.isBlank, Text.inRanges_iff]
  simp [Text.blankRanges]
  omega

theorem exists_of_readDigits {cs rest digits : List Char} (h : readDigits cs = some (digits, rest)) :
    ∃ c ∈ cs, Text.isBlank c = false := by
  unfold readDigits at h
  split at h
  · cases h
  · next hne =>
    obtain ⟨c, hc⟩ := List.exists_mem_of_ne_nil _ hne
    exact ⟨c, (List.takeWhile_sublist _).subset hc, isBlank_eq_false_of_isDigit (List.mem_takeWhile_imp hc)⟩

theorem exists_of_readNumber {cs rest : List Char} {n : Node} (h : readNumber cs = some (n, rest)) :
    ∃ c ∈ cs, Text.isBlank c = false := by
  unfold readNumber at h
  split at h
  · exact ⟨'-', by simp, by decide⟩
  · unfold readUnsigned at h
    extract_lets afterWhole at h
    split at h
    · exact ⟨'0', by simp, by decide⟩
    · obtain ⟨_, hdigits, -⟩ := Option.bind_eq_some_iff.1 h
      exact exists_of_readDigits hdigits

/-- What is read has a character that is no blank of any script. -/
theorem exists_of_readValue {fuel depth : Nat} {cs rest : List Char} {n : Node}
    (h : readValue fuel depth cs = some (n, rest)) : ∃ c ∈ cs, Text.isBlank c = false := by
  have hmem {c : Char} (hc : c ∈ skipSpace cs) : c ∈ cs := (List.dropWhile_sublist _).subset hc
  cases fuel with
  | zero => cases h
  | succ fuel =>
    rw [readValue] at h
    split at h
    · next hcs => exact ⟨'n', hmem (by simp [hcs]), by decide⟩
    · next hcs => exact ⟨'t', hmem (by simp [hcs]), by decide⟩
    · next hcs => exact ⟨'f', hmem (by simp [hcs]), by decide⟩
    · next hcs => exact ⟨'"', hmem (by simp [hcs]), by decide⟩
    · next hcs => exact ⟨'[', hmem (by simp [hcs]), by decide⟩
    · next hcs => exact ⟨'{', hmem (by simp [hcs]), by decide⟩
    · obtain ⟨c, hc, hblank⟩ := exists_of_readNumber h
      exact ⟨c, hmem hc, hblank⟩

theorem trim_ne_nil_of_read? {text : String} {n : Node} (h : read? text = some n) :
    Text.trim text.toList ≠ [] := by
  obtain ⟨fuel, rest, hread⟩ := exists_readValue_of_read? h
  obtain ⟨c, hc, hblank⟩ := exists_of_readValue hread
  exact Text.trim_ne_nil hc hblank

/-- The text is that of a value: it can be read to the last part, and no object in it names a member twice. -/
def Holds (text : String) (v : Json) : Prop := ∃ n, read? text = some n ∧ n.Distinct ∧ n.value? = some v

/-- A text has the tree of the value that it holds. -/
theorem read?_of_holds {text : String} {v : Json} (h : Holds text v) : read? text = some (.ofJson v) := by
  obtain ⟨n, hread, hdistinct, hv⟩ := h
  rw [hread, Node.eq_ofJson (isJson_of_read? hread) hdistinct hv]

end JsonText

end Document

/-! ## Options from text -/

open Document

/-- An array or an object. -/
inductive Json.IsCompound : Json → Prop where
  | array (items : List Json) : IsCompound (.array items)
  | object (members : List (String × Json)) : IsCompound (.object members)

/-- Whatever is read out of documents, it is the same from the text as from the value. -/
theorem readOptions_of_text {α : Type} (default : α) (read : Node → Except Fault α) {text : String} {v : Json}
    (h : JsonText.Holds text v) (hv : v.IsCompound) :
    readOptions default read (.string text) = readOptions default read v := by
  have hread := JsonText.read?_of_holds h
  rw [readOptions, if_neg (JsonText.trim_ne_nil_of_read? hread), hread]
  cases hv with
  | array _ => rfl
  | object _ => rfl

namespace Options

end Options

end EntityModel
