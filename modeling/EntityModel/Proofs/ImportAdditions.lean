import EntityModel.Proofs.FixtureImports
import EntityModel.Proofs.Histories

/-!
# Collected imports and what has been added to them

Imports are collected one after the other: an import as it stands, that of a type, the driver's, that of the
driver's connection errors. An addition asks for one import at most (`apply_eq`), so what counts are the imports that
have been asked for, in their order, and of these the last one for each path that there is (`mem_collect_iff`).

Main statement: the collected imports are in strictly increasing order of the bytes of their paths, and they are the
last that have been added for each path and no others; so additions of different paths can change places
(`collect_keeps_last`).
-/

namespace EntityModel

namespace ImportSet

/-! ## Additions -/

/-- One addition to collected imports. -/
inductive Addition where
  | entry (i : Import)
  | ofType (t : TargetType)
  | ofDriver
  | ofConnection

namespace Addition

/-- The collected imports after the addition. -/
def apply (s : ImportSet) : Addition → ImportSet
  | entry i => s.add i
  | ofType t => s.addType t
  | ofDriver => s.addDriver
  | ofConnection => s.addConnection

/-- The import that the addition asks for, if it asks for one. -/
def asked? (driver : Driver) : Addition → Option Import
  | entry i => some i
  | ofType t => t.origin
  | ofDriver => some ⟨driver.importPath, none⟩
  | ofConnection => driver.connectionPath?.map fun path => ⟨path, none⟩

/-- All additions are those of the import that they ask for. -/
theorem apply_eq (s : ImportSet) (a : Addition) : a.apply s = (a.asked? s.driver).elim s s.add := by
  cases a with
  | entry i => rfl
  | ofType t =>
    rw [apply, addType, asked?]
    cases t.origin <;> rfl
  | ofDriver => rfl
  | ofConnection =>
    rw [apply, addConnection, asked?]
    cases s.driver.connectionPath? <;> rfl

end Addition

/-- The imports collected for a driver from additions. -/
def collect (driver : Driver) (additions : List Addition) : ImportSet :=
  additions.foldl Addition.apply (empty driver)

/-- The imports that additions ask for, in their order. -/
def asked (driver : Driver) (additions : List Addition) : List Import :=
  additions.filterMap (·.asked? driver)

/-- The import is in the list, and none after it has its path. -/
def IsLastOfPath (imports : List Import) (i : Import) : Prop :=
  Since (fun _ j => j = i) (fun j => j.path ≠ i.path) imports

theorem foldl_apply_eq (s : ImportSet) (additions : List Addition) :
    additions.foldl Addition.apply s = (asked s.driver additions).foldl add s := by
  induction additions generalizing s with
  | nil => rfl
  | cons a additions ih =>
    rw [List.foldl_cons, ih, Addition.apply_eq, asked, asked, List.filterMap_cons]
    cases a.asked? s.driver with
    | none => rfl
    | some i =>
      show ((additions.filterMap (·.asked? (s.add i).driver)).foldl add (s.add i)) = _
      rw [driver_add]
      rfl

theorem collect_eq (driver : Driver) (additions : List Addition) :
    collect driver additions = (asked driver additions).foldl add (empty driver) :=
  foldl_apply_eq (empty driver) additions

/-! ## The last import of a path -/

theorem isLastOfPath_concat_iff {imports : List Import} {i j : Import} :
    IsLastOfPath (imports ++ [j]) i ↔ j = i ∨ j.path ≠ i.path ∧ IsLastOfPath imports i :=
  since_concat_iff

/-- The last import of a path is the last one among those of the path. -/
theorem isLastOfPath_iff_getLast? {imports : List Import} {i : Import} :
    IsLastOfPath imports i ↔ (imports.filter fun j => j.path = i.path).getLast? = some i := by
  induction imports using List.reverseRecOn with
  | nil => simp [IsLastOfPath, not_since_nil]
  | append_singleton imports j ih =>
    rw [isLastOfPath_concat_iff, ih, List.filter_append]
    by_cases hp : j.path = i.path
    · simp [hp]
    · have hne : j ≠ i := fun h => hp (h ▸ rfl)
      simp [hp, hne]

/-- Every path has a last import. -/
theorem exists_isLastOfPath {imports : List Import} {i : Import} (h : i ∈ imports) :
    ∃ j, IsLastOfPath imports j ∧ j.path = i.path := by
  have hmem : i ∈ imports.filter fun j => j.path = i.path := List.mem_filter.2 ⟨h, by simp⟩
  obtain ⟨j, hj⟩ : ∃ j, (imports.filter fun j => j.path = i.path).getLast? = some j :=
    ⟨_, List.getLast?_eq_some_getLast (List.ne_nil_of_mem hmem)⟩
  have hpath : j.path = i.path := of_decide_eq_true (List.mem_filter.1 (List.mem_of_getLast? hj)).2
  exact ⟨j, isLastOfPath_iff_getLast?.2 (hpath ▸ hj), hpath⟩

theorem IsLastOfPath.mem {imports : List Import} {i : Import} (h : IsLastOfPath imports i) : i ∈ imports := by
  obtain ⟨before, _, after, rfl, rfl, -⟩ := h
  simp

/-! ## Collected imports -/

theorem ordered_foldl_add {s : ImportSet} (h : Ordered s.entries) (imports : List Import) :
    Ordered (imports.foldl add s).entries := by
  induction imports generalizing s with
  | nil => exact h
  | cons i imports ih => exact ih (ordered_add h i)

theorem ordered_collect (driver : Driver) (additions : List Addition) :
    Ordered (collect driver additions).toList := by
  rw [collect_eq]
  exact ordered_foldl_add (ordered_empty driver) _

/-- An import has been added under a path of its own, and not been replaced since. -/
theorem mem_foldl_add_iff (driver : Driver) {imports : List Import} {i : Import} :
    i ∈ (imports.foldl add (empty driver)).toList ↔ i.path ≠ "" ∧ IsLastOfPath imports i := by
  induction imports using List.reverseRecOn with
  | nil =>
    simp [empty, toList, IsLastOfPath, not_since_nil]
  | append_singleton imports j ih =>
    rw [List.foldl_concat, isLastOfPath_concat_iff]
    by_cases hj : j.path = ""
    · -- The new import is not added, and neither it nor its path is that of an import in the set.
      rw [add, if_pos hj, ih]
      refine and_congr_right fun hi => ?_
      have hpath : j.path ≠ i.path := fun h => hi (h ▸ hj)
      have hne : j ≠ i := fun h => hpath (h ▸ rfl)
      simp [hpath, hne]
    · rw [mem_add_iff (ordered_foldl_add (ordered_empty driver) imports) hj, ih]
      constructor
      · rintro (rfl | ⟨⟨hi, hlast⟩, hne⟩)
        · exact ⟨hj, .inl rfl⟩
        · exact ⟨hi, .inr ⟨hne.symm, hlast⟩⟩
      · rintro ⟨hi, rfl | ⟨hne, hlast⟩⟩
        · exact .inl rfl
        · exact .inr ⟨⟨hi, hlast⟩, hne.symm⟩

theorem mem_collect_iff {driver : Driver} {additions : List Addition} {i : Import} :
    i ∈ (collect driver additions).toList ↔ i.path ≠ "" ∧ IsLastOfPath (asked driver additions) i := by
  rw [collect_eq]
  exact mem_foldl_add_iff driver

theorem mem_paths_collect_iff {driver : Driver} {additions : List Addition} {path : String} :
    path ∈ (collect driver additions).toList.map (·.path) ↔
      path ≠ "" ∧ path ∈ (asked driver additions).map (·.path) := by
  simp only [List.mem_map, mem_collect_iff]
  constructor
  · rintro ⟨i, ⟨hi, hlast⟩, rfl⟩
    exact ⟨hi, i, hlast.mem, rfl⟩
  · rintro ⟨hpath, i, hi, rfl⟩
    obtain ⟨j, hlast, hj⟩ := exists_isLastOfPath hi
    exact ⟨j, ⟨hj ▸ hpath, hlast⟩, hj⟩

/-- Imports in order of their paths are known by which they are. -/
theorem eq_of_ordered {imports others : List Import} (h : Ordered imports) (h' : Ordered others)
    (same : ∀ i, i ∈ imports ↔ i ∈ others) : imports = others := by
  have hnodup {l : List Import} (hl : Ordered l) : l.Nodup := by
    refine List.Pairwise.imp (fun {i j} hlt => ?_) hl
    rintro rfl
    exact String.lt_irrefl _ hlt
  have hperm : imports.Perm others := (List.perm_ext_iff_of_nodup (hnodup h) (hnodup h')).2 same
  exact hperm.eq_of_pairwise (fun i j _ _ hij hji => absurd hji (String.lt_asymm hij)) h h'

/-- The imports of each path in their order say all that counts of what has been added. -/
theorem collect_congr {driver : Driver} {additions others : List Addition}
    (same : ∀ path, path ≠ "" → (asked driver others).filter (fun i => i.path = path) =
      (asked driver additions).filter fun i => i.path = path) :
    (collect driver others).toList = (collect driver additions).toList := by
  refine eq_of_ordered (ordered_collect driver others) (ordered_collect driver additions) fun i => ?_
  rw [mem_collect_iff, mem_collect_iff]
  refine and_congr_right fun hi => ?_
  rw [isLastOfPath_iff_getLast?, isLastOfPath_iff_getLast?, same i.path hi]

/-- **The last import of each path is kept.** Whatever is added, the paths are in strictly increasing order of their
bytes; they are those that have been added, but for the empty one; each import is the last of its path that has been
added; there is none exactly if no path has been added; and only the order of additions of one path matters. -/
theorem collect_keeps_last (driver : Driver) (additions : List Addition) :
    ((collect driver additions).toList.Pairwise fun i j => utf8Bytes i.path < utf8Bytes j.path) ∧
      (∀ path, path ∈ (collect driver additions).toList.map (·.path) ↔
        path ≠ "" ∧ path ∈ (asked driver additions).map (·.path)) ∧
      (∀ i ∈ (collect driver additions).toList, IsLastOfPath (asked driver additions) i) ∧
      ((collect driver additions).isEmpty = true ↔ ∀ i ∈ asked driver additions, i.path = "") ∧
      ∀ others, (∀ path, path ≠ "" → (asked driver others).filter (fun i => i.path = path) =
          (asked driver additions).filter fun i => i.path = path) →
        (collect driver others).toList = (collect driver additions).toList := by
  have hpaths (path : String) : path ∈ (collect driver additions).toList.map (·.path) ↔
      path ≠ "" ∧ path ∈ (asked driver additions).map (·.path) := mem_paths_collect_iff
  refine ⟨?_, hpaths, fun i hi => (mem_collect_iff.1 hi).2, ?_, fun others same => collect_congr same⟩
  · exact (ordered_collect driver additions).imp utf8Bytes_lt_of_lt
  · have hempty : (collect driver additions).isEmpty = true ↔
        (collect driver additions).toList.map (·.path) = [] := by
      simp [isEmpty, toList]
    rw [hempty, List.eq_nil_iff_forall_not_mem]
    constructor
    · intro h i hi
      by_contra hpath
      exact h i.path ((hpaths i.path).2 ⟨hpath, List.mem_map_of_mem hi⟩)
    · intro h path hmem
      obtain ⟨hpath, hasked⟩ := (hpaths path).1 hmem
      obtain ⟨i, hi, rfl⟩ := List.mem_map.1 hasked
      exact hpath (h i hi)

/-- A type of the package for identifiers, which a file may know under a name of its own. -/
def identifierType (localName : Option String) : TargetType where
  base := "UUID"
  qualifier := localName.getD "uuid"
  origin := some ⟨"github.com/google/uuid", localName⟩

/-- Identifiers under two names, the driver's connection and an import without a path. -/
def identifiersFirst : List Addition :=
  [.ofType (identifierType none), .ofType (identifierType (some "ids")), .entry ⟨"", none⟩, .ofDriver, .ofConnection]

/-- The same additions, those of identifiers last. -/
def identifiersLast : List Addition :=
  [.ofConnection, .ofDriver, .ofType (identifierType none), .entry ⟨"", none⟩, .ofType (identifierType (some "ids"))]

/-- The second name of the identifiers is kept in both orders, and nothing without a path is. -/
theorem collect_keeps_last_identifiers :
    (∀ path, path ≠ "" → (asked .pgxV5 identifiersLast).filter (fun i => i.path = path) =
      (asked .pgxV5 identifiersFirst).filter fun i => i.path = path) ∧
    (collect .pgxV5 identifiersLast).toList = (collect .pgxV5 identifiersFirst).toList ∧
    (collect .pgxV5 identifiersFirst).toList =
      [⟨"github.com/google/uuid", some "ids"⟩, ⟨"github.com/jackc/pgx/v5", none⟩,
        ⟨"github.com/jackc/pgx/v5/pgconn", none⟩] := by
  have same : ∀ path, path ≠ "" → (asked .pgxV5 identifiersLast).filter (fun i => i.path = path) =
      (asked .pgxV5 identifiersFirst).filter fun i => i.path = path := by
    intro path hpath
    by_cases huuid : path = "github.com/google/uuid"
    · subst huuid
      decide
    · by_cases hdriver : path = "github.com/jackc/pgx/v5"
      · subst hdriver
        decide
      · simp [asked, identifiersLast, identifiersFirst, Addition.asked?, identifierType, Driver.importPath,
          Driver.path, Driver.connectionPath?, List.filter_cons, Ne.symm huuid, Ne.symm hdriver, Ne.symm hpath]
  exact ⟨same, (collect_keeps_last .pgxV5 identifiersFirst).2.2.2.2 _ same, by decide⟩

end ImportSet

end EntityModel
