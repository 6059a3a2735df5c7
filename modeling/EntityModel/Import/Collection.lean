import EntityModel.Driver
import EntityModel.TargetType.Basic

/-!
# Collected imports

The imports of one source file: at most one per path, in increasing order of paths. Adding an import for
a path that is already there replaces it; an import without a path is not added.
-/

namespace EntityModel

/-- The imports collected so far for code that talks to a driver. -/
structure ImportSet where
  driver : Driver
  entries : List Import := []
  deriving DecidableEq, Repr

namespace ImportSet

/-- No imports yet. -/
def empty (driver : Driver) : ImportSet := { driver }

/-- Put an import at its place by path, in the stead of one with the same path. -/
def insertByPath (i : Import) : List Import → List Import
  | [] => [i]
  | j :: rest =>
    if i.path < j.path then i :: j :: rest
    else if i.path = j.path then i :: rest
    else j :: insertByPath i rest

/-- Add an import. -/
def add (s : ImportSet) (i : Import) : ImportSet :=
  if i.path = "" then s else { s with entries := insertByPath i s.entries }

/-- Add the import of a type, if it has one. -/
def addType (s : ImportSet) (t : TargetType) : ImportSet :=
  match t.origin with
  | some i => s.add i
  | none => s

/-- Add the package that owns the driver's connection type. -/
def addDriver (s : ImportSet) : ImportSet := s.add ⟨s.driver.importPath, none⟩

/-- Add the package that owns the driver's connection errors, if the driver has one. -/
def addConnection (s : ImportSet) : ImportSet :=
  match s.driver.connectionPath? with
  | some path => s.add ⟨path, none⟩
  | none => s

/-- The imports in increasing order of paths. -/
def toList (s : ImportSet) : List Import := s.entries

/-- Whether nothing has been added. -/
def isEmpty (s : ImportSet) : Bool := s.entries.isEmpty

@[simp] theorem driver_add (s : ImportSet) (i : Import) : (s.add i).driver = s.driver := by
  unfold add; split <;> rfl

/-- Imports in strictly increasing order of paths. -/
def Ordered (entries : List Import) : Prop := entries.Pairwise fun i j => i.path < j.path

theorem eq_or_mem_of_mem_insertByPath {i j : Import} {entries : List Import}
    (h : j ∈ insertByPath i entries) : j = i ∨ j ∈ entries := by
  induction entries with
  | nil => simpa [insertByPath] using h
  | cons k rest ih =>
    rw [insertByPath] at h
    split at h
    · simpa using h
    · split at h
      · rcases List.mem_cons.1 h with rfl | h
        · exact .inl rfl
        · exact .inr (by simp [h])
      · rcases List.mem_cons.1 h with rfl | h
        · exact .inr (by simp)
        · exact (ih h).imp_right (by simp +contextual)

/-- Adding keeps the order, with one import for each path. -/
theorem ordered_insertByPath {entries : List Import} (h : Ordered entries) (i : Import) :
    Ordered (insertByPath i entries) := by
  induction entries with
  | nil => simp [insertByPath, Ordered]
  | cons j rest ih =>
    obtain ⟨hj, hr⟩ := List.pairwise_cons.1 h
    rw [insertByPath]
    split
    · next hlt =>
      refine List.pairwise_cons.2 ⟨fun k hk => ?_, h⟩
      rcases List.mem_cons.1 hk with rfl | hk
      · exact hlt
      · exact String.lt_trans hlt (hj k hk)
    · next hnlt =>
      split
      · next heq => exact List.pairwise_cons.2 ⟨fun k hk => heq ▸ hj k hk, hr⟩
      · next hne =>
        refine List.pairwise_cons.2 ⟨fun k hk => ?_, ih hr⟩
        rcases eq_or_mem_of_mem_insertByPath hk with rfl | hk
        · exact Decidable.byContradiction fun hn =>
            hne (String.le_antisymm (String.not_lt.1 hn) (String.not_lt.1 hnlt))
        · exact hj k hk

/-- After adding an import there are that one and those of other paths. -/
theorem mem_insertByPath_iff {i j : Import} {entries : List Import} (h : Ordered entries) :
    j ∈ insertByPath i entries ↔ j = i ∨ j ∈ entries ∧ j.path ≠ i.path := by
  induction entries with
  | nil => simp [insertByPath]
  | cons k rest ih =>
    obtain ⟨hk, hr⟩ := List.pairwise_cons.1 h
    have above : i.path ≤ k.path → j ∈ rest → j.path ≠ i.path := fun hle hj he =>
      String.not_lt.2 (he ▸ hle) (hk j hj)
    rw [insertByPath]
    split
    · next hlt =>
      have hrest := above (String.not_lt.1 fun hgt => String.lt_asymm hlt hgt)
      have hhead : k.path ≠ i.path := fun he => String.lt_irrefl _ (he ▸ hlt)
      grind
    · split
      · next heq =>
        have hrest := above (heq ▸ String.le_refl i.path)
        grind
      · next hne =>
        have hrest := ih hr
        grind

theorem ordered_add {s : ImportSet} (h : Ordered s.entries) (i : Import) :
    Ordered (s.add i).entries := by
  unfold add
  split
  · exact h
  · exact ordered_insertByPath h i

end ImportSet

end EntityModel
