import EntityModel.Options.Settle
import Mathlib.Data.List.DropRight

/-!
# The name of the package

A run gives its package by name, or by the directory that it writes to, which the package is then named after.
`OptionsDocument.Names` says this about the document, and the package that is settled is the one that the document
names (`packageOf_eq_ok_iff`).
-/

namespace EntityModel

open Text

/-! ## Directories and their names -/

/-- A path ends in that component, slashes at its end aside. -/
def EndsIn (path name : List Char) : Prop :=
  name ≠ [] ∧ '/' ∉ name ∧
    ∃ before slashes, path = before ++ name ++ slashes ∧
      (before = [] ∨ before.getLast? = some '/') ∧ ∀ c ∈ slashes, c = '/'

/-- The name of the package that an options document gives. -/
inductive OptionsDocument.Names (d : OptionsDocument) : String → Prop where
  | given (named : d.package ≠ "") : d.Names d.package
  | directory {name : String} (unnamed : d.package = "") (ends : EndsIn d.out.toList name.toList)
      (notHere : name ≠ ".") (notParent : name ≠ "..") : d.Names name

/-- The directory of a path is its text without the slashes at its end. -/
theorem rdropWhile_slashes {path name before slashes : List Char} (hname : name ≠ [])
    (plain : '/' ∉ name) (hpath : path = before ++ name ++ slashes) (hslashes : ∀ c ∈ slashes, c = '/') :
    path.rdropWhile (· = '/') = before ++ name := by
  have hdrop : path.rdropWhile (· = '/') = (before ++ name).rdropWhile (· = '/') := by
    rw [hpath, List.rdropWhile, List.reverse_append, List.dropWhile_append_of_pos]
    · rfl
    · simpa using hslashes
  rw [hdrop, List.rdropWhile_eq_self_iff]
  intro hne
  rw [List.getLast_append_of_ne_nil hne hname, decide_eq_true_eq]
  exact fun h => plain (h ▸ List.getLast_mem hname)

/-- What stands behind the last slash of a path, slashes at its end aside. -/
def lastComponent (path : List Char) : List Char :=
  ((splitAtLast '/' (path.rdropWhile (· = '/'))).map (·.2)).getD (path.rdropWhile (· = '/'))

theorem endsIn_iff {path name : List Char} : EndsIn path name ↔ name ≠ [] ∧ lastComponent path = name := by
  constructor
  · rintro ⟨hne, plain, before, slashes, hpath, hbefore, hslashes⟩
    refine ⟨hne, ?_⟩
    rw [lastComponent, rdropWhile_slashes hne plain hpath hslashes]
    rcases hbefore with rfl | hlast
    · rw [List.nil_append, splitAtLast_eq_none_iff.2 plain]
      rfl
    · obtain ⟨front, rfl⟩ := List.getLast?_eq_some_iff.1 hlast
      rw [List.append_assoc, List.singleton_append, splitAtLast_append plain]
      rfl
  · rintro ⟨hne, rfl⟩
    have hpath : path = path.rdropWhile (· = '/') ++ path.rtakeWhile (· = '/') := by simp
    have hslashes : ∀ c ∈ path.rtakeWhile (· = '/'), c = '/' :=
      fun c hc => by simpa using List.mem_rtakeWhile_imp hc
    rw [lastComponent] at hne ⊢
    cases hsplit : splitAtLast '/' (path.rdropWhile (· = '/')) with
    | some parts =>
      obtain ⟨before, last⟩ := parts
      rw [hsplit] at hne
      obtain ⟨hcut, plain⟩ := eq_of_splitAtLast hsplit
      refine ⟨hne, plain, before ++ ['/'], _, ?_, .inr (by simp), hslashes⟩
      rw [hcut] at hpath
      simpa using hpath
    | none =>
      rw [hsplit] at hne
      exact ⟨hne, splitAtLast_eq_none_iff.1 hsplit, [], _, hpath, .inl rfl, hslashes⟩

theorem packageOfDirectory?_eq (out : String) :
    Options.packageOfDirectory? out =
      if lastComponent out.toList = [] ∨ lastComponent out.toList = ['.'] ∨
          lastComponent out.toList = ['.', '.'] then none
      else some (String.ofList (lastComponent out.toList)) := by
  rw [Options.packageOfDirectory?, lastComponent, List.rdropWhile]
  cases splitAtLast '/' (out.toList.reverse.dropWhile (· = '/')).reverse <;> rfl

theorem packageOfDirectory?_eq_some_iff {out name : String} :
    Options.packageOfDirectory? out = some name ↔
      EndsIn out.toList name.toList ∧ name ≠ "." ∧ name ≠ ".." := by
  have hdot : ∀ s : String, name = s ↔ name.toList = s.toList := fun s => String.toList_inj.symm
  rw [endsIn_iff, packageOfDirectory?_eq]
  constructor
  · intro h
    split at h
    · cases h
    · next hlast =>
      cases h
      simp only [not_or] at hlast
      simp [hdot, hlast]
  · rintro ⟨⟨hne, hlast⟩, hhere, hparent⟩
    rw [Ne, hdot] at hhere hparent
    rw [hlast, if_neg, String.ofList_toList]
    rintro (h | h | h)
    · exact hne h
    · exact hhere h
    · exact hparent h

/-! ## The settled package -/

theorem packageOf_eq_ok_iff {d : OptionsDocument} {package : String} :
    Options.packageOf d = .ok package ↔ d.Names package := by
  rw [Options.packageOf]
  by_cases hpackage : d.package = ""
  · rw [if_pos hpackage]
    constructor
    · intro h
      cases hout : Options.packageOfDirectory? d.out with
      | some name =>
        rw [hout] at h
        cases h
        obtain ⟨hends, hhere, hparent⟩ := packageOfDirectory?_eq_some_iff.1 hout
        exact .directory hpackage hends hhere hparent
      | none =>
        rw [hout] at h
        cases h
    · intro h
      cases h with
      | given named => exact absurd hpackage named
      | directory _ ends notHere notParent =>
        rw [packageOfDirectory?_eq_some_iff.2 ⟨ends, notHere, notParent⟩]
  · rw [if_neg hpackage]
    constructor
    · rintro ⟨⟩
      exact .given hpackage
    · intro h
      cases h with
      | given _ => rfl
      | directory unnamed _ _ _ => exact absurd unnamed hpackage

/-- There is one thing that can be wrong with the package before its name is looked at. -/
theorem eq_of_packageOf_eq_error {d : OptionsDocument} {e : Error} (h : Options.packageOf d = .error e) :
    e = .config .noDirectoryForPackage := by
  rw [Options.packageOf] at h
  split at h
  · split at h
    · cases h
    · cases h
      rfl
  · cases h

theorem OptionsDocument.Names.ne_empty {d : OptionsDocument} {package : String} (h : d.Names package) :
    package ≠ "" := by
  cases h with
  | given named => exact named
  | directory _ ends _ _ => exact fun h => ends.1 (by simp [h])

/-- A document names at most one package. -/
theorem OptionsDocument.Names.unique {d : OptionsDocument} {package other : String} (h : d.Names package)
    (h' : d.Names other) : package = other :=
  Except.ok.inj ((packageOf_eq_ok_iff.2 h).symm.trans (packageOf_eq_ok_iff.2 h'))

end EntityModel
