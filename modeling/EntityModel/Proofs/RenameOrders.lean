import EntityModel.Proofs.Settlement

/-!
# Renames in another order

The checks on settled options stop at the first empty rename that they visit, and a hash table has an order of its own
in each run. So two runs on the same documents may name different ones of several empty renames. They have nothing
else to disagree on: `Alike` results are the same but for that.

Main statements: options are settled alike in whatever order their renames are visited (`ofDocumentsIn_alike`,
`ofRequest_alike`).
-/

namespace EntityModel

/-- The entries from the last to the first. -/
def RenameOrder.reversed : RenameOrder := ⟨List.reverse, List.reverse_perm⟩

/-! ## Results that are alike -/

/-- An error for an empty rename out of a list. -/
inductive BlamesRename (renames : List (String × String)) : Error → Prop where
  | intro {source target : String} (listed : (source, target) ∈ renames) (empty : source = "" ∨ target = "") :
    BlamesRename renames (.config (.emptyRename source target))

/-- Results that are the same, or two errors for empty renames out of a list. -/
inductive Alike {α : Type} (renames : List (String × String)) : Except Error α → Except Error α → Prop where
  | same (x : Except Error α) : Alike renames x x
  | renames {e e' : Error} (left : BlamesRename renames e) (right : BlamesRename renames e') :
    Alike renames (.error e) (.error e')

theorem BlamesRename.exitCode {renames : List (String × String)} {e : Error} (h : BlamesRename renames e) :
    e.exitCode = Error.configExitCode := by
  cases h
  rfl

namespace Alike

variable {α β : Type} {renames : List (String × String)} {x y : Except Error α}

theorem eq_ok_iff (h : Alike renames x y) {a : α} : x = .ok a ↔ y = .ok a := by
  cases h with
  | same => exact .rfl
  | renames => exact ⟨nofun, nofun⟩

/-- Steps that go on from results that are alike. -/
theorem bind (h : Alike renames x y) (f : α → Except Error β) : Alike renames (x >>= f) (y >>= f) := by
  cases h with
  | same => exact .same _
  | renames left right => exact .renames left right

/-- Steps that are alike, wherever they are taken. -/
theorem of_bind {f g : α → Except Error β} (h : ∀ a, x = .ok a → Alike renames (f a) (g a)) :
    Alike renames (x >>= f) (x >>= g) := by
  cases x with
  | error e => exact .same _
  | ok a => exact h a rfl

end Alike

/-! ## Settling -/

namespace Options

variable {lib : Libraries} {order : RenameOrder}

/-- The renames that two documents settle to, none if one of them cannot be read. -/
def renamesOf (run project : Json) : List (String × String) :=
  match readRun run, readProject project with
  | .ok d, .ok g => mergeRenames d.renames g.renames
  | _, _ => []

theorem validate_alike (o : Options) : Alike o.renames (o.validate { lib with order }) (o.validate lib) := by
  have listed {order : RenameOrder} {r : String × String}
      (h : (order.visit o.renames).find? (fun r => r.1 = "" || r.2 = "") = some r) :
      r ∈ o.renames ∧ (r.1 = "" ∨ r.2 = "") :=
    ⟨order.mem_visit.1 (List.mem_of_find?_eq_some h), by simpa using List.find?_some h⟩
  have unlisted {order : RenameOrder}
      (h : (order.visit o.renames).find? (fun r => r.1 = "" || r.2 = "") = none) {r : String × String}
      (hr : r ∈ o.renames) : ¬ (r.1 = "" ∨ r.2 = "") := by
    simpa using List.find?_eq_none.1 h r (order.mem_visit.2 hr)
  unfold validate
  split
  · exact .same _
  split
  · exact .same _
  split
  · exact .same _
  cases h : (order.visit o.renames).find? fun r => r.1 = "" || r.2 = "" with
  | some r =>
    cases h' : (lib.order.visit o.renames).find? fun r => r.1 = "" || r.2 = "" with
    | some r' => exact .renames (.intro (listed h).1 (listed h).2) (.intro (listed h').1 (listed h').2)
    | none => exact absurd (listed h).2 (unlisted h' (listed h).1)
  | none =>
    cases h' : (lib.order.visit o.renames).find? fun r => r.1 = "" || r.2 = "" with
    | some r' => exact absurd (listed h').2 (unlisted h (listed h').1)
    | none => exact .same _

variable (lib order)

/-- Two documents settle alike in whatever order the renames are visited. -/
theorem ofDocumentsIn_alike (engine : Engine) (fallbackSchema : String) (run project : Json) :
    Alike (renamesOf run project) (ofDocumentsIn { lib with order } engine fallbackSchema run project)
      (ofDocumentsIn lib engine fallbackSchema run project) := by
  refine .of_bind fun d hd => .of_bind fun g hg => ?_
  have hrenames : renamesOf run project = mergeRenames d.renames g.renames := by rw [renamesOf, hd, hg]
  refine .of_bind (x := settle lib engine fallbackSchema d g) fun o ho => ?_
  rw [hrenames, ← (settle_eq_ok_iff.1 ho).renames]
  exact (validate_alike o).bind _

/-- The document of a run that gives its package only. -/
def packageRun : Json := .array [.string "db"]

/-- The document of a project with two empty renames. -/
def emptyRenames : Json := .object [("rename", .object [("", .string "x"), ("a", .string "")])]

/-- Each order names another one of the two. -/
example : ofDocuments .standard .mysql packageRun emptyRenames = .error (.config (.emptyRename "" "x")) ∧
    ofDocuments { Libraries.standard with order := .reversed } .mysql packageRun emptyRenames =
      .error (.config (.emptyRename "a" "")) := by decide

theorem ofRequest_alike (r : Request) :
    Alike (renamesOf r.options r.globalOptions) (ofRequest { lib with order } r) (ofRequest lib r) :=
  .of_bind fun engine _ => ofDocumentsIn_alike lib order engine _ r.options r.globalOptions

end Options

end EntityModel
