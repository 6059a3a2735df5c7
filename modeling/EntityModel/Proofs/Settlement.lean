import EntityModel.Options.Settle
import Mathlib.Data.List.Forall2

/-!
# What accepted options documents settle to

`Options.settle` handles one option after the other and stops at the first that is refused. `Settled`
says of each option what it is in terms of the two documents, with no order among them, and
`settle_eq_ok_iff` that settling gives exactly these options. Proofs about accepted options start from
`Settled` (`ofDocumentsIn_eq_ok_iff`) and need not follow the steps again.
-/

namespace EntityModel

/-! ## Runs that succeed -/

theorem bind_eq_ok_iff {ε α β : Type} {x : Except ε α} {f : α → Except ε β} {b : β} :
    (x >>= f) = .ok b ↔ ∃ a, x = .ok a ∧ f a = .ok b := by
  cases x with
  | error e => simp [bind, Except.bind]
  | ok a => simp [bind, Except.bind]

theorem mapM_eq_ok_iff {ε α β : Type} {f : α → Except ε β} {xs : List α} {ys : List β} :
    xs.mapM f = .ok ys ↔ List.Forall₂ (fun x y => f x = .ok y) xs ys := by
  induction xs generalizing ys with
  | nil => simp [pure, Except.pure, eq_comm]
  | cons x xs ih =>
    rw [List.mapM_cons, bind_eq_ok_iff]
    constructor
    · rintro ⟨y, hy, h⟩
      obtain ⟨rest, hrest, h⟩ := bind_eq_ok_iff.1 h
      cases h
      exact .cons hy (ih.1 hrest)
    · intro h
      cases h with
      | @cons _ y _ rest hy hrest => exact ⟨y, hy, bind_eq_ok_iff.2 ⟨rest, ih.2 hrest, rfl⟩⟩

/-! ## The settled options -/

/-- The rule that an entry states, one for one and in the order of the entries. -/
def RulesOf (lib : Libraries) (engine : Engine) (defaultSchema : String) (entries : List OverrideSpec)
    (rules : List Override) : Prop :=
  List.Forall₂ (fun spec rule => Override.ofSpec lib spec engine defaultSchema = .ok rule) entries rules

/-- What the documents of a run and of a project say about each option of the result. -/
structure Settled (lib : Libraries) (engine : Engine) (fallbackSchema : String) (d : OptionsDocument)
    (g : GlobalOptionsDocument) (o : Options) : Prop where
  sameEngine : o.engine = engine
  package : Options.packageOf d = .ok o.package
  out : o.out = d.out
  defaultSchema : o.defaultSchema = d.defaultSchema.getD fallbackSchema
  clientPackage : ClientPackage.ofName d.clientPackage = .ok o.clientPackage
  driver : Driver.resolve o.clientPackage engine = .ok o.driver
  emitPointers : o.emitPointers = d.emitPointers
  exactTableNames : o.exactTableNames = d.exactTableNames
  /-- The rules of the project come before those of the run. -/
  overrides : RulesOf lib engine o.defaultSchema (g.overrides ++ d.overrides) o.overrides
  renames : o.renames = Options.mergeRenames d.renames g.renames
  uninflected : o.uninflected = d.uninflected
  initialisms : o.initialisms =
    match d.initialisms with
    | some words => Options.initialismsOf words
    | none => Options.defaultInitialisms
  primaryKeys : List.Forall₂ (fun e key => PrimaryKey.ofEntry e = .ok key) d.primaryKeys o.primaryKeys
  modelImport : o.modelImport = d.modelImport
  defaultValues : o.defaultValues = d.defaultValues

namespace Options

variable {lib : Libraries} {engine : Engine} {fallbackSchema : String} {d : OptionsDocument}
  {g : GlobalOptionsDocument} {o : Options}

theorem settle_eq_ok_iff :
    settle lib engine fallbackSchema d g = .ok o ↔ Settled lib engine fallbackSchema d g o := by
  constructor
  · intro h
    obtain ⟨package, hp, h⟩ := bind_eq_ok_iff.1 h
    obtain ⟨client, hc, h⟩ := bind_eq_ok_iff.1 h
    obtain ⟨rules, hr, h⟩ := bind_eq_ok_iff.1 h
    obtain ⟨keys, hk, h⟩ := bind_eq_ok_iff.1 h
    obtain ⟨driver, hd, h⟩ := bind_eq_ok_iff.1 h
    cases h
    exact {
      sameEngine := rfl, package := hp, out := rfl, defaultSchema := rfl, clientPackage := hc
      driver := hd, emitPointers := rfl, exactTableNames := rfl, overrides := mapM_eq_ok_iff.1 hr
      renames := rfl, uninflected := rfl, initialisms := rfl, primaryKeys := mapM_eq_ok_iff.1 hk
      modelImport := rfl, defaultValues := rfl }
  · intro h
    cases o
    obtain ⟨rfl, hp, rfl, rfl, hc, hd, rfl, rfl, hr, rfl, rfl, rfl, hk, rfl, rfl⟩ := h
    refine bind_eq_ok_iff.2 ⟨_, hp, bind_eq_ok_iff.2 ⟨_, hc, ?_⟩⟩
    refine bind_eq_ok_iff.2 ⟨_, mapM_eq_ok_iff.2 hr, bind_eq_ok_iff.2 ⟨_, mapM_eq_ok_iff.2 hk, ?_⟩⟩
    exact bind_eq_ok_iff.2 ⟨_, hd, rfl⟩

/-- Documents are accepted exactly if both can be read and what they settle to passes the checks. -/
theorem ofDocumentsIn_eq_ok_iff {run project : Json} :
    ofDocumentsIn lib engine fallbackSchema run project = .ok o ↔
      ∃ d g, readRun run = .ok d ∧ readProject project = .ok g ∧
        Settled lib engine fallbackSchema d g o ∧ o.validate lib = .ok () := by
  constructor
  · intro h
    obtain ⟨d, hd, h⟩ := bind_eq_ok_iff.1 h
    obtain ⟨g, hg, h⟩ := bind_eq_ok_iff.1 h
    obtain ⟨o', hs, h⟩ := bind_eq_ok_iff.1 h
    obtain ⟨_, hv, h⟩ := bind_eq_ok_iff.1 h
    cases h
    exact ⟨d, g, hd, hg, settle_eq_ok_iff.1 hs, hv⟩
  · rintro ⟨d, g, hd, hg, hs, hv⟩
    refine bind_eq_ok_iff.2 ⟨d, hd, bind_eq_ok_iff.2 ⟨g, hg, ?_⟩⟩
    exact bind_eq_ok_iff.2 ⟨o, settle_eq_ok_iff.2 hs, bind_eq_ok_iff.2 ⟨(), hv, rfl⟩⟩

/-- The options of a request depend on its catalog only through the default schema. -/
theorem ofRequest_withCatalog {r : Request} {c : Catalog} (h : c.defaultSchema = r.catalog.defaultSchema) :
    ofRequest lib { r with catalog := c } = ofRequest lib r := by
  unfold ofRequest
  rw [h]

end Options

theorem settled_of_ofRequest {lib : Libraries} {r : Request} {o : Options} (h : Options.ofRequest lib r = .ok o) :
    ∃ engine fallbackSchema d g, Settled lib engine fallbackSchema d g o := by
  obtain ⟨engine, -, h⟩ := bind_eq_ok_iff.1 h
  obtain ⟨d, g, -, -, hs, -⟩ := Options.ofDocumentsIn_eq_ok_iff.1 h
  exact ⟨engine, _, d, g, hs⟩

end EntityModel
