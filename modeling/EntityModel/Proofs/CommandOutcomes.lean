import EntityModel.CommandLine
import EntityModel.Proofs.Collector
import EntityModel.Proofs.Overflow
import EntityModel.Proofs.Refusals
import EntityModel.Proofs.RenameOrders

/-!
# What the commands agree on

`validate` stops after the options and `resolve` goes on to the generation, which refuses nothing by itself. So both
refuse the same files, with nothing printed, and the exit code tells whether the file could be read as text. The errors
are the same, unless the runs visit the renames in different orders and name different ones of several empty renames.

A file that is not refused has its generation printed, if nothing is in the way: dimensions that overflow, or a name in
the summary that is too wide to be laid out (`Stuck`). The strict form of `resolve` prints what the other form prints,
and only its exit code tells that a column has no known type.

Main statement: `run_agree`. What can be in the way of an accepted file is in the way of one with a long rename
(`runRequest_wide`).
-/

namespace EntityModel

/-! ## Exit codes of refused requests -/

/-- The content of a file is there and is text. -/
def IsText (content : Except FileError ByteArray) : Prop :=
  ∃ bytes text, content = .ok bytes ∧ String.fromUTF8? bytes = some text

namespace Request

variable {lib : Libraries} {format : Format} {e : Error}

theorem exitCode_of_ofText {text : String} (h : ofText lib format text = .error e) :
    e.exitCode = Error.configExitCode := by
  have herror (fault : Document.Fault) : (format.error fault).exitCode = Error.configExitCode := by
    cases format <;> rfl
  unfold ofText at h
  split at h
  · obtain ⟨fault, -, rfl⟩ := mapError_eq_error_iff.1 h
    exact herror fault
  · cases h
    exact herror _

/-- A file that is text is read or refused for what it says; any other file is refused as a file. -/
theorem ofFile_cases (lib : Libraries) (fileName : String) (content : Except FileError ByteArray) :
    (IsText content ∧ ∃ text, ofFile lib fileName content = ofText lib (.ofFileName fileName) text) ∨
      (¬ IsText content ∧ ∃ cause, ofFile lib fileName content = .error (.file cause)) := by
  cases content with
  | error cause =>
    refine .inr ⟨?_, cause, rfl⟩
    rintro ⟨_, _, h, -⟩
    cases h
  | ok bytes =>
    cases htext : String.fromUTF8? bytes with
    | some text =>
      refine .inl ⟨⟨bytes, text, rfl, htext⟩, text, ?_⟩
      simp only [ofFile, Except.mapError, bind, Except.bind, htext]
    | none =>
      refine .inr ⟨?_, .notText, ?_⟩
      · rintro ⟨_, _, h, h'⟩
        cases h
        rw [htext] at h'
        cases h'
      · simp only [ofFile, Except.mapError, bind, Except.bind, htext]

variable {fileName : String} {content : Except FileError ByteArray}

theorem isText_of_ofFile {r : Request} (h : ofFile lib fileName content = .ok r) : IsText content := by
  rcases ofFile_cases lib fileName content with ⟨isText, -⟩ | ⟨-, _, hfile⟩
  · exact isText
  · cases hfile.symm.trans h

theorem exitCode_of_ofFile (h : ofFile lib fileName content = .error e) :
    (IsText content ∧ e.exitCode = Error.configExitCode) ∨ (¬ IsText content ∧ e.exitCode = Error.fileExitCode) := by
  rcases ofFile_cases lib fileName content with ⟨isText, text, hfile⟩ | ⟨notText, _, hfile⟩
  · exact .inl ⟨isText, exitCode_of_ofText (hfile ▸ h)⟩
  · cases hfile.symm.trans h
    exact .inr ⟨notText, rfl⟩

end Request

/-- Settling the options of a request fails for its configuration only. -/
theorem Options.exitCode_of_ofRequest {lib : Libraries} {r : Request} {e : Error}
    (h : Options.ofRequest lib r = .error e) : e.exitCode = Error.configExitCode := by
  unfold Options.ofRequest Engine.ofName at h
  cases hengine : Engine.ofName? r.engineName with
  | none =>
    rw [hengine] at h
    cases h
    rfl
  | some engine =>
    rw [hengine] at h
    exact Options.exitCode_of_ofDocumentsIn h

/-! ## Summaries that cannot be laid out -/

theorem foldl_max_le_iff {widths : List Nat} {first bound : Nat} :
    widths.foldl max first ≤ bound ↔ first ≤ bound ∧ ∀ width ∈ widths, width ≤ bound := by
  induction widths generalizing first with
  | nil => simp
  | cons width rest ih => rw [List.foldl_cons, ih, Nat.max_le, List.forall_mem_cons, and_assoc]

namespace Entity

/-- A name of a field is too wide for its column. -/
def TooWide (e : Entity) : Prop := ∃ f ∈ e.fields, maxWidth < f.name.utf8ByteSize

theorem tooWide_iff {e : Entity} : e.TooWide ↔ maxWidth < e.nameWidth := by
  rw [← Nat.not_le, nameWidth, foldl_max_le_iff]
  simp [TooWide]

theorem none_mem_lines_iff {e : Entity} {imports : List Import} : none ∈ e.lines imports ↔ e.TooWide := by
  have hfields : none ∈ e.fields.map (fieldLine e.nameWidth) ↔ e.TooWide := by
    constructor
    · intro h
      obtain ⟨f, -, hline⟩ := List.mem_map.1 h
      by_contra hfits
      rw [fieldLine, if_neg (fun hwide => hfits (tooWide_iff.2 hwide))] at hline
      cases hline
    · rintro ⟨f, hf, hwide⟩
      exact List.mem_map.2 ⟨f, hf, if_pos (tooWide_iff.1 ⟨f, hf, hwide⟩)⟩
  simp [lines, hfields]

end Entity

theorem Generation.none_mem_lines_iff {g : Generation} {all : Bool} :
    none ∈ g.lines all ↔ ∃ e ∈ g.listed all, e.TooWide := by
  simp [lines, Entity.none_mem_lines_iff]

namespace CommandLine

/-! ## What is in the way of a generation -/

/-- What `resolve` runs into with these options and this catalog. Nothing is laid out where dimensions overflow. -/
inductive Stuck (o : Options) (c : Catalog) (json all : Bool) : Abort → Prop where
  | overflow {t : Table} {column : Column} (table : t ∈ c.userTables) (listed : column ∈ t.columns)
      (overflows : column.Overflows o (.ofCatalog o c)) : Stuck o c json all .overflow
  | width {e : Entity} (fit : ∀ t ∈ c.userTables, ∀ column ∈ t.columns, ¬ column.Overflows o (.ofCatalog o c))
      (summary : json = false) (listed : e ∈ (Generation.ofCatalog o c).listed all) (wide : e.TooWide) :
    Stuck o c json all .width

/-- The outcome of `resolve` for a generation that is printed. -/
def printedOutcome (g : Generation) (json all strict : Bool) : Outcome :=
  if strict = true ∧ g.diagnostics ≠ [] then
    .failure (printed (generationLines g json all)) (.config (.unresolvedColumns g.diagnostics.length))
  else .success (printed (generationLines g json all))

theorem stdout_printedOutcome (g : Generation) (json all strict : Bool) :
    (printedOutcome g json all strict).stdout = printed (generationLines g json all) := by
  unfold printedOutcome
  split <;> rfl

theorem exitCode_printedOutcome (g : Generation) (json all strict : Bool) :
    (printedOutcome g json all strict).exitCode = if strict = true ∧ g.diagnostics ≠ [] then 1 else 0 := by
  unfold printedOutcome
  split <;> rfl

/-- The outcome of `resolve` where something is in the way of the generation. -/
def abortedOutcome (g : Generation) (json all : Bool) : Abort → Outcome
  | .overflow => .aborted "" .overflow
  | .width => .aborted (printed (generationLines g json all)) .width

theorem generationOutcome_eq (g : Generation) (json all strict : Bool) :
    generationOutcome g json all strict =
      if none ∈ generationLines g json all then abortedOutcome g json all .width
      else printedOutcome g json all strict := by
  have hany : (generationLines g json all).any (·.isNone) = true ↔ none ∈ generationLines g json all := by
    simp [List.any_eq_true]
  have hstrict : (strict && !g.diagnostics.isEmpty) = true ↔ strict = true ∧ g.diagnostics ≠ [] := by simp
  unfold generationOutcome printedOutcome abortedOutcome
  simp only [hany, hstrict]

theorem none_mem_generationLines_iff {g : Generation} {json all : Bool} :
    none ∈ generationLines g json all ↔ json = false ∧ ∃ e ∈ g.listed all, e.TooWide := by
  cases json with
  | false => simp [generationLines, Generation.none_mem_lines_iff]
  | true => simp [generationLines]

/-- A request whose options are refused is refused by every command, with nothing printed. -/
theorem runRequest_of_error {lib : Libraries} {r : Request} {e : Error} (refused : Options.ofRequest lib r = .error e)
    (command : Command) (json : Bool) : runRequest lib command json r = .failure "" e := by
  cases command with
  | validate => simp only [runRequest, refused]
  | resolve all strict =>
    have hgeneration : Generation.ofRequest? lib r = .error e := by
      rw [Generation.ofRequest?, refused]
      rfl
    simp only [runRequest, hgeneration]

theorem runRequest_resolve {lib : Libraries} {r : Request} {o : Options} (settled : Options.ofRequest lib r = .ok o)
    (json all strict : Bool) :
    runRequest lib (.resolve all strict) json r =
      (Generation.ofCatalog? o r.catalog).elim (.aborted "" .overflow) (generationOutcome · json all strict) := by
  have hgeneration : Generation.ofRequest? lib r = .ok (Generation.ofCatalog? o r.catalog) :=
    bind_eq_ok_iff.2 ⟨o, settled, rfl⟩
  unfold runRequest
  simp only [hgeneration]
  cases Generation.ofCatalog? o r.catalog <;> rfl

/-- A request whose options are settled has its generation printed, or the run is aborted for what is in the way. -/
theorem runRequest_cases (r : Request) (o : Options) (json all : Bool) :
    ((∀ reason, ¬ Stuck o r.catalog json all reason) ∧
        ∀ lib strict, Options.ofRequest lib r = .ok o →
          runRequest lib (.resolve all strict) json r = printedOutcome (.ofCatalog o r.catalog) json all strict) ∨
      ∃ reason, Stuck o r.catalog json all reason ∧
        ∀ lib strict, Options.ofRequest lib r = .ok o →
          runRequest lib (.resolve all strict) json r = abortedOutcome (.ofCatalog o r.catalog) json all reason := by
  rcases Generation.ofCatalog?_cases o r.catalog with ⟨hsome, fit⟩ | ⟨hnone, t, ht, column, hcolumn, overflows⟩
  · by_cases hwide : none ∈ generationLines (.ofCatalog o r.catalog) json all
    · obtain ⟨summary, e, listed, wide⟩ := none_mem_generationLines_iff.1 hwide
      refine .inr ⟨.width, .width fit summary listed wide, fun lib strict settled => ?_⟩
      rw [runRequest_resolve settled, hsome, Option.elim_some, generationOutcome_eq, if_pos hwide]
    · refine .inl ⟨fun reason stuck => ?_, fun lib strict settled => ?_⟩
      · cases stuck with
        | overflow table listed overflows => exact fit _ table _ listed overflows
        | width _ summary listed wide => exact hwide (none_mem_generationLines_iff.2 ⟨summary, _, listed, wide⟩)
      · rw [runRequest_resolve settled, hsome, Option.elim_some, generationOutcome_eq, if_neg hwide]
  · refine .inr ⟨.overflow, .overflow ht hcolumn overflows, fun lib strict settled => ?_⟩
    rw [runRequest_resolve settled, hnone, Option.elim_none]
    rfl

/-! ## Runs on a file -/

section

variable (lib : Libraries) (json json' all : Bool) (fileName : String) (content : Except FileError ByteArray)

/-- The file holds a request, and its options are settled. -/
structure Accepted (r : Request) (o : Options) : Prop where
  read : Request.ofFile lib fileName content = .ok r
  settled : Options.ofRequest lib r = .ok o

/-- Errors about a file that are the same but for the empty rename that they name. -/
def SameRefusal (e e' : Error) : Prop :=
  e = e' ∨ ∃ r, Request.ofFile lib fileName content = .ok r ∧
    BlamesRename (Options.renamesOf r.options r.globalOptions) e ∧
    BlamesRename (Options.renamesOf r.options r.globalOptions) e'

/-- What `validate`, `resolve` and its strict form leave behind for a file. -/
inductive Agree : Outcome → Outcome → Outcome → Prop where
  | printed {r : Request} {o : Options} (isText : IsText content) (accepted : Accepted lib fileName content r o)
      (free : ∀ reason, ¬ Stuck o r.catalog json' all reason) :
    Agree (.success (optionsText o json)) (printedOutcome (.ofCatalog o r.catalog) json' all false)
      (printedOutcome (.ofCatalog o r.catalog) json' all true)
  | aborted {r : Request} {o : Options} {reason : Abort} (isText : IsText content)
      (accepted : Accepted lib fileName content r o) (stuck : Stuck o r.catalog json' all reason) :
    Agree (.success (optionsText o json)) (abortedOutcome (.ofCatalog o r.catalog) json' all reason)
      (abortedOutcome (.ofCatalog o r.catalog) json' all reason)
  | refused {e e' e'' : Error} (unaccepted : ∀ r o, ¬ Accepted lib fileName content r o)
      (exitCode : (IsText content ∧ e.exitCode = 1) ∨ (¬ IsText content ∧ e.exitCode = 7))
      (resolve : SameRefusal lib fileName content e e') (strict : SameRefusal lib fileName content e e'') :
    Agree (.failure "" e) (.failure "" e') (.failure "" e'')

end

variable {lib : Libraries} {json json' all : Bool} {fileName : String} {content : Except FileError ByteArray}

theorem run_of_read {r : Request} (read : Request.ofFile lib fileName content = .ok r) (command : Command) :
    run lib command json fileName content = runRequest lib command json r := by
  rw [run, read]

theorem run_of_unread {e : Error} (unread : Request.ofFile lib fileName content = .error e) (command : Command) :
    run lib command json fileName content = .failure "" e := by
  rw [run, unread]

theorem Accepted.unique {r r' : Request} {o o' : Options} (h : Accepted lib fileName content r o)
    (h' : Accepted lib fileName content r' o') : r = r' ∧ o = o' := by
  cases h.read.symm.trans h'.read
  cases h.settled.symm.trans h'.settled
  exact ⟨rfl, rfl⟩

theorem SameRefusal.exitCode {e e' : Error} (h : SameRefusal lib fileName content e e') :
    e.exitCode = e'.exitCode := by
  rcases h with rfl | ⟨_, _, left, right⟩
  · rfl
  · rw [left.exitCode, right.exitCode]

/-- Two runs that visit renames in different orders refuse a request alike. -/
theorem SameRefusal.of_orders {r : Request} (read : Request.ofFile lib fileName content = .ok r) {e : Error}
    (refused : Options.ofRequest lib r = .error e) (order : RenameOrder) :
    ∃ e', Options.ofRequest { lib with order } r = .error e' ∧ SameRefusal lib fileName content e e' := by
  have halike := Options.ofRequest_alike lib order r
  rw [refused] at halike
  generalize Options.ofRequest { lib with order } r = x at halike ⊢
  cases halike with
  | same => exact ⟨e, rfl, .inl rfl⟩
  | renames left right => exact ⟨_, rfl, .inr ⟨r, read, right, left⟩⟩

/-- A file that holds no request is refused alike by all commands. -/
theorem Agree.of_unread {e : Error} (unread : Request.ofFile lib fileName content = .error e) :
    Agree lib json json' all fileName content (.failure "" e) (.failure "" e) (.failure "" e) := by
  refine .refused ?_ (Request.exitCode_of_ofFile unread) (.inl rfl) (.inl rfl)
  rintro r o ⟨read, -⟩
  rw [unread] at read
  cases read

section

variable {r : Request} (read : Request.ofFile lib fileName content = .ok r) (order order' : RenameOrder)

include read

theorem Agree.of_refused {e : Error} (refused : Options.ofRequest lib r = .error e) :
    Agree lib json json' all fileName content (runRequest lib .validate json r)
      (runRequest { lib with order } (.resolve all false) json' r)
      (runRequest { lib with order := order' } (.resolve all true) json' r) := by
  obtain ⟨e', hresolve, same⟩ := SameRefusal.of_orders read refused order
  obtain ⟨e'', hstrict, same'⟩ := SameRefusal.of_orders read refused order'
  rw [runRequest_of_error refused, runRequest_of_error hresolve, runRequest_of_error hstrict]
  have isText : IsText content := Request.isText_of_ofFile read
  refine .refused ?_ (.inl ⟨isText, Options.exitCode_of_ofRequest refused⟩) same same'
  rintro r' o ⟨read', settled⟩
  cases read.symm.trans read'
  rw [refused] at settled
  cases settled

/-- Options are settled in every order if they are in one. -/
theorem Agree.of_settled {o : Options} (settled : Options.ofRequest lib r = .ok o) :
    Agree lib json json' all fileName content (runRequest lib .validate json r)
      (runRequest { lib with order } (.resolve all false) json' r)
      (runRequest { lib with order := order' } (.resolve all true) json' r) := by
  have settledIn (order : RenameOrder) : Options.ofRequest { lib with order } r = .ok o :=
    (Options.ofRequest_alike lib order r).eq_ok_iff.2 settled
  have hvalidate : runRequest lib .validate json r = .success (optionsText o json) := by
    simp only [runRequest, settled]
  have isText : IsText content := Request.isText_of_ofFile read
  rw [hvalidate]
  rcases runRequest_cases r o json' all with ⟨free, hprinted⟩ | ⟨reason, stuck, haborted⟩
  · rw [hprinted _ _ (settledIn order), hprinted _ _ (settledIn order')]
    exact .printed isText ⟨read, settled⟩ free
  · rw [haborted _ _ (settledIn order), haborted _ _ (settledIn order')]
    exact .aborted isText ⟨read, settled⟩ stuck

end

/-- A generation with a diagnostic is printed for the file. -/
def PrintsDiagnostics (lib : Libraries) (json all : Bool) (fileName : String)
    (content : Except FileError ByteArray) : Prop :=
  ∃ r o, Accepted lib fileName content r o ∧ (∀ reason, ¬ Stuck o r.catalog json all reason) ∧
    (Generation.ofCatalog o r.catalog).diagnostics ≠ []

theorem Agree.strict {validate resolve strict : Outcome}
    (h : Agree lib json json' all fileName content validate resolve strict) :
    strict.stdout = resolve.stdout ∧
      (strict.exitCode ≠ resolve.exitCode ↔ PrintsDiagnostics lib json' all fileName content) ∧
      (strict.exitCode ≠ resolve.exitCode → resolve.exitCode = 0 ∧ strict.exitCode = 1) := by
  cases h with
  | @printed r o _ accepted free =>
    have hprints : PrintsDiagnostics lib json' all fileName content ↔
        (Generation.ofCatalog o r.catalog).diagnostics ≠ [] := by
      constructor
      · rintro ⟨r', o', accepted', -, hdiagnostics⟩
        obtain ⟨rfl, rfl⟩ := accepted.unique accepted'
        exact hdiagnostics
      · exact fun hdiagnostics => ⟨r, o, accepted, free, hdiagnostics⟩
    simp only [stdout_printedOutcome, exitCode_printedOutcome, hprints]
    by_cases hdiagnostics : (Generation.ofCatalog o r.catalog).diagnostics = []
    · simp [hdiagnostics]
    · simp [hdiagnostics]
  | aborted _ accepted stuck =>
    have hnot : ¬ PrintsDiagnostics lib json' all fileName content := by
      rintro ⟨r', o', accepted', free, -⟩
      obtain ⟨rfl, rfl⟩ := accepted.unique accepted'
      exact free _ stuck
    simp [hnot]
  | @refused e e' e'' unaccepted _ resolve strict =>
    have hnot : ¬ PrintsDiagnostics lib json' all fileName content := by
      rintro ⟨r, o, accepted, -⟩
      exact unaccepted r o accepted
    have hcode : e''.exitCode = e'.exitCode := strict.exitCode.symm.trans resolve.exitCode
    simp [hnot, Outcome.failure, hcode]

/-- **What the commands agree on.** Whatever a file is called and holds, and in whatever form it is answered: the
commands accept the same files, and for any other file they print nothing and fail with exit code 1 if it is text and 7
if it is not, with one error or with errors for different ones of several empty renames. On a file that is accepted
`validate` succeeds and `resolve` prints the generation, unless something is in its way. The strict form prints the
same, and its exit code is 1 instead of 0 exactly if the generation has a diagnostic. -/
theorem run_agree (lib : Libraries) (order order' : RenameOrder) (json json' all : Bool) (fileName : String)
    (content : Except FileError ByteArray) :
    let validate := run lib .validate json fileName content
    let resolve := run { lib with order } (.resolve all false) json' fileName content
    let strict := run { lib with order := order' } (.resolve all true) json' fileName content
    Agree lib json json' all fileName content validate resolve strict ∧
      strict.stdout = resolve.stdout ∧
      (strict.exitCode ≠ resolve.exitCode ↔ PrintsDiagnostics lib json' all fileName content) ∧
      (strict.exitCode ≠ resolve.exitCode → resolve.exitCode = 0 ∧ strict.exitCode = 1) := by
  intro validate resolve strict
  suffices h : Agree lib json json' all fileName content validate resolve strict from ⟨h, h.strict⟩
  -- A file is read without regard to the order of renames.
  have hread (order : RenameOrder) : Request.ofFile { lib with order } fileName content =
      Request.ofFile lib fileName content := rfl
  cases read : Request.ofFile lib fileName content with
  | error e =>
    have hvalidate : validate = .failure "" e := run_of_unread read _
    have hresolve : resolve = .failure "" e := run_of_unread ((hread order).trans read) _
    have hstrict : strict = .failure "" e := run_of_unread ((hread order').trans read) _
    rw [hvalidate, hresolve, hstrict]
    exact .of_unread read
  | ok r =>
    have hvalidate : validate = runRequest lib .validate json r := run_of_read read _
    have hresolve : resolve = runRequest { lib with order } (.resolve all false) json' r :=
      run_of_read ((hread order).trans read) _
    have hstrict : strict = runRequest { lib with order := order' } (.resolve all true) json' r :=
      run_of_read ((hread order').trans read) _
    rw [hvalidate, hresolve, hstrict]
    cases settled : Options.ofRequest lib r with
    | error e => exact .of_refused read order order' settled
    | ok o => exact .of_settled read order order' settled

/-! ## A name that is too wide -/

/-- A table with a key and another column. -/
def renamingTable : Table where
  rel := { name := "users" }
  columns := [{ name := "id", notNull := true, type := { name := "int4" } },
    { name := "notes", notNull := true, type := { name := "text" } }]

/-- A catalog with nothing but this table. -/
def renamingCatalog : Catalog where
  schemas := [{ name := "public", tables := [renamingTable] }]

/-- A request that renames the second column. -/
def renamingRequest (renamed : String) : Request where
  engineName := "postgresql"
  catalog := renamingCatalog
  options := .object [("package", .string "db"), ("rename", .object [("notes", .string renamed)])]

/-- The options of this request. -/
def renamingOptions (renamed : String) : Options :=
  { Options.new .postgresql "db" with renames := [("notes", renamed)] }

theorem ofRequest_renaming {renamed : String} (h : renamed ≠ "") :
    Options.ofRequest .standard (renamingRequest renamed) = .ok (renamingOptions renamed) := by
  have hpackage : (renamingOptions renamed).package = "db" := rfl
  have hinitialisms : (renamingOptions renamed).initialisms = ["id"] := rfl
  have hvisit : Libraries.standard.order.visit (renamingOptions renamed).renames = [("notes", renamed)] := rfl
  have hvalid : (renamingOptions renamed).validate .standard = .ok () := by
    rw [Options.validate, hpackage, hinitialisms, hvisit, if_neg (by decide), if_neg (by decide), if_neg (by decide)]
    simp [h]
  show (renamingOptions renamed).validated .standard = .ok (renamingOptions renamed)
  rw [Options.validated, hvalid]
  rfl

/-- The entity of the table. -/
def renamingEntity (renamed : String) : Entity :=
  (renamingOptions renamed).entityOf (.ofCatalog (renamingOptions renamed) renamingCatalog)
    (renamingTable.qualify "public")

theorem renaming_fits (renamed : String) : ∀ t ∈ renamingCatalog.userTables, ∀ column ∈ t.columns,
    ¬ column.Overflows (renamingOptions renamed) (.ofCatalog (renamingOptions renamed) renamingCatalog) := by
  intro t ht column hcolumn
  cases List.mem_singleton.1 (show t ∈ [renamingTable.qualify "public"] from ht)
  rw [← Options.isSome_resolve?_iff]
  rcases List.mem_pair.1 hcolumn with rfl | rfl
  · rfl
  · rfl

theorem renaming_listed (renamed : String) :
    renamingEntity renamed ∈ (Generation.ofCatalog (renamingOptions renamed) renamingCatalog).listed false := by
  have hentities : (Generation.ofCatalog (renamingOptions renamed) renamingCatalog).entities =
      [renamingEntity renamed] := by
    rw [Generation.ofCatalog_eq]
    exact List.mergeSort_singleton _
  show _ ∈ List.filter Entity.isRenderable _
  rw [hentities]
  exact List.mem_filter.2 ⟨List.mem_singleton_self _, rfl⟩

/-- A rename to so wide a name is accepted, but the summary cannot be laid out. Written as JSON, the same generation is
printed. -/
theorem runRequest_renaming {renamed : String} (wide : Entity.maxWidth < renamed.utf8ByteSize) :
    runRequest .standard .validate false (renamingRequest renamed) =
        .success (optionsText (renamingOptions renamed) false) ∧
      (runRequest .standard (.resolve false false) false (renamingRequest renamed)).exitCode = 101 ∧
      (runRequest .standard (.resolve false false) true (renamingRequest renamed)).exitCode = 0 := by
  have settled : Options.ofRequest .standard (renamingRequest renamed) = .ok (renamingOptions renamed) := by
    refine ofRequest_renaming fun hempty => ?_
    rw [hempty] at wide
    exact absurd wide (by decide)
  have fits := renaming_fits renamed
  have tooWide : (renamingEntity renamed).TooWide := ⟨_, List.mem_pair.2 (.inr rfl), wide⟩
  have stuck : Stuck (renamingOptions renamed) renamingCatalog false false .width :=
    .width fits rfl (renaming_listed renamed) tooWide
  refine ⟨by simp only [runRequest, settled], ?_, ?_⟩
  · rcases runRequest_cases (renamingRequest renamed) (renamingOptions renamed) false false with
      ⟨free, -⟩ | ⟨reason, _, haborted⟩
    · exact absurd stuck (free _)
    · rw [haborted _ _ settled]
      cases reason <;> rfl
  · rcases runRequest_cases (renamingRequest renamed) (renamingOptions renamed) true false with
      ⟨-, hprinted⟩ | ⟨_, stuck', -⟩
    · rw [hprinted _ _ settled, exitCode_printedOutcome]
      rfl
    · cases stuck' with
      | overflow table listed overflows => exact absurd overflows (fits _ table _ listed)
      | width _ summary _ _ => cases summary

/-- A name of so many letters, one byte each. -/
def longName (letters : Nat) : String := String.ofList (List.replicate letters 'A')

theorem utf8ByteSize_longName (letters : Nat) : (longName letters).utf8ByteSize = letters := by
  have ascii : Text.IsAscii (List.replicate letters 'A') := by
    intro c hc
    rw [List.eq_of_mem_replicate hc]
    decide
  rw [longName, Text.utf8ByteSize_of_ascii ascii, List.length_replicate]

/-- **A name can be too wide.** No dimension of the catalog overflows, `validate` succeeds, and `resolve` is aborted. -/
theorem runRequest_wide :
    (∀ t ∈ renamingCatalog.userTables, ∀ column ∈ t.columns, ¬ column.Overflows (renamingOptions (longName 65536))
        (.ofCatalog (renamingOptions (longName 65536)) renamingCatalog)) ∧
      runRequest .standard .validate false (renamingRequest (longName 65536)) =
        .success (optionsText (renamingOptions (longName 65536)) false) ∧
      (runRequest .standard (.resolve false false) false (renamingRequest (longName 65536))).exitCode = 101 ∧
      (runRequest .standard (.resolve false false) true (renamingRequest (longName 65536))).exitCode = 0 := by
  have wide : Entity.maxWidth < (longName 65536).utf8ByteSize := by
    rw [utf8ByteSize_longName]
    decide
  exact ⟨renaming_fits _, runRequest_renaming wide⟩

end CommandLine

end EntityModel
