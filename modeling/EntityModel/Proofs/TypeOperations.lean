import EntityModel.TargetType.Compact
import Mathlib.Data.List.Basic

/-!
# Whether the count of dimensions tells arrays

A type says twice that it is an array: by a flag, and by a count of dimensions that is not zero. Operations make types
and change them in any order. One operation after the other keeps both in step and counts exactly (`counted_apply`).
But the count is a 32-bit word: a slice of a type with all the dimensions that a word can count is one too many, and
so is a text with more brackets than that. Such an operation overflows and gives no type.

Main statement: after any operations flag and count agree and the count is the exact number of dimensions, unless one
of them overflows, and only then is there no type (`run_counts`).
-/

namespace EntityModel

namespace TargetType

open Text

/-! ## Operations -/

/-- What makes a type or changes one. -/
inductive Operation where
  | builtin (base : String)
  | qualified (qualifier base : String)
  | untyped
  | bytes
  | parse (text : String)
  | toPointer
  | slice
  | withDepth (depth : UInt32)
  | withOrigin (origin : Import)
  | withDefaultOrigin (lookup : String → Option Import)

/-- The brackets that a text starts with, counted without a bound. -/
def leadingBrackets (text : String) : Nat := (readBrackets (trim text.toList)).1

namespace Operation

/-- The type after the operation, none if it counts further than a word can. The brackets of a text are counted before
anything else is read of it, and a text that is no type leaves the type as it was. -/
def apply (t : TargetType) : Operation → Option TargetType
  | builtin base => some (.builtin base)
  | qualified qualifier base => some (.qualified qualifier base)
  | untyped => some .untyped
  | bytes => some .bytes
  | parse text => if leadingBrackets text < UInt32.size then some ((parse? text).getD t) else none
  | toPointer => some t.toPointer
  | slice => t.slice?
  | withDepth depth => some (t.withDepth depth)
  | withOrigin origin => some (t.withOrigin origin)
  | withDefaultOrigin lookup => some (t.withDefaultOrigin lookup)

/-- The number of dimensions after the operation, without a bound. -/
def count (dimensions : Nat) : Operation → Nat
  | builtin _ => 0
  | qualified _ _ => 0
  | untyped => 0
  | bytes => 1
  | parse text => if (parse? text).isSome then leadingBrackets text else dimensions
  | slice => dimensions + 1
  | withDepth depth => depth.toNat
  | toPointer => dimensions
  | withOrigin _ => dimensions
  | withDefaultOrigin _ => dimensions

/-- The operation counts further than a word can, on a type of that many dimensions. -/
def Overflows (dimensions : Nat) : Operation → Prop
  | slice => UInt32.size ≤ dimensions + 1
  | parse text => UInt32.size ≤ leadingBrackets text
  | builtin _ | qualified _ _ | untyped | bytes | toPointer | withDepth _ | withOrigin _ | withDefaultOrigin _ => False

end Operation

/-- The type after a sequence of operations, none if one of them overflows. -/
def run (operations : List Operation) : Option TargetType := operations.foldlM Operation.apply untyped

/-- Nothing overflows in a sequence of operations on a type of that many dimensions. -/
def Fits (dimensions : Nat) : List Operation → Prop
  | [] => True
  | operation :: rest => ¬ operation.Overflows dimensions ∧ Fits (operation.count dimensions) rest

/-! ## Flag and count -/

/-- The flag is set exactly if there are dimensions. -/
def Agrees (t : TargetType) : Prop := 0 < t.depth ↔ t.array = true

/-- Flag and count agree, and there are that many dimensions. -/
structure Counted (dimensions : Nat) (t : TargetType) : Prop where
  agrees : t.Agrees
  depth : t.depth.toNat = dimensions

variable {operation : Operation} {t u : TargetType} {dimensions : Nat}

theorem Counted.congr (h : t.Counted dimensions) (array : u.array = t.array) (depth : u.depth = t.depth) :
    u.Counted dimensions where
  agrees := by
    rw [Agrees, array, depth]
    exact h.agrees
  depth := by rw [depth, h.depth]

theorem counted_withDepth (t : TargetType) (depth : UInt32) : (t.withDepth depth).Counted depth.toNat where
  agrees := by
    have hpos : 0 < depth ↔ depth ≠ 0 := by
      rw [UInt32.lt_iff_toNat_lt, ne_eq, ← UInt32.toNat_inj]
      exact Nat.pos_iff_ne_zero
    exact hpos.trans bne_iff_ne.symm
  depth := rfl

/-- One more dimension, where a word can count it. -/
theorem Counted.slice (h : t.Counted dimensions) (fits : dimensions + 1 < UInt32.size) :
    t.slice.Counted (dimensions + 1) := by
  have hdepth : t.slice.depth.toNat = dimensions + 1 := by
    have hone : (1 : UInt32).toNat = 1 := rfl
    rw [TargetType.slice, UInt32.toNat_add, h.depth, hone]
    exact Nat.mod_eq_of_lt fits
  refine ⟨iff_of_true ?_ rfl, hdepth⟩
  rw [UInt32.lt_iff_toNat_lt, hdepth]
  exact Nat.succ_pos dimensions

/-- A type read from a text has the dimensions of its brackets. -/
theorem exists_withDepth_of_parse? {text : String} (read : parse? text = some t) :
    ∃ u : TargetType, t = u.withDepth (UInt32.ofNat (leadingBrackets text)) := by
  unfold parse? readCompact at read
  dsimp only at read
  split at read
  · cases read
  · obtain ⟨u, -, ht⟩ := Option.map_eq_some_iff.1 read
    exact ⟨_, ht.symm⟩

/-! ## One operation -/

/-- An operation gives no type exactly if it overflows. -/
theorem apply_eq_none_iff (h : t.Counted dimensions) :
    operation.apply t = none ↔ operation.Overflows dimensions := by
  cases operation with
  | slice =>
    have hone : (1 : UInt32).toNat = 1 := rfl
    simp [Operation.apply, Operation.Overflows, slice?, hasRoom, h.depth, hone]
  | parse text => simp [Operation.apply, Operation.Overflows]
  | _ => simp [Operation.apply, Operation.Overflows]

/-- An operation keeps flag and count in step, and counts exactly. -/
theorem counted_apply (h : t.Counted dimensions) (result : operation.apply t = some u) :
    u.Counted (operation.count dimensions) := by
  have fits : ¬ operation.Overflows dimensions := by
    rw [← apply_eq_none_iff h, result]
    nofun
  cases operation with
  | builtin base => cases result; exact counted_withDepth (.builtin base) 0
  | qualified qualifier base => cases result; exact counted_withDepth (.qualified qualifier base) 0
  | untyped => cases result; exact counted_withDepth .untyped 0
  | bytes => cases result; exact counted_withDepth .bytes 1
  | parse text =>
    have hroom : leadingBrackets text < UInt32.size := Nat.not_le.1 fits
    rw [Operation.apply, if_pos hroom] at result
    cases result
    cases hread : parse? text with
    | none => simpa [Operation.count, hread] using h
    | some v =>
      obtain ⟨w, rfl⟩ := exists_withDepth_of_parse? hread
      have hcount := counted_withDepth w (UInt32.ofNat (leadingBrackets text))
      rw [UInt32.toNat_ofNat_of_lt' hroom] at hcount
      simpa [Operation.count, hread] using hcount
  | toPointer => cases result; exact h.congr rfl rfl
  | slice =>
    have hslice : t.slice? = some t.slice := by
      rw [Operation.apply, slice?] at result
      split at result
      · next hroom => rw [slice?, if_pos hroom]
      · cases result
    cases hslice.symm.trans result
    exact h.slice (Nat.not_le.1 fits)
  | withDepth depth => cases result; exact counted_withDepth t depth
  | withOrigin origin => cases result; exact h.congr rfl rfl
  | withDefaultOrigin lookup =>
    cases result
    exact h.congr (array_withDefaultOrigin t lookup) (depth_withDefaultOrigin t lookup)

/-! ## Sequences of operations -/

/-- What holds after one operation holds after all of them, from a type on whose flag and count agree. -/
theorem foldlM_counts {operations : List Operation} (h : t.Counted dimensions) :
    (∀ u, operations.foldlM Operation.apply t = some u → u.Counted (operations.foldl Operation.count dimensions)) ∧
      (operations.foldlM Operation.apply t = none ↔ ¬ Fits dimensions operations) := by
  induction operations generalizing t dimensions with
  | nil => exact ⟨fun u hu => by cases hu; exact h, iff_of_false nofun fun hfits => hfits trivial⟩
  | cons operation rest ih =>
    rw [List.foldlM_cons]
    cases hstep : operation.apply t with
    | none =>
      have hover : operation.Overflows dimensions := (apply_eq_none_iff h).1 hstep
      exact ⟨nofun, iff_of_true rfl fun hfits => hfits.1 hover⟩
    | some u =>
      have hroom : ¬ operation.Overflows dimensions := by
        rw [← apply_eq_none_iff h, hstep]
        nofun
      obtain ⟨hsome, hnone⟩ := ih (counted_apply h hstep)
      exact ⟨hsome, hnone.trans (not_congr ⟨fun hfits => ⟨hroom, hfits⟩, fun hfits => hfits.2⟩)⟩

/-- **Flag and count.** After every sequence of operations that gives a type, flag and count agree, and there are as
many dimensions as have been counted without a bound. There is no type exactly if an operation overflows. -/
theorem run_counts (operations : List Operation) :
    (∀ t, run operations = some t →
        t.Agrees ∧ t.depth.toNat = operations.foldl Operation.count 0) ∧
      (run operations = none ↔ ¬ Fits 0 operations) := by
  obtain ⟨hsome, hnone⟩ := foldlM_counts (counted_withDepth untyped 0)
  exact ⟨fun t ht => ⟨(hsome t ht).agrees, (hsome t ht).depth⟩, hnone⟩

/-- A list read from a text, with its dimensions set and added to. -/
def nestedPointers : List Operation :=
  [.bytes, .parse "[]", .parse " []*uuid.UUID", .slice, .withDepth 3,
    .withOrigin ⟨"github.com/google/uuid", none⟩, .slice]

/-- A text without a name is passed over, and a depth replaces those before it. -/
theorem run_counts_nestedPointers :
    Fits 0 nestedPointers ∧ ∃ t, run nestedPointers = some t ∧ t.Agrees ∧ t.depth.toNat = 4 := by
  obtain ⟨t, ht⟩ : ∃ t, run nestedPointers = some t := Option.isSome_iff_exists.1 (by decide)
  obtain ⟨hsome, hnone⟩ := run_counts nestedPointers
  obtain ⟨agrees, counted⟩ := hsome t ht
  refine ⟨by_contra fun hfits => ?_, t, ht, agrees, counted.trans (by decide)⟩
  rw [hnone.2 hfits] at ht
  cases ht

/-- A slice of an array of the most dimensions there can be is one dimension too many. -/
theorem run_fullSlice :
    run [.builtin "int", .withDepth 4294967295] = some ((builtin "int").withDepth 4294967295) ∧
      run [.builtin "int", .withDepth 4294967295, .slice] = none := by
  decide

end TargetType

end EntityModel
