import EntityModel.Dialect.Postgres

/-!
# Which drivers scan a PostgreSQL type

The families of types were taken up by the drivers in generations: all drivers scan most of them, pgx added some and
its fifth version the rest. `Family.since` is the generation that took a family up, and a driver scans the families
of its own generation and of those before (`isSome_type?_iff`), whatever the nullability and the pointer policy are.

Main statement: whether a name is known does not depend on the driver; what the standard driver scans pgx v4 scans,
what that scans pgx v5 scans, and pgx v5 scans every name that is known (`map_support`).
-/

namespace EntityModel

/-- The generation of a driver: the standard drivers, then the versions of pgx. -/
def Driver.generation : Driver → Nat
  | libPq => 0
  | goMysql => 0
  | pgxV4 => 1
  | pgxV5 => 2

/-- The answer gives a type. -/
def Mapping.IsResolved (m : Mapping) : Prop := ∃ type, m = .resolved type

namespace Postgres

/-- The generation of drivers that took a family up. -/
def Family.since : Family → Nat
  | .scalar .. | .native .. | .standard .. | .decimal | .json _ | .bytes | .network .. | .hardwareAddress => 0
  | .range .. | .pgxOnly _ | .pgxVersions .. => 1
  | .multirange _ | .vector => 2

theorem Family.since_le (family : Family) : family.since ≤ Driver.pgxV5.generation := by
  cases family <;> simp [since, Driver.generation]

namespace Policy

/-- A driver scans the families of its generation and of those before. -/
theorem isSome_type?_iff (p : Policy) (notNull : Bool) (family : Family) :
    (p.type? notNull family).isSome = true ↔ family.since ≤ p.driver.generation := by
  obtain ⟨driver, pointers⟩ := p
  cases family with
  | range => cases driver <;> simp [type?, Family.since, Driver.generation]
  | multirange => cases driver <;> simp [type?, Family.since, Driver.generation]
  | pgxOnly => cases driver <;> simp [type?, Family.since, Driver.generation, Driver.isPgx]
  | pgxVersions => cases driver <;> simp [type?, Family.since, Driver.generation]
  | vector => cases driver <;> simp [type?, Family.since, Driver.generation]
  -- All drivers scan the other families.
  | _ => simp [type?, Family.since]

theorem map_isResolved_iff (p : Policy) (name : String) (notNull : Bool) :
    (p.map name notNull).IsResolved ↔ ∃ family, family? name = some family ∧ family.since ≤ p.driver.generation := by
  unfold map Mapping.IsResolved
  cases hfamily : family? name with
  | none => simp
  | some family =>
    have hscans := p.isSome_type?_iff notNull family
    cases htype : p.type? notNull family with
    | none => simpa [htype] using hscans
    | some type => simpa [htype] using hscans

/-- A driver of a later generation gives a type wherever an earlier one does. -/
theorem map_isResolved_mono {p q : Policy} (h : p.driver.generation ≤ q.driver.generation) {name : String}
    {notNull : Bool} (resolved : (p.map name notNull).IsResolved) (notNull' : Bool) :
    (q.map name notNull').IsResolved := by
  obtain ⟨family, hfamily, hsince⟩ := (p.map_isResolved_iff name notNull).1 resolved
  exact (q.map_isResolved_iff name notNull').2 ⟨family, hfamily, Nat.le_trans hsince h⟩

/-- **Support grows with the driver.** -/
theorem map_support (name : String) (notNull notNull' pointers pointers' : Bool) :
    (∀ driver driver', (Policy.of driver pointers).map name notNull = .unknown ↔
        (Policy.of driver' pointers').map name notNull' = .unknown) ∧
      (((Policy.of .libPq pointers).map name notNull).IsResolved →
        ((Policy.of .pgxV4 pointers').map name notNull').IsResolved) ∧
      (((Policy.of .pgxV4 pointers).map name notNull).IsResolved →
        ((Policy.of .pgxV5 pointers').map name notNull').IsResolved) ∧
      (Policy.of .pgxV5 pointers).map name notNull ≠ .unsupported := by
  have hfour : (Policy.of .libPq pointers).driver.generation ≤ (Policy.of .pgxV4 pointers').driver.generation :=
    Nat.zero_le 1
  have hfive : (Policy.of .pgxV4 pointers).driver.generation ≤ (Policy.of .pgxV5 pointers').driver.generation :=
    Nat.le_succ 1
  refine ⟨fun driver driver' => ?_, fun h => ?_, fun h => ?_, fun h => ?_⟩
  · rw [map_eq_unknown_iff, map_eq_unknown_iff]
  · exact map_isResolved_mono hfour h notNull'
  · exact map_isResolved_mono hfive h notNull'
  · have hknown : family? name ≠ none := by
      rw [Ne, ← map_eq_unknown_iff (.of .pgxV5 pointers) name notNull, h]
      nofun
    obtain ⟨family, hfamily⟩ := Option.ne_none_iff_exists'.1 hknown
    obtain ⟨type, htype⟩ := (map_isResolved_iff (.of .pgxV5 pointers) name notNull).2
      ⟨family, hfamily, family.since_le⟩
    exact absurd (h.symm.trans htype) nofun

/-- An address that can be null has a type under every driver, each time another one. -/
theorem map_support_cidr :
    (Policy.of .libPq true).map "cidr" false = .resolved (pqtype "CIDR") ∧
      ((Policy.of .pgxV4 true).map "cidr" false).IsResolved ∧
      ((Policy.of .pgxV5 true).map "cidr" false).IsResolved ∧
      (Policy.of .pgxV5 true).map "cidr" false = .resolved (TargetType.qualified "netip" "Prefix").toPointer := by
  obtain ⟨-, toV4, toV5, -⟩ := map_support "cidr" false false true true
  have hstandard : (Policy.of .libPq true).map "cidr" false = .resolved (pqtype "CIDR") := by decide +kernel
  exact ⟨hstandard, toV4 ⟨_, hstandard⟩, toV5 (toV4 ⟨_, hstandard⟩), by decide +kernel⟩

end Policy

end Postgres

end EntityModel
