import EntityModel.Proofs.OverrideOrder

/-!
# Requirements in a row

A result in `Except` that asks for one thing after the other. `Enforces` says of it that it is there exactly if
all requirements of a list are met, and otherwise reports the first of them that is not. Steps in a row enforce
what each of them does, in their order (`Enforces.bind`), and going through a list enforces what is asked of each
item (`Enforces.mapM`).
-/

namespace EntityModel

/-! ## The first item of two lists in a row -/

theorem IsFirst.append {α : Type} {p : α → Prop} {xs : List α} {x : α} (h : IsFirst p xs x) (ys : List α) :
    IsFirst p (xs ++ ys) x := by
  obtain ⟨before, after, rfl, hx, hbefore⟩ := h
  exact ⟨before, after ++ ys, by simp, hx, hbefore⟩

theorem IsFirst.after {α : Type} {p : α → Prop} {xs ys : List α} {y : α} (passed : ∀ x ∈ xs, ¬ p x)
    (h : IsFirst p ys y) : IsFirst p (xs ++ ys) y := by
  obtain ⟨before, after, rfl, hy, hbefore⟩ := h
  refine ⟨xs ++ before, after, by simp, hy, fun x hx => ?_⟩
  rcases List.mem_append.1 hx with hx | hx
  · exact passed x hx
  · exact hbefore x hx

theorem IsFirst.mem {α : Type} {p : α → Prop} {xs : List α} {x : α} (h : IsFirst p xs x) : x ∈ xs := by
  obtain ⟨before, after, rfl, -, -⟩ := h
  simp

theorem IsFirst.holds {α : Type} {p : α → Prop} {xs : List α} {x : α} (h : IsFirst p xs x) : p x := by
  obtain ⟨before, after, rfl, hx, -⟩ := h
  exact hx

theorem isFirst_singleton {α : Type} {p : α → Prop} {x : α} (h : p x) : IsFirst p [x] x :=
  ⟨[], [], rfl, h, by simp⟩

/-! ## Results that enforce requirements -/

/-- A result that is there if all requirements are met, and otherwise reports the first that is not. -/
inductive Enforces {ρ ε α : Type} (met : ρ → Prop) (reports : ρ → ε → Prop) (rs : List ρ) :
    Except ε α → Prop where
  | ok {a : α} (all : ∀ r ∈ rs, met r) : Enforces met reports rs (.ok a)
  | error {r : ρ} {e : ε} (first : IsFirst (fun r => ¬ met r) rs r) (reported : reports r e) :
    Enforces met reports rs (.error e)

namespace Enforces

variable {ρ σ ε α β : Type} {met : ρ → Prop} {reports : ρ → ε → Prop} {rs later : List ρ} {x : Except ε α}

theorem exists_ok_iff (h : Enforces met reports rs x) : (∃ a, x = .ok a) ↔ ∀ r ∈ rs, met r := by
  cases h with
  | ok all => exact ⟨fun _ => all, fun _ => ⟨_, rfl⟩⟩
  | error first _ =>
    obtain ⟨before, after, rfl, hr, -⟩ := first
    refine ⟨nofun, fun all => absurd (all _ (by simp)) hr⟩

theorem of_error {e : ε} (h : Enforces met reports rs (.error e : Except ε α)) :
    ∃ r, IsFirst (fun r => ¬ met r) rs r ∧ reports r e := by
  cases h with
  | error first reported => exact ⟨_, first, reported⟩

/-- A step that succeeds with its requirement met. -/
theorem accept {r : ρ} {a : α} (h : met r) : Enforces met reports [r] (.ok a) :=
  .ok fun s hs => by rwa [List.mem_singleton.1 hs]

/-- A step that fails with its requirement not met. -/
theorem refuse {r : ρ} {e : ε} (h : ¬ met r) (reported : reports r e) :
    Enforces met reports [r] (.error e : Except ε α) :=
  .error (isFirst_singleton h) reported

/-- The same requirements in other words, with more said about what is reported. -/
theorem congr {met' : ρ → Prop} {reports' : ρ → ε → Prop} (h : Enforces met reports rs x)
    (hmet : ∀ r, met' r ↔ met r) (hreports : ∀ r e, reports r e → reports' r e) :
    Enforces met' reports' rs x := by
  cases h with
  | ok all => exact .ok fun r hr => (hmet r).2 (all r hr)
  | error first reported =>
    refine .error ?_ (hreports _ _ reported)
    simpa only [hmet] using first

/-- A step and what is done with its result. -/
theorem bind {f : α → Except ε β} (h : Enforces met reports rs x)
    (next : ∀ a, x = .ok a → Enforces met reports later (f a)) :
    Enforces met reports (rs ++ later) (x >>= f) := by
  cases h with
  -- The later requirements are not asked for, so the first fault stays the first.
  | error first reported => exact .error (first.append later) reported
  | @ok a all =>
    show Enforces met reports (rs ++ later) (f a)
    have hnext := next a rfl
    generalize f a = y at hnext
    cases hnext with
    | ok all' =>
      refine .ok fun r hr => ?_
      rcases List.mem_append.1 hr with hr | hr
      · exact all r hr
      · exact all' r hr
    | error first reported =>
      exact .error (first.after fun r hr hn => hn (all r hr)) reported

/-- A check before the rest. -/
theorem guard {r : ρ} {e : ε} {p : Prop} [Decidable p] (hp : p ↔ ¬ met r) (reported : p → reports r e)
    (rest : Enforces met reports later x) :
    Enforces met reports (r :: later) (if p then .error e else x) := by
  have hbind : (if p then .error e else x) = (if p then .error e else .ok ()) >>= fun _ : Unit => x := by
    split <;> rfl
  have hcheck : Enforces met reports [r] (if p then .error e else .ok () : Except ε Unit) := by
    by_cases h : p
    · rw [if_pos h]
      exact refuse (hp.1 h) (reported h)
    · rw [if_neg h]
      exact accept (by_contra fun hr => h (hp.2 hr))
  rw [hbind]
  exact hcheck.bind fun _ _ => rest

/-- A step whose result is only put into another form. -/
theorem map (h : Enforces met reports rs x) (f : α → β) :
    Enforces met reports rs (x >>= fun a => pure (f a)) := by
  cases h with
  | ok all => exact .ok all
  | error first reported => exact .error first reported

/-- Going through a list asks the same of each item. -/
theorem mapM {f : ρ → Except ε β} (h : ∀ r, Enforces met reports [r] (f r)) (rs : List ρ) :
    Enforces met reports rs (rs.mapM f) := by
  induction rs with
  | nil => exact .ok (by simp)
  | cons r rs ih =>
    rw [List.mapM_cons]
    exact (h r).bind fun b _ => ih.map (b :: ·)

/-- The requirements on the items of a list as one requirement. -/
theorem collect {metItem : σ → Prop} {reportsItem : σ → ε → Prop} {items : List σ} {r : ρ}
    (h : Enforces metItem reportsItem items x) (all : (∀ i ∈ items, metItem i) ↔ met r)
    (first : ∀ i e, IsFirst (fun i => ¬ metItem i) items i → reportsItem i e → reports r e) :
    Enforces met reports [r] x := by
  cases h with
  | ok hall => exact accept (all.1 hall)
  | @error i e hfirst hreported =>
    exact refuse (fun hmet => hfirst.holds (all.2 hmet i hfirst.mem)) (first i e hfirst hreported)

end Enforces

end EntityModel
