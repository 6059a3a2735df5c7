import Mathlib.Data.List.Induction

/-!
# What happened last in a history

A history is a list, oldest item first. `Since p q` says of it that something happened as `p` asks, and that only
items with `q` have come after that. One more item either is what happened or comes after it
(`since_concat_iff`), so a fact about the last of something is proved one item at a time.
-/

namespace EntityModel

/-- Some item is as `p` asks of it and the items before it, and all items after it have `q`. -/
def Since {α : Type} (p : List α → α → Prop) (q : α → Prop) (history : List α) : Prop :=
  ∃ before item after, history = before ++ item :: after ∧ p before item ∧ ∀ later ∈ after, q later

variable {α : Type} {p : List α → α → Prop} {q : α → Prop}

theorem not_since_nil : ¬ Since p q [] := by
  rintro ⟨before, item, after, h, -⟩
  simp at h

/-- A history with one more item. -/
theorem since_concat_iff {history : List α} {item : α} :
    Since p q (history ++ [item]) ↔ p history item ∨ q item ∧ Since p q history := by
  constructor
  · rintro ⟨before, x, after, h, hx, hafter⟩
    rcases List.eq_nil_or_concat after with rfl | ⟨earlier, last, rfl⟩
    · obtain ⟨rfl, hlast⟩ := List.append_inj' h rfl
      cases hlast
      exact .inl hx
    · rw [List.concat_eq_append, ← List.cons_append, ← List.append_assoc] at h
      obtain ⟨rfl, hlast⟩ := List.append_inj' h rfl
      cases hlast
      simp only [List.concat_eq_append, List.mem_append, List.mem_singleton] at hafter
      exact .inr ⟨hafter _ (.inr rfl), before, x, earlier, rfl, hx, fun y hy => hafter y (.inl hy)⟩
  · rintro (hp | ⟨hq, before, x, after, rfl, hx, hafter⟩)
    · exact ⟨history, item, [], rfl, hp, by simp⟩
    · refine ⟨before, x, after ++ [item], by simp, hx, fun y hy => ?_⟩
      rcases List.mem_append.1 hy with hy | hy
      · exact hafter y hy
      · rwa [List.mem_singleton.1 hy]

end EntityModel
