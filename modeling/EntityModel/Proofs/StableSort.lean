import EntityModel.Generation.Basic
import EntityModel.Proofs.ByteOrder
import Mathlib.Data.List.Nodup
import Mathlib.Data.List.Perm.Basic

/-!
# The order of the entities

`StableSortBy` states what a stable sort by the bytes of a text is: the same items, in increasing order,
with items of one text in the order in which they stood. Sorting entities is that for the names of their
types (`stableSortBy_sortEntities`), and entities with distinct names are sorted into one list from
whatever order they come in (`sortEntities_eq_of_perm`).
-/

namespace EntityModel

/-- A list sorted by the bytes of a text of its items, without reordering items of the same text. -/
structure StableSortBy {α : Type} (key : α → String) (items sorted : List α) : Prop where
  perm : sorted.Perm items
  ordered : sorted.Pairwise fun a b => utf8Bytes (key a) ≤ utf8Bytes (key b)
  stable : ∀ k, sorted.filter (fun a => key a = k) = items.filter (fun a => key a = k)

namespace Generation

theorem sortEntities_perm (entities : List Entity) : (sortEntities entities).Perm entities :=
  List.mergeSort_perm _ _

theorem base_le_trans (a b c : Entity) (hab : decide (a.type.base ≤ b.type.base) = true)
    (hbc : decide (b.type.base ≤ c.type.base) = true) : decide (a.type.base ≤ c.type.base) = true :=
  decide_eq_true (String.le_trans (of_decide_eq_true hab) (of_decide_eq_true hbc))

theorem base_le_total (a b : Entity) :
    (decide (a.type.base ≤ b.type.base) || decide (b.type.base ≤ a.type.base)) = true := by
  rcases String.le_total a.type.base b.type.base with h | h
  · simp [h]
  · simp [h]

theorem pairwise_sortEntities (entities : List Entity) :
    (sortEntities entities).Pairwise fun a b => a.type.base ≤ b.type.base :=
  (List.pairwise_mergeSort base_le_trans base_le_total entities).imp fun h => of_decide_eq_true h

theorem filter_sortEntities (entities : List Entity) (name : String) :
    (sortEntities entities).filter (fun e => e.type.base = name) =
      entities.filter (fun e => e.type.base = name) := by
  have hsorted : (entities.filter fun e => e.type.base = name).Pairwise
      fun a b => decide (a.type.base ≤ b.type.base) = true := by
    refine List.pairwise_of_forall_mem_list fun a ha b hb => decide_eq_true ?_
    have ha' : a.type.base = name := of_decide_eq_true (List.mem_filter.1 ha).2
    have hb' : b.type.base = name := of_decide_eq_true (List.mem_filter.1 hb).2
    simp only [ha', hb', String.le_refl]
  have hsub : (entities.filter fun e => e.type.base = name).Sublist (sortEntities entities) :=
    List.sublist_mergeSort base_le_trans base_le_total hsorted List.filter_sublist
  have hkept : (entities.filter fun e => e.type.base = name).Sublist
      ((sortEntities entities).filter fun e => e.type.base = name) := by
    simpa using hsub.filter fun e => e.type.base = name
  refine (hkept.eq_of_length ?_).symm
  exact ((sortEntities_perm entities).filter _).length_eq.symm

theorem stableSortBy_sortEntities (entities : List Entity) :
    StableSortBy (·.type.base) entities (sortEntities entities) where
  perm := sortEntities_perm entities
  ordered := (pairwise_sortEntities entities).imp fun h => utf8Bytes_le_iff.2 h
  stable := filter_sortEntities entities

theorem sortEntities_eq_of_perm {entities others : List Entity} (h : others.Perm entities)
    (distinct : (entities.map (·.type.base)).Nodup) : sortEntities others = sortEntities entities := by
  have hperm : (sortEntities others).Perm (sortEntities entities) :=
    (sortEntities_perm others).trans (h.trans (sortEntities_perm entities).symm)
  refine hperm.eq_of_pairwise ?_ (pairwise_sortEntities others) (pairwise_sortEntities entities)
  intro a b ha hb hab hba
  have ha' : a ∈ entities := h.mem_iff.1 ((sortEntities_perm others).mem_iff.1 ha)
  have hb' : b ∈ entities := (sortEntities_perm entities).mem_iff.1 hb
  exact List.inj_on_of_nodup_map distinct ha' hb' (String.le_antisymm hab hba)

/-- Entities made from items are sorted as the items are by the names that they give. -/
theorem sortEntities_map {α : Type} {f : α → Entity} {key : α → String} (h : ∀ x, (f x).type.base = key x)
    (items : List α) :
    sortEntities (items.map f) = (items.mergeSort fun a b => decide (key a ≤ key b)).map f := by
  refine (List.map_mergeSort fun a _ b _ => ?_).symm
  rw [h a, h b]

@[simp] theorem sortEntities_singleton (e : Entity) : sortEntities [e] = [e] :=
  List.mergeSort_singleton e

end Generation

end EntityModel
