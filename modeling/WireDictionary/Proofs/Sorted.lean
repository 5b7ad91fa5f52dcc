import WireDictionary.Ascending
import Mathlib.Data.List.Basic

/-! # Putting items in one at a time is a stable sort

An ascending list is determined by what it holds for each key, in order
(`Ascending.eq_of_filter`). Both `sortedBy` and a run of `insertAscending` are
ascending and keep the items of each key as they came, so they agree
(`insertAscending_sortedBy`). Where no key comes twice, membership is enough.
-/
namespace WireDictionary

variable {α : Type} {key : α → Int64}

/-- The items in ascending order of their keys. Items of one key keep their order. -/
def sortedBy (key : α → Int64) (items : List α) : List α :=
  items.mergeSort fun a b => key a ≤ key b

theorem sortedBy_perm (key : α → Int64) (items : List α) : (sortedBy key items).Perm items :=
  List.mergeSort_perm items _

@[simp] theorem mem_sortedBy {a : α} {items : List α} : a ∈ sortedBy key items ↔ a ∈ items :=
  (sortedBy_perm key items).mem_iff

theorem decide_le_trans (a b c : α) (hab : decide (key a ≤ key b) = true)
    (hbc : decide (key b ≤ key c) = true) : decide (key a ≤ key c) = true := by
  rw [decide_eq_true_eq] at *
  exact Int64.le_trans hab hbc

theorem decide_le_total (a b : α) :
    (decide (key a ≤ key b) || decide (key b ≤ key a)) = true := by
  rw [Bool.or_eq_true, decide_eq_true_eq, decide_eq_true_eq]
  rcases Int.le_total (key a).toInt (key b).toInt with h | h
  · exact .inl (Int64.le_iff_toInt_le.mpr h)
  · exact .inr (Int64.le_iff_toInt_le.mpr h)

theorem ascending_sortedBy (items : List α) : Ascending key (sortedBy key items) :=
  (List.pairwise_mergeSort decide_le_trans decide_le_total items).imp fun hab =>
    of_decide_eq_true hab

/-- The items of one key form a sorted part of the list, which sorting leaves as it is. -/
theorem filter_sortedBy (items : List α) (k : Int64) :
    (sortedBy key items).filter (key · = k) = items.filter (key · = k) := by
  have hpart : (items.filter (key · = k)).Pairwise fun a b => decide (key a ≤ key b) = true := by
    refine List.pairwise_of_forall_mem_list fun a ha b hb => ?_
    have hka := of_decide_eq_true (List.mem_filter.mp ha).2
    have hkb := of_decide_eq_true (List.mem_filter.mp hb).2
    simp [hka, hkb]
  have hsub : (items.filter (key · = k)).Sublist (sortedBy key items) :=
    List.sublist_mergeSort decide_le_trans decide_le_total hpart List.filter_sublist
  have hsub' := hsub.filter (key · = k)
  rw [List.filter_filter] at hsub'
  simp only [Bool.and_self] at hsub'
  exact (hsub'.eq_of_length ((sortedBy_perm key items).filter _).length_eq.symm).symm

/-- An ascending list is determined by what it holds for each key. -/
theorem Ascending.eq_of_filter {xs ys : List α} (hx : Ascending key xs) (hy : Ascending key ys)
    (h : ∀ k, xs.filter (key · = k) = ys.filter (key · = k)) : xs = ys := by
  induction xs generalizing ys with
  | nil =>
    cases ys with
    | nil => rfl
    | cons y ys => simpa using h (key y)
  | cons x xs ih =>
    cases ys with
    | nil => simpa using h (key x)
    | cons y ys =>
      obtain ⟨hxs, hx'⟩ := List.pairwise_cons.mp hx
      obtain ⟨hys, hy'⟩ := List.pairwise_cons.mp hy
      -- either head is among the items of its key on the other side, so neither key is less
      have hxy : key y ≤ key x := by
        have hm : x ∈ (y :: ys).filter (key · = key x) := by
          rw [← h]
          simp
        rcases List.mem_cons.mp (List.mem_filter.mp hm).1 with he | hm
        · rw [he]
          exact Int64.le_refl _
        · exact hys x hm
      have hyx : key x ≤ key y := by
        have hm : y ∈ (x :: xs).filter (key · = key y) := by
          rw [h]
          simp
        rcases List.mem_cons.mp (List.mem_filter.mp hm).1 with he | hm
        · rw [he]
          exact Int64.le_refl _
        · exact hxs y hm
      have hkey : key x = key y := Int64.le_antisymm hyx hxy
      have hhead : x = y := by
        have hk := h (key x)
        simp only [List.filter_cons, hkey, decide_true, if_true] at hk
        exact (List.cons.inj hk).1
      subst hhead
      have htail : xs = ys := by
        refine ih hx' hy' fun k => ?_
        have hk := h k
        simp only [List.filter_cons] at hk
        split at hk
        · exact (List.cons.inj hk).2
        · exact hk
      rw [htail]

/-- Putting an item into a sorted list sorts the list with the item behind it. -/
theorem insertAscending_sortedBy (items : List α) (item : α) :
    insertAscending key item (sortedBy key items) = sortedBy key (items ++ [item]) := by
  have h : Ascending key (sortedBy key items) := ascending_sortedBy items
  refine (h.insertAscending item).eq_of_filter (ascending_sortedBy _) fun k => ?_
  rw [h.filter_insertAscending, filter_sortedBy, filter_sortedBy, List.filter_append]

/-- Items can be replaced by what has their keys before they are sorted or after that. -/
theorem sortedBy_map {β : Type} {key' : β → Int64} {f : α → β} (h : ∀ a, key' (f a) = key a)
    (items : List α) : sortedBy key' (items.map f) = (sortedBy key items).map f := by
  refine (List.map_mergeSort fun a _ b _ => ?_).symm
  rw [h a, h b]

/-- Where no key comes twice, sorted items are strictly apart. -/
theorem pairwise_lt_sortedBy {items : List α} (h : (items.map key).Nodup) :
    (sortedBy key items).Pairwise fun a b => key a < key b := by
  have hnodup : ((sortedBy key items).map key).Nodup :=
    ((sortedBy_perm key items).map key).nodup_iff.mpr h
  have hne := List.pairwise_map.mp hnodup
  refine (ascending_sortedBy items).imp₂ (fun a b hle hne => ?_) hne
  exact Int64.lt_iff_le_and_ne.mpr ⟨hle, hne⟩

/-- A strictly ascending list is determined by its members. -/
theorem eq_of_pairwise_lt {xs ys : List α} (hx : xs.Pairwise fun a b => key a < key b)
    (hy : ys.Pairwise fun a b => key a < key b) (h : ∀ a, a ∈ xs ↔ a ∈ ys) : xs = ys := by
  have hnodup : ∀ {l : List α}, (l.Pairwise fun a b => key a < key b) → l.Nodup := by
    intro l hl
    refine hl.imp fun hab he => ?_
    rw [he] at hab
    exact Int64.lt_irrefl hab
  have hperm : xs.Perm ys := (List.perm_ext_iff_of_nodup (hnodup hx) (hnodup hy)).mpr h
  refine hperm.eq_of_pairwise (fun a b _ _ hab hba => ?_) hx hy
  exact absurd (Int64.lt_trans hab hba) Int64.lt_irrefl

end WireDictionary
