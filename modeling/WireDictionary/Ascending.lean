/-! Lists in ascending order of a 64-bit key. Items are put in one at a time, behind those with equal
keys, so that equal keys keep the order of their arrival. The place of an item is found by halving,
which goes right only because the list is in order already. -/

namespace WireDictionary

variable {α : Type}

def Ascending (key : α → Int64) (items : List α) : Prop :=
  items.Pairwise fun a b => key a ≤ key b

/-- The number of items at the front of a list that satisfy `p`, if all that do stand in front of
all that do not. The half that cannot hold the boundary is left out at each step. -/
def boundary (p : α → Bool) (items : List α) : Nat :=
  match _h : items.drop (items.length / 2) with
  | [] => 0
  | middle :: behind =>
    if p middle then items.length / 2 + 1 + boundary p behind
    else boundary p (items.take (items.length / 2))
termination_by items.length
decreasing_by
  · have hlen := congrArg List.length _h
    simp only [List.length_drop, List.length_cons] at hlen
    omega
  · have hlen := congrArg List.length _h
    simp only [List.length_drop, List.length_cons] at hlen
    rw [List.length_take]
    omega

/-- Puts an item behind all items of an ascending list whose keys are not greater. -/
def insertAscending (key : α → Int64) (item : α) (items : List α) : List α :=
  items.insertIdx (boundary (fun other => key other ≤ key item) items) item

/-- The boundary lies where the items that satisfy `p` end. -/
theorem boundary_append {p : α → Bool} {front back : List α} (hf : ∀ a ∈ front, p a = true)
    (hb : ∀ a ∈ back, p a = false) : boundary p (front ++ back) = front.length := by
  generalize hitems : front ++ back = items
  fun_induction boundary p items generalizing front back with
  | case1 items hd =>
    have hlen := congrArg List.length hd
    have hl := congrArg List.length hitems
    simp only [List.length_drop, List.length_nil, List.length_append] at hlen hl
    omega
  | case2 items middle behind hd hp ih =>
    -- the middle item is in front of the boundary
    subst hitems
    have hm : (front ++ back)[(front ++ back).length / 2]? = some middle := by
      rw [← List.head?_drop, hd, List.head?_cons]
    have hlt : (front ++ back).length / 2 < front.length := by
      refine Nat.lt_of_not_le fun hle => ?_
      rw [List.getElem?_append_right hle] at hm
      rw [hb middle (List.mem_of_getElem? hm)] at hp
      exact Bool.noConfusion hp
    have hbehind : front.drop ((front ++ back).length / 2 + 1) ++ back = behind := by
      rw [← List.drop_append_of_le_length hlt, ← List.tail_drop, hd, List.tail_cons]
    rw [ih (fun a ha => hf a (List.mem_of_mem_drop ha)) hb hbehind, List.length_drop]
    omega
  | case3 items middle behind hd hp ih =>
    -- the middle item is behind the boundary
    subst hitems
    have hm : (front ++ back)[(front ++ back).length / 2]? = some middle := by
      rw [← List.head?_drop, hd, List.head?_cons]
    have hle : front.length ≤ (front ++ back).length / 2 := by
      refine Nat.le_of_not_lt fun hlt => ?_
      rw [List.getElem?_append_left hlt] at hm
      exact hp (hf middle (List.mem_of_getElem? hm))
    have htake : front ++ back.take ((front ++ back).length / 2 - front.length) =
        (front ++ back).take ((front ++ back).length / 2) := by
      rw [List.take_append, List.take_of_length_le hle]
    exact ih hf (fun a ha => hb a (List.mem_of_mem_take ha)) htake

/-- The items that were there keep their order. -/
theorem sublist_insertAscending (key : α → Int64) (item : α) (items : List α) :
    items.Sublist (insertAscending key item items) := by
  have h := List.eraseIdx_sublist (insertAscending key item items)
    (boundary (fun other => key other ≤ key item) items)
  rwa [insertAscending, List.eraseIdx_insertIdx_self] at h

theorem insertIdx_length_append (front back : List α) (item : α) :
    (front ++ back).insertIdx front.length item = front ++ item :: back := by
  induction front with
  | nil => rfl
  | cons a rest ih => simp [ih]

/-- An ascending list falls into the items that a new one is put behind and those it is put
before. -/
theorem Ascending.exists_split {key : α → Int64} {items : List α} (h : Ascending key items)
    (bound : Int64) : ∃ front back, items = front ++ back ∧ (∀ a ∈ front, key a ≤ bound) ∧
      ∀ a ∈ back, bound < key a := by
  induction items with
  | nil => exact ⟨[], [], rfl, by simp, by simp⟩
  | cons first rest ih =>
    obtain ⟨hfirst, hrest⟩ := List.pairwise_cons.mp h
    by_cases hle : key first ≤ bound
    · obtain ⟨front, back, rfl, hf, hb⟩ := ih hrest
      exact ⟨first :: front, back, rfl, List.forall_mem_cons.mpr ⟨hle, hf⟩, hb⟩
    · have hlt : bound < key first := Int64.not_le.mp hle
      refine ⟨[], first :: rest, rfl, by simp, List.forall_mem_cons.mpr ⟨hlt, ?_⟩⟩
      exact fun a ha => Int64.lt_of_lt_of_le hlt (hfirst a ha)

theorem insertAscending_append {key : α → Int64} {front back : List α} {item : α}
    (hf : ∀ a ∈ front, key a ≤ key item) (hb : ∀ a ∈ back, key item < key a) :
    insertAscending key item (front ++ back) = front ++ item :: back := by
  have hboundary : boundary (fun other => key other ≤ key item) (front ++ back) = front.length := by
    refine boundary_append (fun a ha => decide_eq_true (hf a ha)) fun a ha => ?_
    exact decide_eq_false (Int64.not_le.mpr (hb a ha))
  rw [insertAscending, hboundary, insertIdx_length_append]

theorem Ascending.insertAscending {key : α → Int64} {items : List α} (h : Ascending key items)
    (item : α) : Ascending key (insertAscending key item items) := by
  obtain ⟨front, back, rfl, hf, hb⟩ := h.exists_split (key item)
  obtain ⟨hfront, hback, hcross⟩ := List.pairwise_append.mp h
  rw [insertAscending_append hf hb]
  refine List.pairwise_append.mpr ⟨hfront, List.pairwise_cons.mpr ⟨?_, hback⟩, ?_⟩
  · exact fun a ha => Int64.le_of_lt (hb a ha)
  · intro a ha b hm
    rcases List.mem_cons.mp hm with rfl | hm
    · exact hf a ha
    · exact hcross a ha b hm

/-- The items of one key keep the order of their arrival. -/
theorem Ascending.filter_insertAscending {key : α → Int64} {items : List α}
    (h : Ascending key items) (item : α) (k : Int64) :
    (WireDictionary.insertAscending key item items).filter (key · = k) =
      items.filter (key · = k) ++ [item].filter (key · = k) := by
  obtain ⟨front, back, rfl, hf, hb⟩ := h.exists_split (key item)
  rw [insertAscending_append hf hb]
  by_cases hk : key item = k
  · have hnone : back.filter (key · = k) = [] := by
      refine List.filter_eq_nil_iff.mpr fun a ha he => ?_
      have hlt := hb a ha
      rw [of_decide_eq_true he, hk] at hlt
      exact Int64.lt_irrefl hlt
    simp [List.filter_append, hk, hnone]
  · simp [List.filter_append, hk]

end WireDictionary
