/-! Indices: what keys are bound to. An index has no order that anything may depend on; it is known
by what it answers for every key. -/

namespace WireDictionary

structure Index (K V : Type) where
  bindings : List (K × V)
  deriving DecidableEq, Repr

namespace Index

variable {K V : Type}

def empty : Index K V := ⟨[]⟩

def keys (ix : Index K V) : List K := ix.bindings.map Prod.fst

@[simp] theorem keys_empty : (empty : Index K V).keys = [] := rfl

variable [DecidableEq K]

def get? (ix : Index K V) (k : K) : Option V := ix.bindings.lookup k

def contains (ix : Index K V) (k : K) : Bool := (ix.get? k).isSome

/-- Changes what a key is bound to, if it is bound. -/
def modify (ix : Index K V) (k : K) (f : V → V) : Index K V :=
  ⟨ix.bindings.map fun e => if e.1 = k then (e.1, f e.2) else e⟩

/-- Binds a key, in place of what it was bound to. -/
def set (ix : Index K V) (k : K) (v : V) : Index K V :=
  if ix.contains k then ix.modify k fun _ => v else ⟨(k, v) :: ix.bindings⟩

/-- Binds a key to what `make` yields, if it is not bound. The answer is what the key is bound to
then, and whether that was made. -/
def ensure (ix : Index K V) (k : K) (make : Thunk V) : (V × Bool) × Index K V :=
  match ix.get? k with
  | some v => ((v, false), ix)
  | none =>
    let v := make.get
    ((v, true), ⟨(k, v) :: ix.bindings⟩)

def erase (ix : Index K V) (k : K) : Index K V := ⟨ix.bindings.filter (·.1 ≠ k)⟩

@[simp] theorem get?_empty (k : K) : (empty : Index K V).get? k = none := rfl

theorem get?_cons (k j : K) (v : V) (bindings : List (K × V)) :
    get? ⟨(k, v) :: bindings⟩ j = if j = k then some v else get? ⟨bindings⟩ j := by
  by_cases h : j = k
  · simp [get?, h]
  · have hb : (j == k) = false := beq_eq_false_iff_ne.mpr h
    simp [get?, List.lookup_cons, hb, h]

theorem contains_iff_mem_keys {ix : Index K V} {k : K} : ix.contains k = true ↔ k ∈ ix.keys := by
  obtain ⟨bindings⟩ := ix
  induction bindings with
  | nil => simp [contains, get?, keys]
  | cons e rest ih =>
    obtain ⟨j, v⟩ := e
    by_cases h : k = j
    · simp [contains, get?_cons, keys, h]
    · simpa [contains, get?_cons, keys, h] using ih

@[simp] theorem keys_modify (ix : Index K V) (k : K) (f : V → V) :
    (ix.modify k f).keys = ix.keys := by
  simp only [keys, modify, List.map_map]
  refine List.map_congr_left fun e _ => ?_
  simp only [Function.comp_apply]
  split <;> rfl

theorem mem_keys_set {ix : Index K V} {k j : K} {v : V} :
    j ∈ (ix.set k v).keys ↔ j = k ∨ j ∈ ix.keys := by
  unfold set
  split
  · rename_i hc
    have hk : k ∈ ix.keys := contains_iff_mem_keys.mp hc
    rw [keys_modify]
    exact ⟨.inr, fun h => h.elim (· ▸ hk) id⟩
  · exact List.mem_cons

theorem fst_ensure (ix : Index K V) (k : K) (make : Thunk V) :
    (ix.ensure k make).1 = ((ix.get? k).getD make.get, !ix.contains k) := by
  unfold ensure contains
  cases ix.get? k <;> rfl

theorem snd_ensure (ix : Index K V) (k : K) (make : Thunk V) :
    (ix.ensure k make).2 = if ix.contains k then ix else ⟨(k, make.get) :: ix.bindings⟩ := by
  unfold ensure contains
  cases ix.get? k <;> rfl

theorem mem_keys_ensure {ix : Index K V} {k j : K} {make : Thunk V} :
    j ∈ (ix.ensure k make).2.keys ↔ j = k ∨ j ∈ ix.keys := by
  rw [snd_ensure]
  split
  · rename_i hc
    have hk : k ∈ ix.keys := contains_iff_mem_keys.mp hc
    exact ⟨.inr, fun h => h.elim (· ▸ hk) id⟩
  · exact List.mem_cons

theorem get?_modify (ix : Index K V) (k j : K) (f : V → V) :
    (ix.modify k f).get? j = if j = k then (ix.get? j).map f else ix.get? j := by
  obtain ⟨bindings⟩ := ix
  simp only [modify]
  induction bindings with
  | nil => simp [get?]
  | cons e rest ih =>
    obtain ⟨i, v⟩ := e
    rw [List.map_cons]
    by_cases hi : i = k
    · simp only [hi, if_true, get?_cons, ih]
      by_cases hj : j = k <;> simp [hj]
    · simp only [hi, if_false, get?_cons, ih]
      by_cases hj : j = k
      · simp [hj, Ne.symm hi]
      · simp [hj]

/-- A key that is not bound is not changed. -/
theorem modify_of_not_contains {ix : Index K V} {k : K} (h : ix.contains k = false) (f : V → V) :
    ix.modify k f = ix := by
  have hkeys : ∀ e ∈ ix.bindings, e.1 ≠ k := by
    rintro e he rfl
    have hmem : e.1 ∈ ix.keys := List.mem_map_of_mem he
    rw [contains_iff_mem_keys.mpr hmem] at h
    cases h
  have hbindings : (ix.bindings.map fun e => if e.1 = k then (e.1, f e.2) else e) = ix.bindings :=
    (List.map_congr_left fun e he => if_neg (hkeys e he)).trans (List.map_id' _)
  exact congrArg Index.mk hbindings

theorem get?_set (ix : Index K V) (k j : K) (v : V) :
    (ix.set k v).get? j = if j = k then some v else ix.get? j := by
  unfold set
  split
  · rename_i hc
    rw [get?_modify]
    split
    · rename_i hj
      obtain ⟨w, hw⟩ := Option.isSome_iff_exists.mp hc
      simp [hj, hw]
    · rfl
  · exact get?_cons k j v ix.bindings

theorem get?_ensure (ix : Index K V) (k j : K) (make : Thunk V) :
    (ix.ensure k make).2.get? j =
      if j = k then some ((ix.get? k).getD make.get) else ix.get? j := by
  rw [snd_ensure]
  split
  · rename_i hc
    obtain ⟨w, hw⟩ := Option.isSome_iff_exists.mp hc
    split
    · rename_i hj
      simp [hj, hw]
    · rfl
  · rename_i hc
    have hn : ix.get? k = none := by simpa [contains] using hc
    rw [get?_cons, hn, Option.getD_none]

theorem get?_erase (ix : Index K V) (k j : K) :
    (ix.erase k).get? j = if j = k then none else ix.get? j := by
  obtain ⟨bindings⟩ := ix
  simp only [erase]
  induction bindings with
  | nil => simp [get?]
  | cons e rest ih =>
    obtain ⟨i, v⟩ := e
    by_cases hi : i = k
    · simp only [hi, ne_eq, not_true_eq_false, decide_false, Bool.false_eq_true, not_false_eq_true,
        List.filter_cons_of_neg, get?_cons, ih]
      split <;> rfl
    · simp only [ne_eq, hi, not_false_eq_true, decide_true, List.filter_cons_of_pos, get?_cons, ih]
      by_cases hj : j = k
      · simp [hj, Ne.symm hi]
      · simp [hj]

end Index

end WireDictionary
