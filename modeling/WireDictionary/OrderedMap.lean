import WireDictionary.Index

/-! Maps that remember the order in which their keys first came. Writing to a key that is present
changes its value and not its place. A map is an index and an array of the keys; each operation
changes the two on their own, and they hold the same keys after it. An operation answers beside the
map that it leaves. The lemmas say what each change answers, and what it does to the keys, in order,
and to the value of every key. -/

namespace WireDictionary

structure OrderedMap (K V : Type) where
  /-- What the keys are bound to. -/
  index : Index K V
  /-- The keys in the order in which they came. -/
  order : Array K
  nodup_order : order.toList.Nodup
  mem_order : ∀ k, k ∈ order.toList ↔ k ∈ index.keys
  deriving DecidableEq, Repr

namespace OrderedMap

variable {K V : Type}

def empty : OrderedMap K V := ⟨.empty, #[], List.nodup_nil, fun _ => Iff.rfl⟩

def keys (m : OrderedMap K V) : List K := m.order.toList

def size (m : OrderedMap K V) : Nat := m.order.size

def isEmpty (m : OrderedMap K V) : Bool := m.order.isEmpty

@[simp] theorem keys_empty : (empty : OrderedMap K V).keys = [] := rfl

theorem nodup_keys (m : OrderedMap K V) : m.keys.Nodup := m.nodup_order

theorem length_keys (m : OrderedMap K V) : m.keys.length = m.size := Array.length_toList

variable [DecidableEq K]

def get? (m : OrderedMap K V) (k : K) : Option V := m.index.get? k

def contains (m : OrderedMap K V) (k : K) : Bool := m.index.contains k

theorem contains_iff_mem_keys {m : OrderedMap K V} {k : K} : m.contains k = true ↔ k ∈ m.keys :=
  Index.contains_iff_mem_keys.trans (m.mem_order k).symm

theorem contains_eq_isSome_get? (m : OrderedMap K V) (k : K) : m.contains k = (m.get? k).isSome :=
  rfl

theorem isSome_get?_iff {m : OrderedMap K V} {k : K} : (m.get? k).isSome = true ↔ k ∈ m.keys :=
  contains_iff_mem_keys

/-- The keys with their values, in the order of the keys. No key lacks a value. -/
def entries (m : OrderedMap K V) : List (K × V) :=
  m.keys.attach.map fun k => (k.1, (m.get? k.1).get (isSome_get?_iff.mpr k.2))

def values (m : OrderedMap K V) : List V := m.entries.map Prod.snd

/-- The values of keys, each taken out of an index. A key that is not bound yields none. -/
def drain (ix : Index K V) : List K → List V
  | [] => []
  | k :: rest =>
    match ix.get? k with
    | some v => v :: drain (ix.erase k) rest
    | none => drain ix rest

/-- The values that are left when the map is given up. -/
def intoValues (m : OrderedMap K V) : List V := drain m.index m.keys

/-- The keys after a write to one of them. -/
def orderWith (m : OrderedMap K V) (k : K) : Array K :=
  if m.contains k then m.order else m.order.push k

theorem toList_orderWith (m : OrderedMap K V) (k : K) :
    (m.orderWith k).toList = if m.contains k then m.keys else m.keys ++ [k] := by
  unfold orderWith
  split
  · rfl
  · exact Array.toList_push

theorem nodup_orderWith (m : OrderedMap K V) (k : K) : (m.orderWith k).toList.Nodup := by
  rw [toList_orderWith]
  split
  · exact m.nodup_order
  · rename_i hc
    have hk : k ∉ m.keys := fun hm => hc (contains_iff_mem_keys.mpr hm)
    refine List.nodup_append.mpr ⟨m.nodup_order, List.pairwise_singleton _ k, ?_⟩
    intro a ha b hb he
    rw [List.mem_singleton.mp hb] at he
    exact hk (he ▸ ha)

theorem mem_orderWith {m : OrderedMap K V} {k j : K} :
    j ∈ (m.orderWith k).toList ↔ j = k ∨ j ∈ m.keys := by
  rw [toList_orderWith]
  split
  · rename_i hc
    have hk : k ∈ m.keys := contains_iff_mem_keys.mp hc
    exact ⟨.inr, fun h => h.elim (· ▸ hk) id⟩
  · rw [List.mem_append, List.mem_singleton, or_comm]

/-- Changes the value of a key, if it has one. The answer is the value after that. -/
def modify (m : OrderedMap K V) (k : K) (f : V → V) : Option V × OrderedMap K V :=
  ((m.get? k).map f,
    { index := m.index.modify k f
      order := m.order
      nodup_order := m.nodup_order
      mem_order := by simpa using m.mem_order })

/-- Gives a key a value. A new key comes behind all others. The answer is the value that the key had
before. -/
def insert (m : OrderedMap K V) (k : K) (v : V) : Option V × OrderedMap K V :=
  (m.get? k,
    { index := m.index.set k v
      order := m.orderWith k
      nodup_order := m.nodup_orderWith k
      mem_order := fun _ => by rw [mem_orderWith, Index.mem_keys_set, keys, m.mem_order] })

/-- Gives a key the value that `make` yields, behind all others, if it has none. The answer is the
value that the key has then, and whether that was made. -/
def ensure (m : OrderedMap K V) (k : K) (make : Thunk V) : (V × Bool) × OrderedMap K V :=
  ((m.index.ensure k make).1,
    { index := (m.index.ensure k make).2
      order := m.orderWith k
      nodup_order := m.nodup_orderWith k
      mem_order := fun _ => by rw [mem_orderWith, Index.mem_keys_ensure, keys, m.mem_order] })

/-! ## Answers -/

theorem fst_modify (m : OrderedMap K V) (k : K) (f : V → V) :
    (m.modify k f).1 = (m.get? k).map f := rfl

theorem fst_insert (m : OrderedMap K V) (k : K) (v : V) : (m.insert k v).1 = m.get? k := rfl

theorem fst_ensure (m : OrderedMap K V) (k : K) (make : Thunk V) :
    (m.ensure k make).1 = ((m.get? k).getD make.get, !m.contains k) :=
  Index.fst_ensure m.index k make

/-! ## Keys -/

@[simp] theorem keys_modify (m : OrderedMap K V) (k : K) (f : V → V) :
    (m.modify k f).2.keys = m.keys := rfl

theorem keys_insert (m : OrderedMap K V) (k : K) (v : V) :
    (m.insert k v).2.keys = if m.contains k then m.keys else m.keys ++ [k] :=
  m.toList_orderWith k

theorem keys_ensure (m : OrderedMap K V) (k : K) (make : Thunk V) :
    (m.ensure k make).2.keys = if m.contains k then m.keys else m.keys ++ [k] :=
  m.toList_orderWith k

/-! ## Values -/

@[simp] theorem get?_empty (k : K) : (empty : OrderedMap K V).get? k = none := rfl

theorem get?_modify (m : OrderedMap K V) (k l : K) (f : V → V) :
    (m.modify k f).2.get? l = if l = k then (m.get? l).map f else m.get? l :=
  Index.get?_modify m.index k l f

theorem get?_eq_none_iff {m : OrderedMap K V} {k : K} : m.get? k = none ↔ m.contains k = false := by
  simp [contains, Index.contains, get?]

/-- A key without a value is not changed, and neither is anything else. -/
theorem modify_of_not_contains {m : OrderedMap K V} {k : K} (h : m.contains k = false)
    (f : V → V) : m.modify k f = (none, m) := by
  have hindex : m.index.modify k f = m.index := Index.modify_of_not_contains h f
  have hnone : m.get? k = none := get?_eq_none_iff.mpr h
  simp only [modify, hnone, Option.map_none, hindex]

theorem get?_insert (m : OrderedMap K V) (k l : K) (v : V) :
    (m.insert k v).2.get? l = if l = k then some v else m.get? l :=
  Index.get?_set m.index k l v

theorem get?_ensure (m : OrderedMap K V) (k l : K) (make : Thunk V) :
    (m.ensure k make).2.get? l =
      if l = k then some ((m.get? k).getD make.get) else m.get? l :=
  Index.get?_ensure m.index k l make

/-! ## Entries in order -/

theorem map_fst_entries (m : OrderedMap K V) : m.entries.map Prod.fst = m.keys := by
  simp [entries]

theorem get?_of_mem_entries {m : OrderedMap K V} {e : K × V} (h : e ∈ m.entries) :
    m.get? e.1 = some e.2 := by
  obtain ⟨k, -, rfl⟩ := List.mem_map.mp h
  simp

/-- Values that tell their keys list the keys in order. -/
theorem map_values {m : OrderedMap K V} {f : V → K} (h : ∀ k v, m.get? k = some v → f v = k) :
    m.values.map f = m.keys := by
  rw [values, List.map_map, ← map_fst_entries]
  exact List.map_congr_left fun e he => h e.1 e.2 (get?_of_mem_entries he)

/-- Where each value yields what its key does, the values yield in order what the keys do. -/
theorem flatMap_values {α : Type} {m : OrderedMap K V} {f : V → List α} {g : K → List α}
    (h : ∀ k v, m.get? k = some v → f v = g k) : m.values.flatMap f = m.keys.flatMap g := by
  rw [values, List.flatMap_map, ← map_fst_entries, List.flatMap_map, List.flatMap_def,
    List.flatMap_def]
  exact congrArg _ (List.map_congr_left fun e he => h e.1 e.2 (get?_of_mem_entries he))

theorem values_eq_filterMap (m : OrderedMap K V) : m.values = m.keys.filterMap m.get? := by
  let value (k : { k // k ∈ m.keys }) : V := (m.get? k.1).get (isSome_get?_iff.mpr k.2)
  have hvalue : m.get? ∘ Subtype.val = some ∘ value := by
    funext k
    simp [value]
  calc m.values = m.keys.attach.map value := by simp [values, entries, value]
    _ = m.keys.attach.filterMap (m.get? ∘ Subtype.val) := by rw [hvalue, List.filterMap_eq_map]
    _ = m.keys.filterMap m.get? := by
      rw [← List.filterMap_map, List.attach_map_subtype_val]

theorem entries_eq_zip (m : OrderedMap K V) : m.entries = m.keys.zip m.values :=
  List.zip_of_prod m.map_fst_entries rfl

/-- Maps with the same keys in order and the same values under them have the same entries. -/
theorem entries_ext {m n : OrderedMap K V} (hkeys : m.keys = n.keys)
    (hget : ∀ k, m.get? k = n.get? k) : m.entries = n.entries := by
  have hvalues : m.values = n.values := by
    rw [values_eq_filterMap, values_eq_filterMap, hkeys, funext hget]
  rw [entries_eq_zip, entries_eq_zip, hkeys, hvalues]

theorem length_values (m : OrderedMap K V) : m.values.length = m.size := by
  simp [values, entries, length_keys]

theorem mem_values {m : OrderedMap K V} {v : V} : v ∈ m.values ↔ ∃ k, m.get? k = some v := by
  rw [values_eq_filterMap, List.mem_filterMap]
  constructor
  · rintro ⟨k, -, hk⟩
    exact ⟨k, hk⟩
  · rintro ⟨k, hk⟩
    exact ⟨k, isSome_get?_iff.mp (by simp [hk]), hk⟩

/-- Values that tell their keys are found under them. -/
theorem get?_eq_some_iff_mem_values {m : OrderedMap K V} {f : V → K}
    (h : ∀ k v, m.get? k = some v → f v = k) {k : K} {v : V} :
    m.get? k = some v ↔ v ∈ m.values ∧ f v = k := by
  constructor
  · intro hv
    exact ⟨mem_values.mpr ⟨k, hv⟩, h k v hv⟩
  · rintro ⟨hv, rfl⟩
    obtain ⟨j, hj⟩ := mem_values.mp hv
    rw [h j v hj, hj]

/-- Draining finds what was bound at first, as long as no key comes twice. -/
theorem drain_eq_filterMap {value? : K → Option V} {ix : Index K V} {ks : List K} (h : ks.Nodup)
    (hv : ∀ k ∈ ks, ix.get? k = value? k) : drain ix ks = ks.filterMap value? := by
  induction ks generalizing ix with
  | nil => rfl
  | cons k rest ih =>
    obtain ⟨hk, hrest⟩ := List.nodup_cons.mp h
    have hkv : ix.get? k = value? k := hv k List.mem_cons_self
    have herase : drain (ix.erase k) rest = rest.filterMap value? := by
      refine ih hrest fun j hj => ?_
      have hjk : j ≠ k := fun he => hk (he ▸ hj)
      rw [Index.get?_erase, if_neg hjk, hv j (List.mem_cons_of_mem k hj)]
    have hkeep : drain ix rest = rest.filterMap value? :=
      ih hrest fun j hj => hv j (List.mem_cons_of_mem k hj)
    rw [drain, hkv, List.filterMap_cons]
    cases value? k with
    | none => exact hkeep
    | some v => exact congrArg (v :: ·) herase

/-- Giving a map up yields the values that it shows. -/
theorem intoValues_eq_values (m : OrderedMap K V) : m.intoValues = m.values := by
  rw [values_eq_filterMap]
  exact drain_eq_filterMap m.nodup_order fun _ _ => rfl

/-! ## Changes in turn -/

inductive Update (K V : Type) where
  | insert (k : K) (v : V)
  | ensure (k : K) (make : Thunk V)
  | modify (k : K) (f : V → V)

/-- What a change answers. -/
inductive Answer (V : Type) where
  /-- The value that the key had before. -/
  | replaced (v? : Option V)
  /-- The value that the key has now, and whether it was made. -/
  | ensured (v : V) (isNew : Bool)
  /-- The value after the change, if there was one to change. -/
  | modified (v? : Option V)
  deriving DecidableEq, Repr

/-- Makes a change. The answer stands beside the map after it. -/
def change (m : OrderedMap K V) : Update K V → Answer V × OrderedMap K V
  | .insert k v => (m.insert k v).map .replaced id
  | .ensure k make => (m.ensure k make).map (fun answer => .ensured answer.1 answer.2) id
  | .modify k f => (m.modify k f).map .modified id

def update (m : OrderedMap K V) (u : Update K V) : OrderedMap K V := (m.change u).2

def answer (m : OrderedMap K V) (u : Update K V) : Answer V := (m.change u).1

def ofUpdates (updates : List (Update K V)) : OrderedMap K V := updates.foldl update empty

end OrderedMap

end WireDictionary
