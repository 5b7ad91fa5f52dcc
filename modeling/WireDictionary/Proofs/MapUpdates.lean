import WireDictionary.Proofs.StandingRows

/-! # What updates leave in an ordered map

Every update changes the index and the array of keys on their own. What the two
hold after a run of updates is said here of the updates alone: the keys in the
order in which each was first given a value (`firstKeys`), and under each key
the value that it was left with (`latest?`). One update has a lemma for the keys
and one for the values (`keys_update`, `get?_update`); a run follows by induction
at its end. A change through what `ensure` gives is `ensure` and then `modify`.
-/
namespace WireDictionary.OrderedMap

variable {K V : Type} [DecidableEq K]

/-! ## One update -/

/-- The key that an update gives a value if it has none. -/
def Update.key? : Update K V → Option K
  | .insert k _ | .ensure k _ => some k
  | .modify _ _ => none

/-- What an update makes of the value of a key. -/
def Update.valueAfter (k : K) (v? : Option V) : Update K V → Option V
  | .insert j v => if k = j then some v else v?
  | .ensure j make => if k = j then some (v?.getD make.get) else v?
  | .modify j f => if k = j then v?.map f else v?

theorem keys_update (m : OrderedMap K V) (u : Update K V) :
    (m.update u).keys =
      match u.key? with
      | some k => if k ∈ m.keys then m.keys else m.keys ++ [k]
      | none => m.keys := by
  cases u with
  | insert k v =>
    simp only [← contains_iff_mem_keys]
    exact keys_insert m k v
  | ensure k make =>
    simp only [← contains_iff_mem_keys]
    exact keys_ensure m k make
  | modify k f => exact keys_modify m k f

theorem get?_update (m : OrderedMap K V) (u : Update K V) (k : K) :
    (m.update u).get? k = u.valueAfter k (m.get? k) := by
  cases u with
  | insert j v => exact get?_insert m j k v
  | ensure j make =>
    have hget : (m.update (.ensure j make)).get? k =
        if k = j then some ((m.get? j).getD make.get) else m.get? k := get?_ensure m j k make
    rw [hget, Update.valueAfter]
    split
    · rename_i hk
      rw [hk]
    · rfl
  | modify j f => exact get?_modify m j k f

theorem update_ensure_of_contains {m : OrderedMap K V} {k : K} (h : m.contains k = true)
    (make : Thunk V) : m.update (.ensure k make) = m := by
  have hindex : (m.index.ensure k make).2 = m.index := (Index.snd_ensure _ _ _).trans (if_pos h)
  have horder : m.orderWith k = m.order := if_pos h
  change (m.ensure k make).2 = m
  cases m
  simp only [ensure, hindex, horder]

/-- Without a value to keep, both ways to give one are the same. -/
theorem update_ensure_eq_insert {m : OrderedMap K V} {k : K} (h : m.contains k = false)
    (make : Thunk V) : m.update (.ensure k make) = m.update (.insert k make.get) := by
  have hindex : (m.index.ensure k make).2 = m.index.set k make.get := by
    have hc : ¬ m.index.contains k = true := ne_true_of_eq_false h
    rw [Index.snd_ensure, Index.set, if_neg hc, if_neg hc]
  change (m.ensure k make).2 = (m.insert k make.get).2
  simp only [ensure, insert, hindex]

/-! ## Runs of updates -/

/-- The keys that are given a value, in the order of the first time. -/
def firstKeys (us : List (Update K V)) : List K := (us.filterMap Update.key?).eraseDups

/-- The value that updates leave a key with. -/
def latest? (k : K) (us : List (Update K V)) : Option V := us.foldl (Update.valueAfter k) none

theorem ofUpdates_concat (us : List (Update K V)) (u : Update K V) :
    ofUpdates (us ++ [u]) = (ofUpdates us).update u := by
  simp [ofUpdates]

theorem latest?_concat (k : K) (us : List (Update K V)) (u : Update K V) :
    latest? k (us ++ [u]) = u.valueAfter k (latest? k us) := by
  simp [latest?]

theorem firstKeys_concat (us : List (Update K V)) (u : Update K V) :
    firstKeys (us ++ [u]) =
      match u.key? with
      | some k => if k ∈ firstKeys us then firstKeys us else firstKeys us ++ [k]
      | none => firstKeys us := by
  rw [firstKeys, List.filterMap_append]
  -- a change in place gives no key a value, so only the other updates add one
  cases hk : u.key? with
  | none => simp [hk, firstKeys]
  | some k =>
    have hone : [u].filterMap Update.key? = [k] := by simp [hk]
    rw [hone, eraseDups_concat]
    simp only [firstKeys, List.mem_eraseDups]

/-- The keys of later updates come behind those of earlier ones. -/
theorem firstKeys_prefix (us later : List (Update K V)) :
    firstKeys us <+: firstKeys (us ++ later) := by
  rw [firstKeys, firstKeys, List.filterMap_append, List.eraseDups_append]
  exact List.prefix_append _ _

theorem keys_ofUpdates (us : List (Update K V)) : (ofUpdates us).keys = firstKeys us := by
  induction us using List.reverseRecOn with
  | nil => rfl
  | append_singleton us u ih => rw [ofUpdates_concat, keys_update, firstKeys_concat, ih]

theorem get?_ofUpdates (us : List (Update K V)) (k : K) :
    (ofUpdates us).get? k = latest? k us := by
  induction us using List.reverseRecOn with
  | nil => rfl
  | append_singleton us u ih => rw [ofUpdates_concat, get?_update, latest?_concat, ih]

theorem contains_ofUpdates {us : List (Update K V)} {k : K} :
    (ofUpdates us).contains k = true ↔ k ∈ firstKeys us := by
  rw [contains_iff_mem_keys, keys_ofUpdates]

/-- A key has a value from the first time that it is given one. -/
theorem isSome_latest?_iff {us : List (Update K V)} {k : K} :
    (latest? k us).isSome = true ↔ k ∈ firstKeys us := by
  rw [← get?_ofUpdates, isSome_get?_iff, keys_ofUpdates]

/-! ## What a map shows -/

/-- What an update answers after others. -/
def answerAfter (us : List (Update K V)) : Update K V → Answer V
  | .insert k _ => .replaced (latest? k us)
  | .ensure k make => .ensured ((latest? k us).getD make.get) (k ∉ firstKeys us)
  | .modify k f => .modified ((latest? k us).map f)

/-- A map is the list of the keys that updates gave values, each with its latest value: in both of
its parts, however it is listed, and in whatever it answers next. -/
structure Lists (m : OrderedMap K V) (us : List (Update K V)) : Prop where
  order : m.order.toList = firstKeys us
  nodup : m.order.toList.Nodup
  mem_index : ∀ k, k ∈ m.index.keys ↔ k ∈ firstKeys us
  get? : ∀ k, m.get? k = latest? k us
  /-- No key is listed without a value. -/
  entries : (m.entries.map fun e => (e.1, some e.2)) = (firstKeys us).map fun k => (k, latest? k us)
  keys : m.keys = m.entries.map Prod.fst
  values : m.values = m.entries.map Prod.snd
  intoValues : m.intoValues = m.values
  size : m.size = (firstKeys us).length
  answer : ∀ u, m.answer u = answerAfter us u

theorem map_some_entries (m : OrderedMap K V) :
    (m.entries.map fun e => (e.1, some e.2)) = m.keys.map fun k => (k, m.get? k) := by
  rw [← map_fst_entries, List.map_map]
  refine List.map_congr_left fun e he => ?_
  rw [Function.comp_apply, get?_of_mem_entries he]

theorem answer_ofUpdates (us : List (Update K V)) (u : Update K V) :
    (ofUpdates us).answer u = answerAfter us u := by
  cases u with
  | insert k v =>
    rw [answerAfter, ← get?_ofUpdates]
    rfl
  | ensure k make =>
    have hnew : (!(ofUpdates us).contains k) = decide (k ∉ firstKeys us) := by
      rw [Bool.eq_iff_iff, Bool.not_eq_true', decide_eq_true_eq, ← contains_ofUpdates,
        Bool.not_eq_true]
    have hanswer : (ofUpdates us).answer (.ensure k make) =
        .ensured ((ofUpdates us).ensure k make).1.1 ((ofUpdates us).ensure k make).1.2 := rfl
    rw [hanswer, fst_ensure, answerAfter, ← get?_ofUpdates, ← hnew]
  | modify k f =>
    rw [answerAfter, ← get?_ofUpdates]
    rfl

theorem lists_ofUpdates (us : List (Update K V)) : (ofUpdates us).Lists us where
  order := keys_ofUpdates us
  nodup := (ofUpdates us).nodup_keys
  mem_index k := by rw [← keys_ofUpdates, keys, (ofUpdates us).mem_order]
  get? := get?_ofUpdates us
  entries := by simp only [map_some_entries, keys_ofUpdates, get?_ofUpdates]
  keys := (map_fst_entries _).symm
  values := rfl
  intoValues := intoValues_eq_values _
  size := by rw [← length_keys, keys_ofUpdates]
  answer := answer_ofUpdates us

theorem ofUpdates_ensure (us : List (Update K V)) (k : K) (make : Thunk V) :
    ofUpdates (us ++ [.ensure k make]) =
      if k ∈ firstKeys us then ofUpdates us else ofUpdates (us ++ [.insert k make.get]) := by
  rw [ofUpdates_concat, ofUpdates_concat]
  split
  · rename_i hk
    exact update_ensure_of_contains (contains_ofUpdates.mpr hk) make
  · rename_i hk
    exact update_ensure_eq_insert (Bool.eq_false_iff.mpr fun hc => hk (contains_ofUpdates.mp hc))
      make

/-- **A map is a list of keys with their latest values.** After any updates of an empty map, its
keys are those that were given a value, each once and in the order of the first time, and each has
the value that it was left with last. That is what both parts of the map hold, what every listing
shows and what every further update answers: whether a key had a value, which one, and whether a
value was made for it. A value is made only for a key without one, and what is given for a key is
what a change of it starts from. The keys of an earlier map come first in every later one. -/
theorem updates_listed (us : List (Update K V)) :
    (ofUpdates us).Lists us ∧ (∀ k, (latest? k us).isSome = true ↔ k ∈ firstKeys us) ∧
      (∀ k make, ofUpdates (us ++ [.ensure k make]) =
        if k ∈ firstKeys us then ofUpdates us else ofUpdates (us ++ [.insert k make.get])) ∧
      (∀ k make f, (ofUpdates (us ++ [.ensure k make, .modify k f])).get? k =
        some (f ((latest? k us).getD make.get))) ∧
      ∀ later, (ofUpdates us).keys <+: (ofUpdates (us ++ later)).keys := by
  refine ⟨lists_ofUpdates us, fun k => isSome_latest?_iff, ofUpdates_ensure us, ?_, ?_⟩
  · intro k make f
    have hpair : us ++ [.ensure k make, .modify k f] = us ++ [.ensure k make] ++ [.modify k f] := by
      simp
    rw [get?_ofUpdates, hpair, latest?_concat, latest?_concat]
    simp [Update.valueAfter]
  · intro later
    rw [keys_ofUpdates, keys_ofUpdates]
    exact firstKeys_prefix us later

-- a second value keeps the first place, and a key without a value is not changed
example : (ofUpdates [.insert "x" 1, .modify "z" (· + 1), .ensure "y" (.pure 2), .insert "x" 3,
    .ensure "y" (.pure 5), .modify "y" (· + 10)] : OrderedMap String Nat).entries =
      [("x", 3), ("y", 12)] := by decide +kernel

end WireDictionary.OrderedMap
