import WireDictionary.Table
import Mathlib.Data.List.Induction
import Mathlib.Data.List.Nodup

/-! # What a table keeps of the rows written to it

A table keeps, for every key, the content of the last row written and the place
of the first. `Row.standing` says this of the list of rows alone, without a map,
and `Table.toList_ofRows` says that a table does it. A line without a row leaves
everything but the count of such lines alone, so a run of writes is the run of
the rows in it (`Table.ofWrites_eq`).
-/
namespace WireDictionary

/-! ## First appearances -/

section FirstAppearance

variable {α β : Type} [DecidableEq α] [DecidableEq β]

theorem eraseDups_concat (l : List α) (a : α) :
    (l ++ [a]).eraseDups = if a ∈ l then l.eraseDups else l.eraseDups ++ [a] := by
  rw [List.eraseDups_append]
  by_cases h : a ∈ l <;> simp [List.removeAll, List.eraseDups_cons, h]

theorem nodup_eraseDups (l : List α) : l.eraseDups.Nodup := by
  induction l using List.reverseRecOn with
  | nil => exact List.nodup_nil
  | append_singleton l a ih =>
    rw [eraseDups_concat]
    split
    · exact ih
    · rename_i ha
      refine List.nodup_append.mpr ⟨ih, List.pairwise_singleton _ a, ?_⟩
      rintro b hb c hc rfl
      rw [List.mem_singleton.mp hc, List.mem_eraseDups] at hb
      exact ha hb

theorem eraseDups_eq_self {l : List α} (h : l.Nodup) : l.eraseDups = l := by
  induction l using List.reverseRecOn with
  | nil => rfl
  | append_singleton l a ih =>
    obtain ⟨hl, -, hcross⟩ := List.nodup_append.mp h
    have ha : a ∉ l := fun hm => hcross a hm a List.mem_cons_self rfl
    rw [eraseDups_concat, if_neg ha, ih hl]

/-- What comes first among the images is what comes first among the images of first members. -/
theorem eraseDups_map_eraseDups (f : α → β) (l : List α) :
    (l.eraseDups.map f).eraseDups = (l.map f).eraseDups := by
  induction l using List.reverseRecOn with
  | nil => rfl
  | append_singleton l a ih =>
    have hmem : ∀ b, b ∈ l.eraseDups.map f ↔ b ∈ l.map f := by simp
    rw [eraseDups_concat, List.map_append, List.map_singleton, eraseDups_concat]
    split
    · rename_i ha
      rw [if_pos (List.mem_map_of_mem ha), ih]
    · rw [List.map_append, List.map_singleton, eraseDups_concat, ih]
      simp only [hmem]

end FirstAppearance

/-! ## Standing rows -/

namespace Row

variable {K R : Type} [DecidableEq K] [Row K R]

/-- The rows of the lines that yield one. -/
def accepted (R : Type) {K : Type} [Row K R] (lines : List String) : List R :=
  lines.filterMap fun line => (parse R line).toOption

/-- The keys of rows, in the order of their first appearance. -/
def keys (rows : List R) : List K := (rows.map key).eraseDups

/-- The last row with a key. -/
def last? (rows : List R) (k : K) : Option R := rows.reverse.find? (key · = k)

/-- For every key, the last row with it in the place of the first. -/
def standing (rows : List R) : List R := (keys rows).filterMap (last? rows)

theorem mem_keys {rows : List R} {k : K} : k ∈ keys rows ↔ ∃ row ∈ rows, key row = k := by
  simp [keys]

theorem keys_concat (rows : List R) (row : R) :
    keys (rows ++ [row]) = if key row ∈ keys rows then keys rows else keys rows ++ [key row] := by
  simp only [keys, List.map_append, List.map_singleton, eraseDups_concat, List.mem_eraseDups]

theorem last?_concat (rows : List R) (row : R) (k : K) :
    last? (rows ++ [row]) k = if k = key row then some row else last? rows k := by
  rw [last?, List.reverse_concat, List.find?_cons]
  by_cases h : k = key row
  · simp [h]
  · simp [h, Ne.symm h, last?]

theorem key_of_last? {rows : List R} {k : K} {row : R} (h : last? rows k = some row) :
    key row = k := by
  rw [last?] at h
  simpa using List.find?_some h

theorem mem_of_last? {rows : List R} {k : K} {row : R} (h : last? rows k = some row) :
    row ∈ rows := by
  rw [last?] at h
  exact List.mem_reverse.mp (List.mem_of_find?_eq_some h)

theorem isSome_last?_iff {rows : List R} {k : K} :
    (last? rows k).isSome = true ↔ k ∈ keys rows := by
  rw [mem_keys, last?, List.find?_isSome]
  simp

theorem last?_eq_none_iff {rows : List R} {k : K} : last? rows k = none ↔ k ∉ keys rows := by
  rw [← isSome_last?_iff, Option.not_isSome_iff_eq_none]

theorem mem_standing {rows : List R} {row : R} :
    row ∈ standing rows ↔ last? rows (key row) = some row := by
  rw [standing, List.mem_filterMap]
  constructor
  · rintro ⟨k, -, hk⟩
    rwa [key_of_last? hk]
  · intro h
    exact ⟨key row, isSome_last?_iff.mp (by simp [h]), h⟩

/-- Every row has a last one with its key. -/
theorem exists_last?_of_mem {rows : List R} {row : R} (h : row ∈ rows) :
    ∃ kept, last? rows (key row) = some kept :=
  Option.isSome_iff_exists.mp (isSome_last?_iff.mpr (mem_keys.mpr ⟨row, h, rfl⟩))

/-- Where no key comes twice, a row is the last with its key. -/
theorem last?_eq_some_iff_of_nodup {rows : List R} (h : (rows.map key).Nodup) {k : K} {row : R} :
    last? rows k = some row ↔ row ∈ rows ∧ key row = k := by
  constructor
  · intro hl
    exact ⟨mem_of_last? hl, key_of_last? hl⟩
  · rintro ⟨hrow, rfl⟩
    obtain ⟨other, hother⟩ := exists_last?_of_mem hrow
    rw [hother, List.inj_on_of_nodup_map h (mem_of_last? hother) hrow (key_of_last? hother)]

/-- Where no key comes twice, all rows stand. -/
theorem standing_eq_self {rows : List R} (h : (rows.map key).Nodup) : standing rows = rows := by
  have hlast : ∀ row ∈ rows, (last? rows ∘ key) row = some row := by
    intro row hrow
    exact (last?_eq_some_iff_of_nodup h).mpr ⟨hrow, rfl⟩
  rw [standing, keys, eraseDups_eq_self h, List.filterMap_map, List.filterMap_congr hlast,
    List.filterMap_some]

/-- Standing rows have the keys of all rows, each once. -/
theorem map_key_standing (rows : List R) : (standing rows).map key = keys rows := by
  have h : ∀ ks : List K, (∀ k ∈ ks, k ∈ keys rows) →
      (ks.filterMap (last? rows)).map key = ks := by
    intro ks hks
    induction ks with
    | nil => rfl
    | cons k rest ih =>
      obtain ⟨row, hrow⟩ := Option.isSome_iff_exists.mp
        (isSome_last?_iff.mpr (hks k List.mem_cons_self))
      rw [List.filterMap_cons, hrow, List.map_cons, key_of_last? hrow,
        ih fun j hj => hks j (List.mem_cons_of_mem k hj)]
  exact h (keys rows) fun _ hk => hk

theorem nodup_map_key_standing (rows : List R) : ((standing rows).map key).Nodup := by
  rw [map_key_standing]
  exact nodup_eraseDups _

/-- A standing row is the only one with its key. -/
theorem last?_standing (rows : List R) (k : K) : last? (standing rows) k = last? rows k := by
  cases hl : last? rows k with
  | none =>
    have hk := last?_eq_none_iff.mp hl
    rw [last?_eq_none_iff, keys, map_key_standing, List.mem_eraseDups]
    exact hk
  | some row =>
    have hk : k ∈ keys (standing rows) := by
      rw [keys, map_key_standing, List.mem_eraseDups]
      exact isSome_last?_iff.mp (by simp [hl])
    obtain ⟨other, ho⟩ := Option.isSome_iff_exists.mp (isSome_last?_iff.mpr hk)
    have hm := mem_standing.mp (mem_of_last? ho)
    rw [key_of_last? ho, hl] at hm
    rw [ho, hm]

theorem keys_standing (rows : List R) : keys (standing rows) = keys rows := by
  rw [keys, map_key_standing]
  exact eraseDups_eq_self (nodup_eraseDups _)

/-- Rows that stand keep standing. -/
theorem standing_standing (rows : List R) : standing (standing rows) = standing rows := by
  rw [standing, keys_standing]
  exact congrArg (List.filterMap · _) (funext (last?_standing rows))

end Row

/-! ## Tables of rows -/

namespace Table

variable {K R : Type} [DecidableEq K] [Row K R]

/-- The row that a write puts into a table, if it puts in one. -/
def Write.row? : Write R → Option R
  | .line text => (Row.parse R text).toOption
  | .row r => some r

/-- The rows that writes put into a table, in turn. -/
def written (writes : List (Write R)) : List R := writes.filterMap Write.row?

/-- The table that rows make when they are put in one after the other. -/
def ofRows (rows : List R) : Table K R := rows.foldl insert empty

theorem ofRows_concat (rows : List R) (row : R) :
    (ofRows (rows ++ [row]) : Table K R) = (ofRows rows).insert row := by
  simp [ofRows]

theorem keys_ofRows (rows : List R) : (ofRows rows : Table K R).rows.keys = Row.keys rows := by
  induction rows using List.reverseRecOn with
  | nil => rfl
  | append_singleton rows row ih =>
    rw [ofRows_concat, Row.keys_concat, ← ih]
    simp only [insert_eq, OrderedMap.keys_insert, OrderedMap.contains_iff_mem_keys]

theorem get?_ofRows (rows : List R) (k : K) :
    (ofRows rows : Table K R).get? k = Row.last? rows k := by
  induction rows using List.reverseRecOn with
  | nil => rfl
  | append_singleton rows row ih => rw [ofRows_concat, get?_insert, Row.last?_concat, ih]

/-- A table shows its standing rows. -/
theorem toList_ofRows (rows : List R) : (ofRows rows : Table K R).toList = Row.standing rows := by
  rw [toList, OrderedMap.values_eq_filterMap, keys_ofRows]
  exact congrArg (List.filterMap · _) (funext (get?_ofRows rows))

omit [DecidableEq K] in
theorem written_concat (writes : List (Write R)) (w : Write R) :
    written (writes ++ [w]) = written writes ++ w.row?.toList := by
  simp only [written, List.filterMap_append, List.filterMap_cons, List.filterMap_nil]
  cases w.row? <;> rfl

/-- Only the rows among the writes and the number of the other writes matter. -/
theorem ofWrites_eq (writes : List (Write R)) :
    (ofWrites writes : Table K R) =
      ⟨(ofRows (written writes)).rows, (ofRows (written writes)).names,
        writes.countP fun w => w.row?.isNone⟩ := by
  induction writes using List.reverseRecOn with
  | nil => rfl
  | append_singleton writes w ih =>
    have hw : (ofWrites (writes ++ [w]) : Table K R) = (ofWrites writes).write w := by
      simp [ofWrites]
    rw [hw, ih, written_concat, List.countP_append, List.countP_singleton]
    cases w with
    | row row =>
      rw [write, Write.row?, Option.toList_some, ofRows_concat, insert_eq, insert_eq]
      rfl
    | line text =>
      rw [write, Write.row?]
      cases hp : Row.parse R text with
      | ok row =>
        rw [push_of_ok hp, Except.toOption, Option.toList_some, ofRows_concat, insert_eq, insert_eq]
        rfl
      | error fault =>
        rw [push_of_error hp, Except.toOption, Option.toList_none, List.append_nil]
        rfl

theorem get?_ofWrites (writes : List (Write R)) (k : K) :
    (ofWrites writes : Table K R).get? k = Row.last? (written writes) k := by
  rw [ofWrites_eq]
  exact get?_ofRows _ k

theorem toList_ofWrites (writes : List (Write R)) :
    (ofWrites writes : Table K R).toList = Row.standing (written writes) := by
  rw [ofWrites_eq]
  exact toList_ofRows _

theorem ofLines_eq_ofWrites (lines : List String) :
    (ofLines lines : Table K R) = ofWrites (lines.map .line) := by
  rw [ofLines, pushAll_eq_foldl, ofWrites, List.foldl_map]
  rfl

omit [DecidableEq K] in
theorem written_map_line (lines : List String) :
    written (lines.map .line) = Row.accepted R lines := by
  simp only [written, List.filterMap_map, Row.accepted]
  rfl

/-- The table of lines shows the standing rows among those that the lines yield. -/
theorem toList_ofLines (lines : List String) :
    (ofLines lines : Table K R).toList = Row.standing (Row.accepted R lines) := by
  rw [ofLines_eq_ofWrites, toList_ofWrites, written_map_line]

/-- The table of lines counts those that yield no row. -/
theorem skipped_ofLines (lines : List String) :
    (ofLines lines : Table K R).skipped =
      lines.countP fun line => (Row.parse R line).toOption.isNone := by
  rw [ofLines_eq_ofWrites, ofWrites_eq, List.countP_map]
  rfl

end Table

end WireDictionary
