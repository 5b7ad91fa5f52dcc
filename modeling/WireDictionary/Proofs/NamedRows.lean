import WireDictionary.Proofs.StandingRows
import WireDictionary.Row.Field

/-! # Which row a name leads to

A table remembers one key for each name: that of the row written last under it.
Nothing takes the key back when that row is replaced by one of another name. So
a name leads to the newest row of that name in the table (`Row.newest?`) exactly
if the row written last under it is still there; otherwise it leads to a row of
another name.
-/
namespace WireDictionary

namespace Row

variable {K R : Type} [DecidableEq K] [Row K R]

/-- The rows that are not replaced, by the time at which they were written. A row goes behind all
others and replaces the row with its key. -/
def current (rows : List R) : List R :=
  rows.foldl (fun kept row => kept.filter (key · ≠ key row) ++ [row]) []

/-- The newest of the current rows with a name. -/
def newest? (rows : List R) (n : String) : Option R := (current rows).reverse.find? (name · = n)

/-- The row written last with a name, whether or not it is current. -/
def lastNamed? (rows : List R) (n : String) : Option R := rows.reverse.find? (name · = n)

theorem current_concat (rows : List R) (row : R) :
    current (rows ++ [row]) = (current rows).filter (key · ≠ key row) ++ [row] := by
  simp [current]

omit [DecidableEq K] in
theorem lastNamed?_concat (rows : List R) (row : R) (n : String) :
    lastNamed? (rows ++ [row]) n = if name row = n then some row else lastNamed? rows n := by
  rw [lastNamed?, List.reverse_concat, List.find?_cons]
  by_cases h : name row = n <;> simp [h, lastNamed?]

theorem newest?_concat (rows : List R) (row : R) (n : String) :
    newest? (rows ++ [row]) n =
      if name row = n then some row
      else ((current rows).reverse.filter (key · ≠ key row)).find? (name · = n) := by
  rw [newest?, current_concat, List.reverse_concat, List.find?_cons, List.filter_reverse]
  by_cases h : name row = n <;> simp [h]

/-- The current rows are those that stand. -/
theorem mem_current {rows : List R} {row : R} : row ∈ current rows ↔ row ∈ standing rows := by
  rw [mem_standing]
  induction rows using List.reverseRecOn with
  | nil => simp [current, last?]
  | append_singleton rows last ih =>
    rw [current_concat, List.mem_append, List.mem_filter, ih, List.mem_singleton, last?_concat]
    by_cases hk : key row = key last
    · simp [hk, eq_comm]
    · have hne : row ≠ last := fun he => hk (congrArg key he)
      simp [hk, hne]

theorem newest?_eq_none_iff {rows : List R} {n : String} :
    newest? rows n = none ↔ ∀ row ∈ standing rows, name row ≠ n := by
  simp [newest?, mem_current]

theorem standing_of_newest? {rows : List R} {n : String} {row : R} (h : newest? rows n = some row) :
    row ∈ standing rows ∧ name row = n :=
  ⟨mem_current.mp (List.mem_reverse.mp (List.mem_of_find?_eq_some h)),
    by simpa using List.find?_some h⟩

omit [DecidableEq K] in
theorem name_of_lastNamed? {rows : List R} {n : String} {row : R}
    (h : lastNamed? rows n = some row) : name row = n := by
  rw [lastNamed?] at h
  simpa using List.find?_some h

omit [DecidableEq K] in
theorem mem_of_lastNamed? {rows : List R} {n : String} {row : R}
    (h : lastNamed? rows n = some row) : row ∈ rows := by
  rw [lastNamed?] at h
  exact List.mem_reverse.mp (List.mem_of_find?_eq_some h)

theorem exists_last?_of_lastNamed? {rows : List R} {n : String} {row : R}
    (h : lastNamed? rows n = some row) : ∃ found, last? rows (key row) = some found :=
  exists_last?_of_mem (mem_of_lastNamed? h)

omit [DecidableEq K] in
theorem lastNamed?_eq_none_iff {rows : List R} {n : String} :
    lastNamed? rows n = none ↔ ∀ row ∈ rows, name row ≠ n := by
  simp [lastNamed?]

theorem find?_filter_of_find? {α : Type} {p q : α → Bool} {l : List α} {a : α}
    (h : l.find? p = some a) (hq : q a = true) : (l.filter q).find? p = some a := by
  obtain ⟨hp, xs, ys, rfl, hxs⟩ := List.find?_eq_some_iff_append.mp h
  refine List.find?_eq_some_iff_append.mpr ⟨hp, xs.filter q, ys.filter q, ?_, ?_⟩
  · rw [List.filter_append, List.filter_cons_of_pos hq]
  · exact fun x hx => hxs x (List.mem_filter.mp hx).1

/-- If it stands, the row written last with a name is the newest with that name. -/
theorem newest?_of_standing {rows : List R} {n : String} {row : R}
    (h : lastNamed? rows n = some row) (hs : row ∈ standing rows) : newest? rows n = some row := by
  rw [← mem_current] at hs
  induction rows using List.reverseRecOn with
  | nil => cases hs
  | append_singleton rows last ih =>
    rw [lastNamed?_concat] at h
    rw [newest?_concat]
    split at h
    · rename_i hn
      rw [if_pos hn, h]
    · rename_i hn
      have hne : row ≠ last := fun he => hn (he ▸ name_of_lastNamed? h)
      rw [current_concat, List.mem_append, List.mem_singleton, or_iff_left hne,
        List.mem_filter] at hs
      rw [if_neg hn]
      exact find?_filter_of_find? (ih h hs.1) hs.2

/-- Once a row is replaced by one of another name, its key leads to no row of its name before that
name is written again. -/
theorem eq_of_last?_of_name {rows : List R} {n : String} {row found : R}
    (h : lastNamed? rows n = some row) (hf : last? rows (key row) = some found)
    (hn : name found = n) : found = row := by
  induction rows using List.reverseRecOn with
  | nil => cases h
  | append_singleton rows last ih =>
    rw [lastNamed?_concat] at h
    rw [last?_concat] at hf
    split at h
    · rw [if_pos (congrArg key (Option.some.inj h).symm)] at hf
      exact (Option.some.inj hf).symm.trans (Option.some.inj h)
    · rename_i hlast
      split at hf
      · exact absurd (Option.some.inj hf ▸ hn) hlast
      · exact ih h hf

end Row

namespace Table

variable {K R : Type} [DecidableEq K] [Row K R]

/-- A name is bound to the key of the row written last under it. -/
theorem get?_names_ofRows (rows : List R) (n : String) :
    (ofRows rows : Table K R).names.get? n = (Row.lastNamed? rows n).map Row.key := by
  induction rows using List.reverseRecOn with
  | nil => rfl
  | append_singleton rows row ih =>
    rw [ofRows_concat, Row.lastNamed?_concat, insert_eq, Index.get?_set, ih]
    simp only [eq_comm (a := n)]
    split <;> rfl

theorem byName?_ofRows (rows : List R) (n : String) :
    (ofRows rows : Table K R).byName? n =
      (Row.lastNamed? rows n).bind fun row => Row.last? rows (Row.key row) := by
  rw [byName?, get?_names_ofRows, Option.bind_map]
  exact congrArg (Option.bind _) (funext fun row => get?_ofRows rows (Row.key row))

theorem byName?_ofRows_eq_newest?_iff (rows : List R) (n : String) :
    (ofRows rows : Table K R).byName? n = Row.newest? rows n ↔
      ∀ row, Row.lastNamed? rows n = some row → row ∈ Row.standing rows := by
  rw [byName?_ofRows]
  cases hl : Row.lastNamed? rows n with
  | none =>
    have hnone : Row.newest? rows n = none := Row.newest?_eq_none_iff.mpr fun row hrow =>
      Row.lastNamed?_eq_none_iff.mp hl row (Row.mem_of_last? (Row.mem_standing.mp hrow))
    rw [hnone]
    simp
  | some row =>
    constructor
    · intro h other hother
      obtain rfl := Option.some.inj hother
      rw [Option.bind_some] at h
      obtain ⟨found, hf⟩ := Row.exists_last?_of_lastNamed? hl
      rw [hf] at h
      have hfound := Row.eq_of_last?_of_name hl hf (Row.standing_of_newest? h.symm).2
      rw [Row.mem_standing, hf, hfound]
    · intro h
      have hs := h row rfl
      rw [Row.newest?_of_standing hl hs, Option.bind_some, Row.mem_standing.mp hs]

theorem byName?_ofWrites (writes : List (Write R)) (n : String) :
    (ofWrites writes : Table K R).byName? n = (ofRows (written writes) : Table K R).byName? n := by
  rw [ofWrites_eq]
  rfl

/-- **What a name leads to.** It leads to the row that now has the key of the row written last under
the name. This is the newest row of that name in the table, and nothing if the table has none,
exactly if the row written last under the name is still there. If it is not, the name leads to a row
of another name. -/
theorem byName_spec (writes : List (Write R)) (n : String) :
    ((ofWrites writes : Table K R).byName? n =
        (Row.lastNamed? (written writes) n).bind fun row =>
          (ofWrites writes : Table K R).get? (Row.key row)) ∧
      ((ofWrites writes : Table K R).byName? n = Row.newest? (written writes) n ↔
        ∀ row, Row.lastNamed? (written writes) n = some row →
          row ∈ (ofWrites writes : Table K R).toList) ∧
      ((∃ row, (ofWrites writes : Table K R).byName? n = some row ∧ Row.name row ≠ n) ↔
        ∃ row, Row.lastNamed? (written writes) n = some row ∧
          row ∉ (ofWrites writes : Table K R).toList) := by
  simp only [byName?_ofWrites, get?_ofWrites, toList_ofWrites]
  refine ⟨byName?_ofRows .., byName?_ofRows_eq_newest?_iff .., ?_⟩
  rw [byName?_ofRows]
  constructor
  · rintro ⟨found, hf, hn⟩
    obtain ⟨row, hl, hf⟩ := Option.bind_eq_some_iff.mp hf
    refine ⟨row, hl, fun hs => hn ?_⟩
    rw [Row.mem_standing.mp hs] at hf
    rw [← Option.some.inj hf]
    exact Row.name_of_lastNamed? hl
  · rintro ⟨row, hl, hs⟩
    obtain ⟨found, hf⟩ := Row.exists_last?_of_lastNamed? hl
    refine ⟨found, by rw [hl, Option.bind_some, hf], fun hn => hs ?_⟩
    rw [Row.mem_standing, hf, Row.eq_of_last?_of_name hl hf hn]

/-- A row that takes another name on leaves its old name behind, and the old name leads to it. -/
theorem byName_renamed :
    ((ofWrites [.line "1^a^8^2^0^0", .line "1^b^8^2^0^0"] : Table Int64 FieldRow).byName? "a").map
        FieldRow.name = some "b" ∧
      (Row.newest? (written [.line "1^a^8^2^0^0", .line "1^b^8^2^0^0"] : List FieldRow) "a") =
        none := by
  decide +kernel

end Table

end WireDictionary
