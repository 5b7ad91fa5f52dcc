import WireDictionary.Proofs.StandingRows
import WireDictionary.Row.Enum

/-! # What a table makes of lines

Lines are pushed one after the other. A line that is not accepted leaves a table
as it was and is counted (`push_of_not_isAccepted`), so a run of lines makes the
table of the accepted ones, whatever stands between them
(`ofLines_filter_isAccepted`). What that table shows is said of the accepted rows
alone.
-/
namespace WireDictionary

namespace Row

/-- Whether a line yields a row. A line that is too short, or has a number that cannot be read,
yields none. -/
def isAccepted (R : Type) {K : Type} [Row K R] (line : String) : Bool :=
  (parse R line).toOption.isSome

variable {K R : Type} [Row K R] {line : String}

theorem isAccepted_iff : isAccepted R line = true ↔ ∃ row, parse R line = .ok row := by
  unfold isAccepted
  cases parse R line <;> simp [Except.toOption]

theorem isAccepted_eq_false_iff :
    isAccepted R line = false ↔ ∃ fault, parse R line = .error fault := by
  unfold isAccepted
  cases parse R line <;> simp [Except.toOption]

end Row

namespace Table

variable {K R : Type} [DecidableEq K] [Row K R]

/-- Tables that show the same rows in the same order and answer alike for every key and name. They
may have met different numbers of lines without a row. -/
structure Agree (t t' : Table K R) : Prop where
  toList : t.toList = t'.toList
  get? : ∀ k, t.get? k = t'.get? k
  byName? : ∀ n, t.byName? n = t'.byName? n

omit [Row K R] in
/-- The count of lines without a row answers nothing. -/
theorem agree_of_rows_of_names {t t' : Table K R} (hrows : t.rows = t'.rows)
    (hnames : t.names = t'.names) : t.Agree t' := by
  have hget : ∀ k, t.get? k = t'.get? k := by
    intro k
    unfold get?
    rw [hrows]
  refine ⟨?_, hget, ?_⟩
  · unfold toList
    rw [hrows]
  · intro n
    unfold byName?
    rw [hnames, funext hget]

theorem push_of_not_isAccepted {t : Table K R} {line : String}
    (h : Row.isAccepted R line = false) : t.push line = { t with skipped := t.skipped + 1 } := by
  obtain ⟨fault, hfault⟩ := Row.isAccepted_eq_false_iff.mp h
  exact push_of_error hfault

theorem ofLines_nil : (ofLines [] : Table K R) = empty := pushAll_eq_foldl empty []

theorem ofLines_concat (lines : List String) (line : String) :
    (ofLines (lines ++ [line]) : Table K R) = (ofLines lines).push line := by
  unfold ofLines
  rw [pushAll_eq_foldl, pushAll_eq_foldl, List.foldl_concat]

/-- The accepted lines make the table that all lines make. -/
theorem ofLines_filter_isAccepted (lines : List String) :
    (ofLines (lines.filter (Row.isAccepted R)) : Table K R) =
      { ofLines lines with skipped := 0 } := by
  induction lines using List.reverseRecOn with
  | nil =>
    rw [List.filter_nil, ofLines_nil]
    rfl
  | append_singleton lines line ih =>
    rw [List.filter_append, ofLines_concat]
    cases hline : Row.isAccepted R line with
    | false =>
      rw [List.filter_cons_of_neg (by simp [hline]), List.filter_nil, List.append_nil, ih,
        push_of_not_isAccepted hline]
    | true =>
      obtain ⟨row, hrow⟩ := Row.isAccepted_iff.mp hline
      rw [List.filter_cons_of_pos hline, List.filter_nil, ofLines_concat, ih, push_of_ok hrow,
        push_of_ok hrow, insert_eq, insert_eq]

theorem get?_ofLines (lines : List String) (k : K) :
    (ofLines lines : Table K R).get? k = Row.last? (Row.accepted R lines) k := by
  rw [ofLines_eq_ofWrites, get?_ofWrites, written_map_line]

theorem map_key_ofLines (lines : List String) :
    (ofLines lines : Table K R).toList.map Row.key = Row.keys (Row.accepted R lines) := by
  rw [toList_ofLines, Row.map_key_standing]

omit [Row K R] in
theorem length_toList (t : Table K R) : t.toList.length = t.size :=
  t.rows.length_values

theorem size_ofLines (lines : List String) :
    (ofLines lines : Table K R).size = (Row.keys (Row.accepted R lines)).length := by
  rw [← map_key_ofLines, List.length_map, length_toList]

/-- **What a table keeps of lines.** Its rows go through the distinct keys of the accepted lines, in
the order in which these first came; under every key is the row of the last accepted line with it,
both where the key is looked up and where the rows are listed or given up. A line that is not
accepted is counted and changes nothing else, at whatever point it comes; without all such lines the
table would show the same rows and answer alike. -/
theorem lines_kept (lines : List String) :
    let t : Table K R := ofLines lines
    let rows := Row.accepted R lines
    t.toList.map Row.key = Row.keys rows ∧
      (t.toList.map fun row => t.get? (Row.key row)) = t.toList.map some ∧
      (∀ k, t.get? k = Row.last? rows k) ∧
      t.size = (Row.keys rows).length ∧
      t.intoRows = t.toList ∧
      t.skipped = lines.countP (fun line => !Row.isAccepted R line) ∧
      (∀ line, Row.isAccepted R line = false →
        t.push line = { t with skipped := t.skipped + 1 }) ∧
      (ofLines (lines.filter (Row.isAccepted R)) : Table K R).Agree t := by
  intro t rows
  have hlisted : (t.toList.map fun row => t.get? (Row.key row)) = t.toList.map some := by
    refine List.map_congr_left fun row hrow => ?_
    rw [toList_ofLines] at hrow
    rw [get?_ofLines]
    exact Row.mem_standing.mp hrow
  have hskipped : t.skipped = lines.countP fun line => !Row.isAccepted R line := by
    rw [skipped_ofLines]
    refine List.countP_congr fun line _ => ?_
    rw [Row.isAccepted, Option.not_isSome]
  have hagree : (ofLines (lines.filter (Row.isAccepted R)) : Table K R).Agree t := by
    rw [ofLines_filter_isAccepted]
    exact agree_of_rows_of_names rfl rfl
  exact ⟨map_key_ofLines lines, hlisted, get?_ofLines lines, size_ofLines lines,
    intoRows_eq_toList t, hskipped, fun _ => push_of_not_isAccepted, hagree⟩

/-- A value is written in two ways, so that the last line takes the row of the first; between them
are a line with a broken number and a short one. -/
theorem colliding_lines_kept :
    let t : Table PairKey EntryRow :=
      ofLines ["1^0x01^first", "1^2^two", "1^x^broken", "1^2", "1^1^second"]
    t.toList.map Row.key = [⟨1, 1⟩, ⟨1, 2⟩] ∧
      (t.get? ⟨1, 1⟩).map EntryRow.name = some "second" ∧
      t.skipped = 2 ∧
      Row.isAccepted EntryRow "1^x^broken" = false ∧
      t.push "1^x^broken" = { t with skipped := t.skipped + 1 } := by
  intro t
  obtain ⟨hkeys, -, hget, -, -, hskipped, hpush, -⟩ :=
    lines_kept (R := EntryRow) ["1^0x01^first", "1^2^two", "1^x^broken", "1^2", "1^1^second"]
  have hbroken : Row.isAccepted EntryRow "1^x^broken" = false := by decide +kernel
  refine ⟨hkeys.trans (by decide +kernel), ?_, hskipped.trans (by decide +kernel), hbroken,
    hpush _ hbroken⟩
  rw [hget]
  decide +kernel

end Table

end WireDictionary
