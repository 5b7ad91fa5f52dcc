import WireDictionary.Row.Entity
import WireDictionary.Row.Enum
import WireDictionary.Row.Field
import WireDictionary.Row.Fragment
import Mathlib.Data.Nat.Find

/-! # What a line reads as

Columns are read one after the other by a cursor. A request for a column comes to one
of four things (`Cursor.Answers`): what the column holds, an error about it, or, at the
end of the line, nothing or an error. The cursor stands behind the columns that have
been asked for (`Cursor.HasAsked`), so each kind of column is read at its own place, and
reading ends at the first column that its kind rejects. A line therefore reads as one of
three things that its columns settle (`Row.ReadsAs`): it is short, or it has a first bad
number, or each part of a row is in its place.
-/
namespace WireDictionary

/-! ## Single columns -/

namespace ColumnKind

/-- Whether a column lacks the number that its kind asks for. An optional column may be blank. -/
def Rejects : ColumnKind → String → Prop
  | .text, _ => False
  | .integer, raw | .flag, raw => Numeral.decimal? raw.toList = none
  | .literal, raw => Numeral.literal? raw.toList = none
  | .optionalInteger, raw | .optionalFlag, raw =>
    raw.toList.all Text.isBlank = false ∧ Numeral.decimal? raw.toList = none

/-- The number in an optional column: none in a blank one, and none without a column. -/
def optionalNumber? : Option String → Option (Option Int64)
  | none => some none
  | some raw =>
    if raw.toList.all Text.isBlank then some none else (Numeral.decimal? raw.toList).map some

/-- What a column of a kind holds, if it is there and holds what it must. -/
def cell? : (kind : ColumnKind) → Option String → Option kind.Cell
  | .text, column? => column?
  | .integer, column? => column?.bind fun raw => Numeral.decimal? raw.toList
  | .literal, column? => column?.bind fun raw => Numeral.literal? raw.toList
  | .flag, column? => (column?.bind fun raw => Numeral.decimal? raw.toList).map (· != 0)
  | .optionalInteger, column? => optionalNumber? column?
  | .optionalFlag, column? => (optionalNumber? column?).map fun v? => v?.map (· != 0)

theorem optionalNumber?_eq_none_iff {raw : String} : optionalNumber? (some raw) = none ↔
    raw.toList.all Text.isBlank = false ∧ Numeral.decimal? raw.toList = none := by
  unfold optionalNumber?
  dsimp only
  split
  · rename_i h
    exact iff_of_false (Option.some_ne_none _) fun hn => Bool.noConfusion (h.symm.trans hn.1)
  · rename_i h
    rw [Option.map_eq_none_iff, Bool.eq_false_iff]
    exact (and_iff_right h).symm

/-- A column that is there is read unless it is rejected. -/
theorem cell?_some_eq_none_iff {kind : ColumnKind} {raw : String} :
    kind.cell? (some raw) = none ↔ kind.Rejects raw := by
  cases kind with
  | text => exact iff_of_false (Option.some_ne_none raw) id
  | integer | literal => exact Iff.rfl
  | flag => exact Option.map_eq_none_iff
  | optionalInteger => exact optionalNumber?_eq_none_iff
  | optionalFlag => exact Option.map_eq_none_iff.trans optionalNumber?_eq_none_iff

/-- Only optional columns may be missing. -/
theorem isSome_cell?_none (kind : ColumnKind) :
    (kind.cell? none).isSome = !kind.isRequired := by
  cases kind <;> rfl

theorem cell?_none_eq_none_iff {kind : ColumnKind} :
    kind.cell? none = none ↔ kind.isRequired = true := by
  rw [← Option.not_isSome_iff_eq_none, kind.isSome_cell?_none, Bool.not_eq_true, Bool.not_eq_false']

end ColumnKind

namespace Cursor

/-- The cursor once a column has been read, if there was one. -/
def past (c : Cursor) : Cursor := if c.column?.isSome then c.advance else c

/-- What reading the column at the cursor comes to, if it holds the cell. -/
def outcome {α : Type} (c : Cursor) (cell? : Option α) : EStateM.Result ColumnError Cursor α :=
  match cell?, c.column? with
  | some cell, _ => .ok cell c.past
  | none, some raw => .error (.notANumber c.position raw) c.advance
  | none, none => .error (.missing c.position c.size) c

theorem outcome_none_of_column? {α : Type} {c : Cursor} {raw : String} (h : c.column? = some raw) :
    c.outcome (none : Option α) = .error (.notANumber c.position raw) c.advance := by
  unfold outcome
  rw [h]

theorem number_run_eq (parse : List Char → Option Int64) (c : Cursor) :
    (number parse).run c = c.outcome (c.column?.bind fun raw => parse raw.toList) := by
  rw [number_run]
  unfold outcome past
  cases c.column? with
  | none => rfl
  | some raw => cases hparse : parse raw.toList <;> simp [hparse]

theorem optionalNumber_run_eq (c : Cursor) :
    optionalNumber.run c = c.outcome (ColumnKind.optionalNumber? c.column?) := by
  rw [optionalNumber_run]
  unfold outcome past
  cases c.column? with
  | none => rfl
  | some raw =>
    cases hblank : raw.toList.all Text.isBlank <;>
      cases hparse : Numeral.decimal? raw.toList <;>
        simp [hblank, hparse, ColumnKind.optionalNumber?]

/-- What is made of a cell does not decide whether it is read. -/
theorem run_map_eq_outcome {α β : Type} {r : Reader α} {c : Cursor} {cell? : Option α}
    (h : r.run c = c.outcome cell?) (f : α → β) :
    EStateM.run (do return f (← r)) c = c.outcome (cell?.map f) := by
  simp only [EStateM.run_bind, h, outcome]
  cases cell? with
  | none => cases c.column? <;> rfl
  | some cell => rfl

/-- Reading a column, whatever its kind. -/
theorem next_run_eq (kind : ColumnKind) (c : Cursor) :
    (next kind).run c = c.outcome (kind.cell? c.column?) := by
  cases kind with
  | text =>
    rw [next, text_run, ColumnKind.cell?]
    unfold outcome past
    cases c.column? <;> rfl
  | integer | literal => exact number_run_eq _ c
  | flag => exact run_map_eq_outcome (number_run_eq _ c) _
  | optionalInteger => exact optionalNumber_run_eq c
  | optionalFlag => exact run_map_eq_outcome (optionalNumber_run_eq c) _

/-- What a request for the next column can come to. -/
inductive Answers (c : Cursor) (kind : ColumnKind) :
    EStateM.Result ColumnError Cursor kind.Cell → Prop
  | held {raw : String} {cell : kind.Cell} (hcolumn : c.column? = some raw)
    (hcell : kind.cell? (some raw) = some cell) : Answers c kind (.ok cell c.advance)
  | rejected {raw : String} (hcolumn : c.column? = some raw) (hrejects : kind.Rejects raw) :
    Answers c kind (.error (.notANumber c.position raw) c.advance)
  /-- There is no column, and none has to be there. -/
  | absent {cell : kind.Cell} (hend : c.column? = none) (hcell : kind.cell? none = some cell) :
    Answers c kind (.ok cell c)
  | missing (hend : c.column? = none) (hrequired : kind.isRequired = true) :
    Answers c kind (.error (.missing c.position c.size) c)

section Answers

variable {c : Cursor} {kind : ColumnKind} {r : EStateM.Result ColumnError Cursor kind.Cell}

theorem past_of_column? {raw : String} (h : c.column? = some raw) : c.past = c.advance := by
  rw [past, h]
  rfl

theorem past_of_column?_eq_none (h : c.column? = none) : c.past = c := by
  rw [past, h]
  rfl

theorem Answers.next_run (h : c.Answers kind r) : (next kind).run c = r := by
  rw [next_run_eq]
  cases h with
  | held hcolumn hcell =>
    rw [hcolumn, hcell, ← past_of_column? hcolumn]
    rfl
  | rejected hcolumn hrejects =>
    rw [hcolumn, ColumnKind.cell?_some_eq_none_iff.mpr hrejects, outcome_none_of_column? hcolumn]
  | absent hend hcell =>
    rw [hend, hcell, outcome, past_of_column?_eq_none hend]
  | missing hend hrequired =>
    rw [hend, ColumnKind.cell?_none_eq_none_iff.mpr hrequired]
    unfold outcome
    rw [hend]

theorem exists_answers (c : Cursor) (kind : ColumnKind) : ∃ r, c.Answers kind r := by
  cases hcolumn : c.column? with
  | some raw =>
    cases hcell : kind.cell? (some raw) with
    | some cell => exact ⟨_, .held hcolumn hcell⟩
    | none => exact ⟨_, .rejected hcolumn (ColumnKind.cell?_some_eq_none_iff.mp hcell)⟩
  | none =>
    cases hcell : kind.cell? none with
    | some cell => exact ⟨_, .absent hcolumn hcell⟩
    | none => exact ⟨_, .missing hcolumn (ColumnKind.cell?_none_eq_none_iff.mp hcell)⟩

theorem next_run_eq_iff : (next kind).run c = r ↔ c.Answers kind r := by
  refine ⟨fun h => ?_, Answers.next_run⟩
  obtain ⟨other, hother⟩ := exists_answers c kind
  rw [hother.next_run] at h
  exact h ▸ hother

end Answers

end Cursor

/-! ## Columns in turn -/

/-- A column of a line is there and is rejected by the kind of its place. -/
def ColumnKind.RejectsAt (kinds : List ColumnKind) (columns : List String) (i : Nat) : Prop :=
  ∃ kind ∈ kinds[i]?, ∃ raw ∈ columns[i]?, kind.Rejects raw

/-- The cells are what the columns of a line hold from one of them on. -/
def Cells.AreAt (columns : List String) : (kinds : List ColumnKind) → Nat → Cells kinds → Prop
  | [], _, _ => True
  | kind :: kinds, i, (cell, cells) =>
    kind.cell? columns[i]? = some cell ∧ AreAt columns kinds (i + 1) cells

theorem ColumnKind.rejectsAt_succ_iff {kind : ColumnKind} {kinds : List ColumnKind}
    {columns : List String} {i j : Nat} : RejectsAt (kind :: kinds) (columns.drop i) (j + 1) ↔
      RejectsAt kinds (columns.drop (i + 1)) j := by
  simp only [RejectsAt, List.getElem?_cons_succ, List.getElem?_drop, Nat.add_assoc,
    Nat.add_comm 1 j]

theorem ColumnKind.rejectsAt_congr {kinds : List ColumnKind} {columns others : List String}
    (h : ∀ j < kinds.length, columns[j]? = others[j]?) {i : Nat} :
    RejectsAt kinds columns i ↔ RejectsAt kinds others i := by
  unfold RejectsAt
  by_cases hi : i < kinds.length
  · rw [h i hi]
  · rw [List.getElem?_eq_none (Nat.le_of_not_lt hi)]
    simp

theorem Cells.AreAt.unique {columns : List String} {kinds : List ColumnKind} {i : Nat}
    {cells cells' : Cells kinds} (h : AreAt columns kinds i cells)
    (h' : AreAt columns kinds i cells') : cells = cells' := by
  induction kinds generalizing i with
  | nil => rfl
  | cons kind kinds ih =>
    have hcell := Option.some.inj (h.1.symm.trans h'.1)
    exact Prod.ext hcell (ih h.2 h'.2)

/-- Only the first columns matter, as many as there are kinds. -/
theorem Cells.AreAt.congr {kinds : List ColumnKind} {columns others : List String} {i : Nat}
    (hsame : ∀ j < kinds.length, columns[i + j]? = others[i + j]?) {cells : Cells kinds}
    (h : AreAt columns kinds i cells) : AreAt others kinds i cells := by
  induction kinds generalizing i with
  | nil => trivial
  | cons kind kinds ih =>
    have hhere : columns[i]? = others[i]? := hsame 0 (Nat.succ_pos _)
    refine ⟨?_, ih (fun j hj => ?_) h.2⟩
    · rw [← hhere]
      exact h.1
    · rw [Nat.add_assoc, Nat.add_comm 1 j]
      exact hsame (j + 1) (Nat.succ_lt_succ hj)

namespace Cursor

/-- So many columns of a line have been asked for. The cursor stands behind those of them that are
there. -/
structure HasAsked (c : Cursor) (columns : List String) (i : Nat) : Prop where
  columns_eq : c.columns = columns
  position_eq : c.position = min i columns.length

variable {kinds : List ColumnKind} {columns : List String} {c : Cursor} {i : Nat}

theorem hasAsked_start (columns : List String) : HasAsked ⟨columns, 0⟩ columns 0 :=
  ⟨rfl, (Nat.zero_min _).symm⟩

theorem HasAsked.column?_eq (h : c.HasAsked columns i) : c.column? = columns[i]? := by
  rw [column?, h.columns_eq, h.position_eq]
  rcases Nat.le_total i columns.length with hle | hle
  · rw [Nat.min_eq_left hle]
  · rw [Nat.min_eq_right hle, List.getElem?_eq_none (Nat.le_refl _), List.getElem?_eq_none hle]

theorem HasAsked.past (h : c.HasAsked columns i) : c.past.HasAsked columns (i + 1) := by
  unfold Cursor.past
  rw [h.column?_eq]
  split
  · rename_i hsome
    have hlt : i < columns.length := by simpa using hsome
    have hposition : c.position + 1 = min (i + 1) columns.length := by
      rw [h.position_eq]
      omega
    exact ⟨h.columns_eq, hposition⟩
  · rename_i hnone
    have hle : columns.length ≤ i := by simpa using hnone
    refine ⟨h.columns_eq, ?_⟩
    rw [h.position_eq]
    omega

theorem HasAsked.next_run_of_cell? (h : c.HasAsked columns i) {kind : ColumnKind}
    {cell : kind.Cell} (hcell : kind.cell? columns[i]? = some cell) :
    (next kind).run c = .ok cell c.past := by
  rw [next_run_eq, h.column?_eq, hcell]
  rfl

theorem HasAsked.next_run_of_rejects (h : c.HasAsked columns i) {kind : ColumnKind} {raw : String}
    (hraw : columns[i]? = some raw) (hrejects : kind.Rejects raw) :
    (next kind).run c = .error (.notANumber i raw) c.advance := by
  have hlt : i < columns.length := (List.getElem?_eq_some_iff.mp hraw).1
  have hposition : c.position = i := by
    rw [h.position_eq]
    omega
  have hcolumn : c.column? = some raw := h.column?_eq.trans hraw
  rw [(Answers.rejected hcolumn hrejects).next_run, hposition]

/-- Columns that hold what they must are read. -/
theorem HasAsked.cells_run_of_areAt (h : c.HasAsked columns i) {held : Cells kinds}
    (hheld : Cells.AreAt columns kinds i held) : ∃ c', (cells kinds).run c = .ok held c' := by
  induction kinds generalizing c i with
  | nil => exact ⟨c, rfl⟩
  | cons kind kinds ih =>
    obtain ⟨c', hc'⟩ := ih h.past hheld.2
    refine ⟨c', ?_⟩
    simp only [cells, EStateM.run_bind, h.next_run_of_cell? hheld.1, hc', EStateM.run_pure]

/-- Reading ends at the first column that is rejected, and says which one it is. -/
theorem HasAsked.cells_run_of_rejectsAt (h : c.HasAsked columns i) {j : Nat} {raw : String}
    (hraw : (columns.drop i)[j]? = some raw) (hj : ColumnKind.RejectsAt kinds (columns.drop i) j)
    (hfirst : ∀ k < j, ¬ ColumnKind.RejectsAt kinds (columns.drop i) k) :
    ∃ c', (cells kinds).run c = .error (.notANumber (i + j) raw) c' := by
  induction kinds generalizing c i j with
  | nil =>
    obtain ⟨kind, hkind, -⟩ := hj
    cases hkind
  | cons kind kinds ih =>
    cases j with
    | zero =>
      obtain ⟨_, hkind, other, hother, hrejects⟩ := hj
      cases hkind
      rw [hraw] at hother
      cases hother
      rw [List.getElem?_drop] at hraw
      refine ⟨c.advance, ?_⟩
      simp only [cells, EStateM.run_bind, h.next_run_of_rejects hraw hrejects, Nat.add_zero]
    | succ j =>
      have hlt : i + (j + 1) < columns.length := by
        rw [List.getElem?_drop] at hraw
        exact (List.getElem?_eq_some_iff.mp hraw).1
      have hhere : columns[i]? = some columns[i] := List.getElem?_eq_getElem (by omega)
      have hkept : ¬ kind.Rejects columns[i] := fun hrejects =>
        hfirst 0 (Nat.succ_pos j) ⟨kind, rfl, columns[i], by simp, hrejects⟩
      obtain ⟨cell, hcell⟩ := Option.ne_none_iff_exists'.mp
        (mt ColumnKind.cell?_some_eq_none_iff.mp hkept)
      rw [← hhere] at hcell
      obtain ⟨c', hc'⟩ := ih h.past (by simpa [Nat.add_assoc, Nat.add_comm 1 j] using hraw)
        (ColumnKind.rejectsAt_succ_iff.mp hj)
        fun k hk hrejects => hfirst (k + 1) (Nat.succ_lt_succ hk)
          (ColumnKind.rejectsAt_succ_iff.mpr hrejects)
      refine ⟨c', ?_⟩
      simp only [cells, EStateM.run_bind, h.next_run_of_cell? hcell, hc', Nat.add_assoc,
        Nat.add_comm 1 j]

end Cursor

/-- Columns hold what they must if none is rejected and those that must be there are. -/
theorem Cells.exists_areAt {kinds : List ColumnKind} {columns : List String} {i : Nat}
    (hthere : ∀ j kind, kinds[j]? = some kind → kind.isRequired = true → i + j < columns.length)
    (hkept : ∀ j, ¬ ColumnKind.RejectsAt kinds (columns.drop i) j) :
    ∃ held, AreAt columns kinds i held := by
  induction kinds generalizing i with
  | nil => exact ⟨(), trivial⟩
  | cons kind kinds ih =>
    have hrest : ∀ j kind, kinds[j]? = some kind → kind.isRequired = true →
        i + 1 + j < columns.length := by
      intro j kind hkind hrequired
      have := hthere (j + 1) kind hkind hrequired
      omega
    obtain ⟨rest, hrest⟩ := ih hrest fun j hj =>
      hkept (j + 1) (ColumnKind.rejectsAt_succ_iff.mpr hj)
    have hcell : ∃ cell, kind.cell? columns[i]? = some cell := by
      cases hraw : columns[i]? with
      | none =>
        have hoptional : kind.isRequired = false := by
          refine Bool.eq_false_iff.mpr fun hrequired => ?_
          have := hthere 0 kind rfl hrequired
          rw [List.getElem?_eq_none_iff] at hraw
          omega
        rw [← Option.isSome_iff_exists, ColumnKind.isSome_cell?_none, hoptional]
        rfl
      | some raw =>
        refine Option.ne_none_iff_exists'.mp fun hnone => hkept 0 ⟨kind, rfl, raw, ?_, ?_⟩
        · simpa using hraw
        · exact ColumnKind.cell?_some_eq_none_iff.mp hnone
    obtain ⟨cell, hcell⟩ := hcell
    exact ⟨(cell, rest), hcell, hrest⟩

/-! ## Lines -/

namespace Row

/-- The columns of a line, without the blanks around it. -/
def columns (line : String) : List String := Column.split (String.ofList (Text.trim line.toList))

theorem ofLine_eq (line : String) : Cursor.ofLine line = ⟨columns line, 0⟩ := by
  rw [columns, Column.split, String.toList_ofList]
  rfl

section Read

variable {K R : Type} [Row K R]

/-- Optional columns come after all others, so that a line with the least number of columns has all
that it must have. -/
class OptionalLast (R : Type) {K : Type} [Row K R] : Prop where
  lt_minColumns : ∀ i (h : i < (layout R).length),
    (layout R)[i].isRequired = true → i < minColumns R

/-- What columns read as: too few of them as nothing, then the first that is rejected as an error,
and otherwise all of them as a row. -/
inductive ReadsAs (columns : List String) : Except LineFault R → Prop
  | short (h : columns.length < minColumns R) : ReadsAs columns (.error .short)
  | rejected {i : Nat} {raw : String} (hlength : minColumns R ≤ columns.length)
    (hraw : columns[i]? = some raw) (hrejects : ColumnKind.RejectsAt (layout R) columns i)
    (hfirst : ∀ j < i, ¬ ColumnKind.RejectsAt (layout R) columns j) :
    ReadsAs columns (.error (.column (.notANumber i raw)))
  | accepted {held : Cells (layout R)} (hlength : minColumns R ≤ columns.length)
    (hkept : ∀ i, ¬ ColumnKind.RejectsAt (layout R) columns i)
    (hheld : Cells.AreAt columns (layout R) 0 held) : ReadsAs columns (.ok (ofCells held))

/-- Columns read as one thing only. -/
theorem ReadsAs.unique {columns : List String} {r r' : Except LineFault R}
    (h : ReadsAs columns r) (h' : ReadsAs columns r') : r = r' := by
  cases h with
  | short hshort =>
    cases h' with
    | short _ => rfl
    | rejected hlength _ _ _ | accepted hlength _ _ => omega
  | @rejected i raw hlength hraw hrejects hfirst =>
    cases h' with
    | short hshort => omega
    | accepted _ hkept _ => exact absurd hrejects (hkept i)
    | @rejected i' _ _ hraw' hrejects' hfirst' =>
      obtain hlt | rfl | hlt := Nat.lt_trichotomy i i'
      · exact absurd hrejects (hfirst' i hlt)
      · rw [hraw] at hraw'
        cases hraw'
        rfl
      · exact absurd hrejects' (hfirst i' hlt)
  | accepted hlength hkept hheld =>
    cases h' with
    | short hshort => omega
    | rejected _ _ hrejects _ => exact absurd hrejects (hkept _)
    | accepted _ _ hheld' =>
      rw [hheld.unique hheld']

/-- A line reads as its columns do. -/
theorem readsAs_parse [OptionalLast R] (line : String) :
    ReadsAs (R := R) (columns line) (parse R line) := by
  have hasked := Cursor.hasAsked_start (columns line)
  unfold parse
  rw [ofLine_eq]
  dsimp only
  split
  · rename_i hshort
    exact .short hshort
  · rename_i hlong
    have hlength : minColumns R ≤ (columns line).length := Nat.le_of_not_lt hlong
    by_cases hkept : ∀ i, ¬ ColumnKind.RejectsAt (layout R) (columns line) i
    · have hthere : ∀ j kind, (layout R)[j]? = some kind → kind.isRequired = true →
          0 + j < (columns line).length := by
        intro j kind hkind hrequired
        obtain ⟨hj, rfl⟩ := List.getElem?_eq_some_iff.mp hkind
        have := OptionalLast.lt_minColumns j hj hrequired
        omega
      obtain ⟨held, hheld⟩ := Cells.exists_areAt hthere (by simpa using hkept)
      obtain ⟨c, hc⟩ := hasked.cells_run_of_areAt hheld
      rw [hc]
      exact .accepted hlength hkept hheld
    · have hsome : ∃ i, ColumnKind.RejectsAt (layout R) (columns line) i := by simpa using hkept
      classical
      have hrejects := Nat.find_spec hsome
      have hfirst : ∀ j < Nat.find hsome, ¬ ColumnKind.RejectsAt (layout R) (columns line) j :=
        fun j hj => Nat.find_min hsome hj
      obtain ⟨_, _, raw, hraw, _⟩ := id hrejects
      obtain ⟨c, hc⟩ := hasked.cells_run_of_rejectsAt (by simpa using hraw)
        (by simpa using hrejects) (by simpa using hfirst)
      rw [hc, Nat.zero_add]
      exact .rejected hlength hraw hrejects hfirst

theorem parse_eq_iff [OptionalLast R] {line : String} {r : Except LineFault R} :
    parse R line = r ↔ ReadsAs (columns line) r :=
  ⟨fun h => h ▸ readsAs_parse line, fun h => (readsAs_parse line).unique h⟩

/-- What columns read as is settled by those that the layout knows. -/
theorem ReadsAs.congr {columns others : List String} {r : Except LineFault R}
    (h : columns.take (layout R).length = others.take (layout R).length)
    (hr : ReadsAs columns r) : ReadsAs others r := by
  have hsame : ∀ j < (layout R).length, columns[j]? = others[j]? := by
    intro j hj
    rw [← List.getElem?_take_of_lt hj, h, List.getElem?_take_of_lt hj]
  have hlengths := congrArg List.length h
  rw [List.length_take, List.length_take] at hlengths
  have hleast : minColumns R ≤ (layout R).length := List.countP_le_length
  have hrejects := fun i => ColumnKind.rejectsAt_congr (i := i) hsame
  cases hr with
  | short hshort => exact .short (by omega)
  | rejected hlength hraw hi hfirst =>
    obtain ⟨kind, hkind, -⟩ := id hi
    refine .rejected (by omega) ?_ ((hrejects _).mp hi) fun j hj =>
      mt (hrejects j).mpr (hfirst j hj)
    rw [← hsame _ (List.getElem?_eq_some_iff.mp hkind).1]
    exact hraw
  | accepted hlength hkept hheld =>
    have hothers : ∀ j < (layout R).length, columns[0 + j]? = others[0 + j]? := by
      simpa using hsame
    exact .accepted (by omega) (fun i => mt (hrejects i).mpr (hkept i)) (hheld.congr hothers)

end Read

end Row

/-! ## The rows that columns hold -/

open ColumnKind

/-- An entity as the columns of its line give it. -/
structure EntityRow.IsAt (columns : List String) (row : EntityRow) : Prop where
  uniqueId : row.uniqueId = idOf row.typeCode row.key
  typeCode : integer.cell? columns[0]? = some row.typeCode
  key : columns[1]?.map withoutQuotes = some row.key
  name : columns[2]?.map withoutQuotes = some row.name
  structId : integer.cell? columns[3]? = some row.structId
  format : optionalInteger.cell? columns[4]? = some row.format
  isInternal : (optionalFlag.cell? columns[5]?).map (·.getD true) = some row.isInternal
  extFormat : optionalInteger.cell? columns[6]? = some row.extFormat

/-- A value of an enum as the columns of its line give it. -/
structure EntryRow.IsAt (columns : List String) (row : EntryRow) : Prop where
  id : integer.cell? columns[0]? = some row.id
  value : literal.cell? columns[1]? = some row.value
  name : columns[2]?.map withoutQuotes = some row.name
  descId : optionalInteger.cell? columns[3]? = some row.descId

/-- An enum as the columns of its line give it. -/
structure EnumRow.IsAt (columns : List String) (row : EnumRow) : Prop where
  id : integer.cell? columns[0]? = some row.id
  name : columns[1]?.map withoutQuotes = some row.name
  descId : integer.cell? columns[2]? = some row.descId
  isInternal : flag.cell? columns[3]? = some row.isInternal

/-- A field as the columns of its line give it. -/
structure FieldRow.IsAt (columns : List String) (row : FieldRow) : Prop where
  id : integer.cell? columns[0]? = some row.id
  name : columns[1]?.map withoutQuotes = some row.name
  size : integer.cell? columns[2]? = some row.size
  baseType : integer.cell? columns[3]? = some row.baseType
  typeValue : integer.cell? columns[4]? = some row.typeValue
  isHex : flag.cell? columns[5]? = some row.isHex
  descId : optionalInteger.cell? columns[6]? = some row.descId
  isInternal : (optionalFlag.cell? columns[7]?).map (·.getD false) = some row.isInternal

/-- A fragment of a struct as the columns of its line give it. -/
structure FragmentRow.IsAt (columns : List String) (row : FragmentRow) : Prop where
  id : integer.cell? columns[0]? = some row.id
  order : integer.cell? columns[1]? = some row.order
  tagCode : integer.cell? columns[2]? = some row.tagCode
  value : integer.cell? columns[3]? = some row.value
  name : columns[4]?.map withoutQuotes = some row.name
  offset : integer.cell? columns[5]? = some row.offset
  modType : integer.cell? columns[6]? = some row.modType
  modValue : columns[7]?.map withoutQuotes = some row.modValue

/-- A type of row whose optional columns come last and whose rows are where they are said to be. -/
class Row.IsPlaced (R : Type) {K : Type} [Row K R] (IsAt : outParam (List String → R → Prop)) :
    Prop extends OptionalLast R where
  isAt_ofCells : ∀ {columns : List String} {held : Cells (layout R)},
    Cells.AreAt columns (layout R) 0 held → IsAt columns (ofCells held)

theorem map_withoutQuotes_of_cell? {column? : Option String} {raw : String}
    (h : ColumnKind.text.cell? column? = some raw) :
    column?.map withoutQuotes = some (withoutQuotes raw) :=
  congrArg (Option.map withoutQuotes) h

instance : Row.IsPlaced EntityRow EntityRow.IsAt where
  lt_minColumns := by decide
  isAt_ofCells h := by
    obtain ⟨htype, hkey, hname, hstruct, hformat, hinternal, hext, -⟩ := h
    exact ⟨rfl, htype, map_withoutQuotes_of_cell? hkey, map_withoutQuotes_of_cell? hname, hstruct,
      hformat, congrArg (Option.map _) hinternal, hext⟩

instance : Row.IsPlaced EntryRow EntryRow.IsAt where
  lt_minColumns := by decide
  isAt_ofCells h := by
    obtain ⟨hid, hvalue, hname, hdesc, -⟩ := h
    exact ⟨hid, hvalue, map_withoutQuotes_of_cell? hname, hdesc⟩

instance : Row.IsPlaced EnumRow EnumRow.IsAt where
  lt_minColumns := by decide
  isAt_ofCells h := by
    obtain ⟨hid, hname, hdesc, hinternal, -⟩ := h
    exact ⟨hid, map_withoutQuotes_of_cell? hname, hdesc, hinternal⟩

instance : Row.IsPlaced FieldRow FieldRow.IsAt where
  lt_minColumns := by decide
  isAt_ofCells h := by
    obtain ⟨hid, hname, hsize, hbase, htype, hhex, hdesc, hinternal, -⟩ := h
    exact ⟨hid, map_withoutQuotes_of_cell? hname, hsize, hbase, htype, hhex, hdesc,
      congrArg (Option.map _) hinternal⟩

instance : Row.IsPlaced FragmentRow FragmentRow.IsAt where
  lt_minColumns := by decide
  isAt_ofCells h := by
    obtain ⟨hid, horder, htag, hvalue, hname, hoffset, htype, hmod, -⟩ := h
    exact ⟨hid, horder, htag, hvalue, map_withoutQuotes_of_cell? hname, hoffset, htype,
      map_withoutQuotes_of_cell? hmod⟩

/-- How lines are read as rows of a type, by the kinds of the columns, the least number of them and
the place of each part of a row. -/
structure Row.AreRead (R : Type) {K : Type} [Row K R] (kinds : List ColumnKind) (least : Nat)
    (IsAt : List String → R → Prop) : Prop where
  short_iff : ∀ line, parse R line = .error .short ↔ (columns line).length < least
  ne_missing : ∀ line column available,
    parse R line ≠ .error (.column (.missing column available))
  notANumber_iff : ∀ line i raw, parse R line = .error (.column (.notANumber i raw)) ↔
    least ≤ (columns line).length ∧ (columns line)[i]? = some raw ∧
      RejectsAt kinds (columns line) i ∧ ∀ j < i, ¬ RejectsAt kinds (columns line) j
  accepted_iff : ∀ line, (∃ row, parse R line = .ok row) ↔
    least ≤ (columns line).length ∧ ∀ i, ¬ RejectsAt kinds (columns line) i
  isAt : ∀ line row, parse R line = .ok row → IsAt (columns line) row
  congr : ∀ line other, (columns line).take kinds.length = (columns other).take kinds.length →
    parse R line = parse R other

theorem Row.areRead {K R : Type} [Row K R] {IsAt : List String → R → Prop} [IsPlaced R IsAt] :
    AreRead R (layout R) (minColumns R) IsAt where
  short_iff line := by
    rw [parse_eq_iff]
    exact ⟨fun h => by cases h; assumption, .short⟩
  ne_missing line column available h := by
    rw [parse_eq_iff] at h
    cases h
  notANumber_iff line i raw := by
    rw [parse_eq_iff]
    constructor
    · rintro (_ | ⟨hlength, hraw, hrejects, hfirst⟩ | _)
      exact ⟨hlength, hraw, hrejects, hfirst⟩
    · rintro ⟨hlength, hraw, hrejects, hfirst⟩
      exact .rejected hlength hraw hrejects hfirst
  accepted_iff line := by
    constructor
    · rintro ⟨row, hrow⟩
      rw [parse_eq_iff] at hrow
      cases hrow with
      | accepted hlength hkept _ => exact ⟨hlength, hkept⟩
    · rintro ⟨hlength, hkept⟩
      have hread := readsAs_parse (R := R) line
      generalize parse R line = r at hread
      cases hread with
      | short hshort => omega
      | rejected _ _ hrejects _ => exact absurd hrejects (hkept _)
      | accepted _ _ _ => exact ⟨_, rfl⟩
  isAt line row h := by
    rw [parse_eq_iff] at h
    cases h with
    | accepted _ _ hheld => exact IsPlaced.isAt_ofCells hheld
  congr line other h := by
    rw [parse_eq_iff]
    exact (readsAs_parse other).congr h.symm

/-- **What a line reads as.** For every type of row: a line with too few columns is short, and no
other is; no column is ever missing from one that is long enough; the first column that has to be a
number and is none is the one reported, with its text; all other lines yield a row, whose parts are
read from the columns in these places, whatever comes behind the last of them. -/
theorem Row.lines_read_exactly :
    Row.AreRead EntityRow [integer, text, text, integer, optionalInteger, optionalFlag,
      optionalInteger] 4 EntityRow.IsAt ∧
    Row.AreRead EntryRow [integer, literal, text, optionalInteger] 3 EntryRow.IsAt ∧
    Row.AreRead EnumRow [integer, text, integer, flag] 4 EnumRow.IsAt ∧
    Row.AreRead FieldRow [integer, text, integer, integer, integer, flag, optionalInteger,
      optionalFlag] 6 FieldRow.IsAt ∧
    Row.AreRead FragmentRow [integer, integer, integer, integer, text, integer, integer, text] 8
      FragmentRow.IsAt :=
  ⟨areRead, areRead, areRead, areRead, areRead⟩

-- the first bad number is reported, though a later column is bad as well
example : Row.parse EntityRow "1^key^name^x^^y" = .error (.column (.notANumber 3 "x")) := by
  decide +kernel

end WireDictionary
