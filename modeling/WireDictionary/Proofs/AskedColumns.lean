import WireDictionary.Proofs.ReadRows

/-! # Columns asked for one after the other

A cursor can be asked for the next column also after one that could not be read. If there
is a column, the cursor moves past it, whatever it holds; if there is none, the cursor
stays (`after_eq_past`). Requests of any kinds with any answers therefore move the cursor
alike, and how many there were tells which column is the next one (`HasAsked.afterAll`).
-/
namespace WireDictionary.Cursor

/-! ## One request -/

variable {c c' : Cursor} {kind : ColumnKind}

/-- A column that is there is passed, whether it holds what it must or not. -/
theorem next_run_of_column? (kind : ColumnKind) {raw : String} (h : c.column? = some raw) :
    (∃ cell, kind.cell? (some raw) = some cell ∧ (next kind).run c = .ok cell c.advance) ∨
      (kind.Rejects raw ∧ (next kind).run c = .error (.notANumber c.position raw) c.advance) := by
  cases hcell : kind.cell? (some raw) with
  | some cell => exact .inl ⟨cell, rfl, next_run_eq_iff.mpr (.held h hcell)⟩
  | none =>
    have hrejects : kind.Rejects raw := ColumnKind.cell?_some_eq_none_iff.mp hcell
    exact .inr ⟨hrejects, next_run_eq_iff.mpr (.rejected h hrejects)⟩

theorem next_run_eq_notANumber_iff {i : Nat} {raw : String} :
    (next kind).run c = .error (.notANumber i raw) c' ↔
      c.column? = some raw ∧ kind.Rejects raw ∧ i = c.position ∧ c' = c.advance := by
  rw [next_run_eq_iff]
  constructor
  · intro h
    cases h with
    | rejected hcolumn hrejects => exact ⟨hcolumn, hrejects, rfl, rfl⟩
  · rintro ⟨hcolumn, hrejects, rfl, rfl⟩
    exact .rejected hcolumn hrejects

theorem next_run_eq_missing_iff {column available : Nat} :
    (next kind).run c = .error (.missing column available) c' ↔
      c.column? = none ∧ kind.isRequired = true ∧ column = c.position ∧ available = c.size ∧
        c' = c := by
  rw [next_run_eq_iff]
  constructor
  · intro h
    cases h with
    | missing hend hrequired => exact ⟨hend, hrequired, rfl, rfl, rfl⟩
  · rintro ⟨hend, hrequired, rfl, rfl, rfl⟩
    exact .missing hend hrequired

theorem column?_eq_none_iff : c.column? = none ↔ c.atEnd = true := by
  rw [column?, List.getElem?_eq_none_iff, atEnd, decide_eq_true_iff]

/-! ## Requests in turn -/

/-- The cursor after a request, whatever came of it. -/
def after (c : Cursor) (kind : ColumnKind) : Cursor :=
  match (next kind).run c with
  | .ok _ c' => c'
  | .error _ c' => c'

def afterAll (c : Cursor) (kinds : List ColumnKind) : Cursor := kinds.foldl after c

/-- The cursor as each of the requests finds it. -/
def atRequests (c : Cursor) : List ColumnKind → List Cursor
  | [] => []
  | kind :: kinds => c :: (c.after kind).atRequests kinds

theorem after_eq_past (c : Cursor) (kind : ColumnKind) : c.after kind = c.past := by
  obtain ⟨r, hr⟩ := exists_answers c kind
  rw [after, hr.next_run]
  cases hr with
  | held hcolumn _ | rejected hcolumn _ => exact (past_of_column? hcolumn).symm
  | absent hend _ | missing hend _ => exact (past_of_column?_eq_none hend).symm

theorem position_after (c : Cursor) (kind : ColumnKind) :
    (c.after kind).position = c.position + if c.column?.isSome then 1 else 0 := by
  rw [after_eq_past, past]
  split <;> rfl

/-- The cursor moves once for each request that finds a column. -/
theorem position_afterAll (c : Cursor) (kinds : List ColumnKind) :
    (c.afterAll kinds).position =
      c.position + (c.atRequests kinds).countP fun c' => c'.column?.isSome := by
  induction kinds generalizing c with
  | nil => rfl
  | cons kind kinds ih =>
    calc ((c.after kind).afterAll kinds).position
        = (c.after kind).position +
            ((c.after kind).atRequests kinds).countP fun c' => c'.column?.isSome := ih _
      _ = c.position + (c.atRequests (kind :: kinds)).countP fun c' => c'.column?.isSome := by
        rw [position_after, atRequests, List.countP_cons]
        omega

/-- So many more columns have been asked for, whatever the answers were. -/
theorem HasAsked.afterAll {columns : List String} {i : Nat} (h : c.HasAsked columns i)
    (kinds : List ColumnKind) : (c.afterAll kinds).HasAsked columns (i + kinds.length) := by
  induction kinds generalizing c i with
  | nil => exact h
  | cons kind kinds ih =>
    have hnext : (c.after kind).HasAsked columns (i + 1) := by
      rw [after_eq_past]
      exact h.past
    have hrest := ih hnext
    rw [Nat.add_assoc, Nat.add_comm 1] at hrest
    exact hrest

section Place

variable {columns : List String} {i : Nat}

theorem HasAsked.position_le (h : c.HasAsked columns i) : c.position ≤ c.size := by
  rw [h.position_eq, size, h.columns_eq]
  exact Nat.min_le_right _ _

theorem HasAsked.atEnd_iff (h : c.HasAsked columns i) : c.atEnd = true ↔ c.position = c.size := by
  have hle := h.position_le
  rw [atEnd, decide_eq_true_iff]
  exact ⟨fun hend => Nat.le_antisymm hle hend, fun hend => Nat.le_of_eq hend.symm⟩

end Place

/-! ## Along a line -/

/-- A cursor that has been asked for columns of these kinds along a line: where it stands, and how
it answers the next request. -/
structure KeepsPlace (line : String) (asked : List ColumnKind) (c : Cursor) : Prop
    extends c.HasAsked (Row.columns line) asked.length where
  position_le : c.position ≤ c.size
  /-- Each request that found a column has moved it once, and no other has moved it. -/
  position_eq_countP :
    c.position = ((ofLine line).atRequests asked).countP fun c' => c'.column?.isSome
  atEnd_iff : c.atEnd = true ↔ c.position = c.size
  /-- The next column is the one after as many columns as there were requests. -/
  next_column : c.column? = (Row.columns line)[asked.length]?
  /-- A column that is there is passed, whether the answer is what it holds or an error. -/
  run_of_column : ∀ kind raw, c.column? = some raw →
    (∃ cell, kind.cell? (some raw) = some cell ∧ (next kind).run c = .ok cell c.advance) ∨
      (kind.Rejects raw ∧ (next kind).run c = .error (.notANumber c.position raw) c.advance)
  /-- So is a blank one, where it may be blank. -/
  optional_of_blank : ∀ raw, c.column? = some raw → raw.toList.all Text.isBlank = true →
    (next .optionalInteger).run c = .ok none c.advance ∧
      (next .optionalFlag).run c = .ok none c.advance
  /-- An error about a number tells the column that this request passed. -/
  notANumber_iff : ∀ kind i raw c', (next kind).run c = .error (.notANumber i raw) c' ↔
    i = c.position ∧ c.columns[i]? = some raw ∧ kind.Rejects raw ∧ c' = c.advance
  /-- A column is missing at the end of the line, for the kinds that must be there. -/
  missing_iff : ∀ kind column available c',
    (next kind).run c = .error (.missing column available) c' ↔
      kind.isRequired = true ∧ c.atEnd = true ∧ column = c.size ∧ available = c.size ∧ c' = c
  /-- There, the other kinds hold nothing. -/
  optional_atEnd : c.atEnd = true →
    (next .optionalInteger).run c = .ok none c ∧ (next .optionalFlag).run c = .ok none c

/-- **A cursor keeps its place.** Take any line and any requests for its columns, of all kinds and
with all answers. The cursor then stands at most at the end, behind as many columns as were found,
and the next request is about the next column: if it is there, the cursor moves past it and an error
tells its place and its text; at the end nothing moves, and the kinds that must be there, and no
others, are told to be missing. -/
theorem place_kept (line : String) (asked : List ColumnKind) :
    KeepsPlace line asked ((ofLine line).afterAll asked) := by
  have hstart : (ofLine line).HasAsked (Row.columns line) 0 := by
    rw [Row.ofLine_eq]
    exact hasAsked_start _
  have hasked := hstart.afterAll asked
  rw [Nat.zero_add] at hasked
  have hcount := position_afterAll (ofLine line) asked
  rw [hstart.position_eq, Nat.zero_min, Nat.zero_add] at hcount
  -- how the cursor came to its place does not matter to the next request
  generalize (ofLine line).afterAll asked = c at hasked hcount
  have hend := hasked.atEnd_iff
  refine ⟨hasked, hasked.position_le, hcount, hend, hasked.column?_eq,
    fun kind _ => next_run_of_column? kind, ?_, ?_, ?_, ?_⟩
  · intro raw hcolumn hblank
    have hnone : ColumnKind.optionalNumber? (some raw) = some none := if_pos hblank
    have hflag : ColumnKind.optionalFlag.cell? (some raw) = some none :=
      congrArg (Option.map _) hnone
    exact ⟨next_run_eq_iff.mpr (.held hcolumn hnone), next_run_eq_iff.mpr (.held hcolumn hflag)⟩
  · intro kind i raw c'
    rw [next_run_eq_notANumber_iff]
    constructor
    · rintro ⟨hcolumn, hrejects, rfl, rfl⟩
      exact ⟨rfl, hcolumn, hrejects, rfl⟩
    · rintro ⟨rfl, hcolumn, hrejects, rfl⟩
      exact ⟨hcolumn, hrejects, rfl, rfl⟩
  · intro kind column available c'
    rw [next_run_eq_missing_iff, column?_eq_none_iff]
    constructor
    · rintro ⟨hatEnd, hrequired, rfl, rfl, rfl⟩
      exact ⟨hrequired, hatEnd, hend.mp hatEnd, rfl, rfl⟩
    · rintro ⟨hrequired, hatEnd, rfl, rfl, rfl⟩
      exact ⟨hatEnd, hrequired, (hend.mp hatEnd).symm, rfl, rfl⟩
  · intro hatEnd
    have hnone := column?_eq_none_iff.mpr hatEnd
    exact ⟨next_run_eq_iff.mpr (.absent hnone rfl), next_run_eq_iff.mpr (.absent hnone rfl)⟩

-- a bad number and a blank column are passed like the others, and the text that is missing is not
example : ((ofLine " 7^x^^0x1F ").atRequests
      [.integer, .flag, .optionalFlag, .literal, .text, .optionalInteger]).map Cursor.position =
    [0, 1, 2, 3, 4, 4] := by
  decide +kernel

end WireDictionary.Cursor
