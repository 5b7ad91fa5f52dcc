import WireDictionary.Log.Logged
import WireDictionary.OrderedMap
import WireDictionary.Source

/-! Tables. A table holds one row for each key, in the order in which the keys first came; a later
row takes the place of an earlier one with its key. It also remembers which key was last written
under each name. Lines that yield no row are counted and otherwise ignored. What is done to a table
changes it, tells the log and answers, all in one run; `insert_run` and `push_run` say what comes of
a run that starts from any table and any log. -/

namespace WireDictionary

structure Table (K R : Type) where
  rows : OrderedMap K R
  /-- The key of the row written last under each name. -/
  names : Index String K
  /-- The number of lines without a row. -/
  skipped : Nat
  deriving DecidableEq, Repr

/-- What is done to a table, and told of it. -/
abbrev Filling (K R : Type) := StateM (Log.Logged (Table K R))

namespace Table

open Log.Logged (tell change)

variable {K R : Type} [DecidableEq K] [Row K R]

def empty : Table K R := ⟨.empty, .empty, 0⟩

def size (t : Table K R) : Nat := t.rows.size

def toList (t : Table K R) : List R := t.rows.values

/-- The rows that are left, in order, when the table is given up. -/
def intoRows (t : Table K R) : List R := t.rows.intoValues

def get? (t : Table K R) (k : K) : Option R := t.rows.get? k

/-- The row whose key was last written under a name. -/
def byName? (t : Table K R) (name : String) : Option R := (t.names.get? name).bind t.get?

/-- Puts a row in, and answers with the row whose place it takes. -/
def insertRow (row : R) : Filling K R (Option R) := do
  change fun t => ((), { t with names := t.names.set (Row.name row) (Row.key row) })
  let old? ← change fun t => (t.rows.insert (Row.key row) row).map id ({ t with rows := · })
  if let some old := old? then tell (.rowReplaced (Row.file R) (Row.keyText old))
  return old?

/-- Reads a line and puts its row in. The answer is whether it has one. -/
def pushLine (line : String) : Filling K R Bool := do
  match Row.parse R line with
  | .ok row =>
    let _ ← insertRow row
    return true
  | .error fault =>
    tell (.lineSkipped (Row.file R) line fault)
    change fun t => (false, { t with skipped := t.skipped + 1 })

def pushLines (lines : List String) : Filling K R Unit :=
  lines.forM fun line => do
    let _ ← pushLine line

/-! What one run answers, leaves and tells. -/

/-- The row that writing a row replaces. -/
def replaced? (t : Table K R) (row : R) : Option R := ((insertRow row).run ⟨t, []⟩).1

def insert (t : Table K R) (row : R) : Table K R := ((insertRow row).run ⟨t, []⟩).2.state

def insertEvents (t : Table K R) (row : R) : List Log.Event :=
  ((insertRow row).run ⟨t, []⟩).2.log

def push (t : Table K R) (line : String) : Table K R := ((pushLine line).run ⟨t, []⟩).2.state

def pushEvents (t : Table K R) (line : String) : List Log.Event :=
  ((pushLine line).run ⟨t, []⟩).2.log

def pushAll (t : Table K R) (lines : List String) : Table K R :=
  ((pushLines lines).run ⟨t, []⟩).2.state

def pushAllEvents (t : Table K R) (lines : List String) : List Log.Event :=
  ((pushLines lines).run ⟨t, []⟩).2.log

theorem insertRow_run (row : R) (t : Table K R) (log : List Log.Event) :
    (insertRow row).run ⟨t, log⟩ =
      (t.get? (Row.key row),
        ⟨{ t with
            rows := (t.rows.insert (Row.key row) row).2
            names := t.names.set (Row.name row) (Row.key row) },
          log ++
            match t.get? (Row.key row) with
            | some old => [.rowReplaced (Row.file R) (Row.keyText old)]
            | none => []⟩) := by
  have hanswer : (t.rows.insert (Row.key row) row).1 = t.get? (Row.key row) :=
    OrderedMap.fst_insert t.rows (Row.key row) row
  simp only [insertRow, change, StateT.run_bind, StateT.run_modifyGet, pure_bind, Prod.map, id,
    hanswer]
  cases t.get? (Row.key row) with
  | none =>
    rw [List.append_nil]
    rfl
  | some old => rfl

theorem replaced?_eq (t : Table K R) (row : R) : t.replaced? row = t.get? (Row.key row) := by
  rw [replaced?, insertRow_run]

theorem insert_eq (t : Table K R) (row : R) :
    t.insert row =
      { t with
        rows := (t.rows.insert (Row.key row) row).2
        names := t.names.set (Row.name row) (Row.key row) } := by
  rw [insert, insertRow_run]

theorem insertEvents_eq (t : Table K R) (row : R) :
    t.insertEvents row =
      match t.get? (Row.key row) with
      | some old => [.rowReplaced (Row.file R) (Row.keyText old)]
      | none => [] := by
  rw [insertEvents, insertRow_run, List.nil_append]

theorem get?_insert (t : Table K R) (row : R) (k : K) :
    (t.insert row).get? k = if k = Row.key row then some row else t.get? k := by
  rw [insert_eq]
  exact OrderedMap.get?_insert t.rows (Row.key row) k row

/-- A line does what its row does, or else is counted. -/
theorem pushLine_run (line : String) (t : Table K R) (log : List Log.Event) :
    (pushLine line).run ⟨t, log⟩ =
      match Row.parse R line with
      | .ok row => (true, ⟨t.insert row, log ++ t.insertEvents row⟩)
      | .error fault =>
        (false, ⟨{ t with skipped := t.skipped + 1 },
          log ++ [.lineSkipped (Row.file R) line fault]⟩) := by
  unfold pushLine
  cases Row.parse R line with
  | ok row =>
    rw [StateT.run_bind, insertRow_run, ← insert_eq, ← insertEvents_eq]
    rfl
  | error fault => rfl

theorem push_of_ok {t : Table K R} {line : String} {row : R} (h : Row.parse R line = .ok row) :
    t.push line = t.insert row := by
  rw [push, pushLine_run, h]

theorem push_of_error {t : Table K R} {line : String} {fault : LineFault}
    (h : Row.parse R line = .error fault) : t.push line = { t with skipped := t.skipped + 1 } := by
  rw [push, pushLine_run, h]

theorem pushEvents_of_ok {t : Table K R} {line : String} {row : R}
    (h : Row.parse R line = .ok row) : t.pushEvents line = t.insertEvents row := by
  rw [pushEvents, pushLine_run, h]
  exact List.nil_append _

theorem pushEvents_of_error {t : Table K R} {line : String} {fault : LineFault}
    (h : Row.parse R line = .error fault) :
    t.pushEvents line = [.lineSkipped (Row.file R) line fault] := by
  rw [pushEvents, pushLine_run, h]
  exact List.nil_append _

theorem pushLines_cons_run (line : String) (rest : List String) (t : Table K R)
    (log : List Log.Event) :
    (pushLines (line :: rest)).run ⟨t, log⟩ =
      (pushLines rest).run ⟨t.push line, log ++ t.pushEvents line⟩ := by
  obtain ⟨accepted, hline⟩ : ∃ accepted, (pushLine line).run ⟨t, log⟩ =
      (accepted, ⟨t.push line, log ++ t.pushEvents line⟩) := by
    rw [pushLine_run]
    cases h : Row.parse R line with
    | ok row => exact ⟨true, by rw [push_of_ok h, pushEvents_of_ok h]⟩
    | error fault => exact ⟨false, by rw [push_of_error h, pushEvents_of_error h]⟩
  simp only [pushLines, List.forM_eq_forM, List.forM_cons, StateT.run_bind, hline]
  rfl

/-- What a run does to a table does not depend on the log, and the log keeps what it had. -/
theorem pushLines_run (lines : List String) (t : Table K R) (log : List Log.Event) :
    (pushLines lines).run ⟨t, log⟩ = ((), ⟨t.pushAll lines, log ++ t.pushAllEvents lines⟩) := by
  induction lines generalizing t log with
  | nil =>
    have hlog : log ++ t.pushAllEvents [] = log := List.append_nil log
    rw [hlog]
    rfl
  | cons line rest ih =>
    rw [pushAll, pushAllEvents, pushLines_cons_run, pushLines_cons_run, ih, ih, List.append_assoc]
    rfl

theorem pushAll_cons (t : Table K R) (line : String) (rest : List String) :
    t.pushAll (line :: rest) = (t.push line).pushAll rest := by
  rw [pushAll, pushLines_cons_run, pushLines_run]

theorem pushAllEvents_nil (t : Table K R) : t.pushAllEvents [] = [] := rfl

theorem pushAllEvents_cons (t : Table K R) (line : String) (rest : List String) :
    t.pushAllEvents (line :: rest) = t.pushEvents line ++ (t.push line).pushAllEvents rest := by
  rw [pushAllEvents, pushLines_cons_run, pushLines_run]
  rfl

theorem pushAll_eq_foldl (t : Table K R) (lines : List String) :
    t.pushAll lines = lines.foldl push t := by
  induction lines generalizing t with
  | nil => rfl
  | cons line rest ih => rw [pushAll_cons, ih, List.foldl_cons]

theorem pushAll_append (t : Table K R) (xs ys : List String) :
    t.pushAll (xs ++ ys) = (t.pushAll xs).pushAll ys := by
  rw [pushAll_eq_foldl, pushAll_eq_foldl, pushAll_eq_foldl, List.foldl_append]

-- The lemmas above are all that opens a run over many lines. Left open, such a run would be carried
-- out wherever two tables are compared.
attribute [irreducible] pushAll pushAllEvents

inductive Write (R : Type) where
  /-- A line that is read. -/
  | line (text : String)
  /-- A row that is put in as it is. -/
  | row (row : R)
  deriving DecidableEq, Repr

def write (t : Table K R) : Write R → Table K R
  | .line text => t.push text
  | .row row => t.insert row

/-- The table that writes in turn make of one without rows. -/
def ofWrites (writes : List (Write R)) : Table K R := writes.foldl write empty

omit [Row K R] in
theorem intoRows_eq_toList (t : Table K R) : t.intoRows = t.toList :=
  t.rows.intoValues_eq_values

/-! ## Texts and files -/

def ofLines (lines : List String) : Table K R := pushAll empty lines

def ofText (text : String) : Table K R := ofLines (Text.linesOf text)

def ofTextEvents (R : Type) {K : Type} [DecidableEq K] [Row K R] (text : String) :
    List Log.Event :=
  (empty : Table K R).pushAllEvents (Text.linesOf text)

/-- Reads the table kept in a file, unless a fault cuts it short. Nothing tells of the end if it is
not reached. -/
def readFrom (s : Source) : EStateM Fault (List Log.Event) (Table K R) := do
  let a := ((pushLines s.lines).run ⟨empty, ← get⟩).2
  set a.log
  match s.fault? with
  | some fault => throw fault
  | none =>
    modify (· ++ [.tableRead (Row.file R) a.state.size a.state.skipped])
    return a.state

def ofSource (s : Source) : Except Fault (Table K R) := ((readFrom s).run []).toExcept

/-- What reading a file has to tell. -/
def ofSourceEvents (R : Type) {K : Type} [DecidableEq K] [Row K R] (s : Source) :
    List Log.Event :=
  ((readFrom s : EStateM Fault (List Log.Event) (Table K R)).run []).state

theorem readFrom_run (s : Source) (log : List Log.Event) :
    ∃ log', (readFrom s : EStateM Fault (List Log.Event) (Table K R)).run log =
      match s.fault? with
      | some fault => .error fault log'
      | none => .ok (ofLines s.lines) log' := by
  unfold readFrom
  simp only [EStateM.run_bind, EStateM.run_get, EStateM.run_set, pushLines_run]
  cases s.fault? with
  | some fault => exact ⟨_, rfl⟩
  | none => exact ⟨_, rfl⟩

theorem ofSource_eq (s : Source) :
    (ofSource s : Except Fault (Table K R)) =
      match s.fault? with
      | some fault => .error fault
      | none => .ok (ofLines s.lines) := by
  obtain ⟨log, hrun⟩ := readFrom_run (R := R) s []
  rw [ofSource, hrun]
  cases s.fault? <;> rfl

end Table

end WireDictionary
