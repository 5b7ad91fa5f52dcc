import WireDictionary.Column.Kind
import WireDictionary.Column.Split
import WireDictionary.Numeral
import WireDictionary.Text.Quoted

/-! Reading the columns of a line from left to right. The cursor moves past every column it meets,
also past one that turns out not to hold a number, and stays where it is when the line has ended. -/

namespace WireDictionary

/-- Why a column cannot be read. Columns are counted from zero. -/
inductive ColumnError where
  /-- The line has only `available` columns. -/
  | missing (column available : Nat)
  /-- The column holds `text`, which is no number. -/
  | notANumber (column : Nat) (text : String)
  deriving DecidableEq, Repr

def ColumnError.message : ColumnError → String
  | missing column available =>
    "missing column " ++ Numeral.natural column ++ ": line has only " ++
      Numeral.natural available ++ " columns"
  | notANumber column text =>
    "invalid number in column " ++ Numeral.natural column ++ ": " ++ Text.Quoted.encode text

/-- The columns of a line and the number of those already read. -/
structure Cursor where
  columns : List String
  position : Nat
  deriving DecidableEq, Repr

/-- A step along the columns of a line. An error leaves the cursor where the step had taken it. -/
abbrev Reader := EStateM ColumnError Cursor

namespace Cursor

/-- At the first column of a line. Blanks around the line do not belong to its columns. -/
def ofLine (line : String) : Cursor :=
  ⟨(Column.splitChars (Text.trim line.toList)).map String.ofList, 0⟩

def size (c : Cursor) : Nat := c.columns.length

def atEnd (c : Cursor) : Bool := c.columns.length ≤ c.position

def column? (c : Cursor) : Option String := c.columns[c.position]?

def advance (c : Cursor) : Cursor := { c with position := c.position + 1 }

/-- Reads a column as it stands. -/
def text : Reader String := do
  let c ← get
  match c.column? with
  | none => throw (.missing c.position c.size)
  | some text => do
    set c.advance
    return text

/-- Reads a column that `parse` takes for a number. -/
def number (parse : List Char → Option Int64) : Reader Int64 := do
  let position := (← get).position
  let text ← text
  match parse text.toList with
  | none => throw (.notANumber position text)
  | some v => return v

/-- Reads a decimal number, if there is a column and it is not blank. -/
def optionalNumber : Reader (Option Int64) := do
  let c ← get
  match c.column? with
  | none => return none
  | some text =>
    if text.toList.all Text.isBlank then do
      set c.advance
      return none
    else return some (← number Numeral.decimal?)

/-! What the three ways of reading do, case by case. -/

theorem text_run (c : Cursor) :
    text.run c =
      match c.column? with
      | none => .error (.missing c.position c.size) c
      | some t => .ok t c.advance := by
  simp only [text, EStateM.run_bind, EStateM.run_get]
  cases c.column? <;> rfl

theorem number_run (parse : List Char → Option Int64) (c : Cursor) :
    (number parse).run c =
      match c.column? with
      | none => .error (.missing c.position c.size) c
      | some t =>
        match parse t.toList with
        | none => .error (.notANumber c.position t) c.advance
        | some v => .ok v c.advance := by
  simp only [number, EStateM.run_bind, EStateM.run_get, text_run]
  cases c.column? with
  | none => rfl
  | some t =>
    simp only
    cases parse t.toList <;> rfl

theorem optionalNumber_run (c : Cursor) :
    optionalNumber.run c =
      match c.column? with
      | none => .ok none c
      | some t =>
        if t.toList.all Text.isBlank then .ok none c.advance
        else
          match Numeral.decimal? t.toList with
          | none => .error (.notANumber c.position t) c.advance
          | some v => .ok (some v) c.advance := by
  simp only [optionalNumber, EStateM.run_bind, EStateM.run_get]
  cases hc : c.column? with
  | none => rfl
  | some t =>
    simp only
    split
    · rfl
    · simp only [EStateM.run_bind, number_run, hc]
      cases Numeral.decimal? t.toList <;> rfl

def next : (kind : ColumnKind) → Reader kind.Cell
  | .text => text
  | .integer => number Numeral.decimal?
  | .literal => number Numeral.literal?
  | .flag => return (← number Numeral.decimal?) != 0
  | .optionalInteger => optionalNumber
  | .optionalFlag => return (← optionalNumber).map (· != 0)

def cells : (kinds : List ColumnKind) → Reader (Cells kinds)
  | [] => return ()
  | kind :: kinds => do
    let cell ← next kind
    let rest ← cells kinds
    return (cell, rest)

end Cursor

end WireDictionary
