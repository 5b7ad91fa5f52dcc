import WireDictionary.Proofs.PushedLines
import WireDictionary.Proofs.ReadRows
import Mathlib.Data.List.Infix

/-! # What the log tells of lines

Each line of a text is told of at most once, and what is told depends on the lines
before it: whether its key came before. One push is described by the lines pushed so
far (`pushEvents_ofLines`), a run of pushes is the pushes in turn
(`pushAllEvents_ofLines`), and a line that is told of is either counted as skipped or
takes the place of a row, so the messages and the rows make up the lines.
-/
namespace WireDictionary

/-! ## Kinds of events -/

namespace Log.Event

def isReplacement : Event → Bool
  | rowReplaced .. => true
  | _ => false

def isShortLine : Event → Bool
  | lineSkipped _ _ .short => true
  | _ => false

/-- Whether a line was skipped because a number in it cannot be read. -/
def isBadNumber : Event → Bool
  | lineSkipped _ _ (.column (.notANumber ..)) => true
  | _ => false

end Log.Event

namespace Row

/-- A type of row whose messages name a row by its key alone. -/
class ShowsKey (R : Type) {K : Type} [Row K R] : Prop where
  keyText_congr : ∀ {row other : R}, key row = key other → keyText row = keyText other

instance : ShowsKey EntityRow := ⟨id⟩

instance : ShowsKey EntryRow := ⟨congrArg PairKey.text⟩

instance : ShowsKey EnumRow := ⟨congrArg Numeral.decimal⟩

instance : ShowsKey FieldRow := ⟨congrArg Numeral.decimal⟩

instance : ShowsKey FragmentRow := ⟨congrArg PairKey.text⟩

/-- What the log says of a line that comes behind others: that it is too short, that a number in it
cannot be read, or that its row takes the place of an earlier one. The first row with a key goes
without saying. -/
def messageOn? (R : Type) {K : Type} [DecidableEq K] [Row K R] (before : List String)
    (line : String) : Option String :=
  if (columns line).length < minColumns R then
    some (file R ++ ": skipping short line " ++ Text.Quoted.encode line)
  else
    match parse R line with
    | .error (.column (.notANumber i raw)) =>
      some (file R ++ ": skipping line " ++ Text.Quoted.encode line ++ ": " ++
        (ColumnError.notANumber i raw).message)
    -- a line that is not short lacks no column
    | .error _ => none
    | .ok row =>
      if key row ∈ keys (accepted R before) then
        some (file R ++ ": row " ++ keyText row ++ " replaced")
      else none

end Row

namespace Table

variable {K R : Type} [DecidableEq K] [Row K R]

/-! ## One line -/

/-- What is told of a line depends on the lines before it only by their keys. -/
theorem pushEvents_ofLines [Row.ShowsKey R] (before : List String) (line : String) :
    (ofLines before : Table K R).pushEvents line =
      match Row.parse R line with
      | .ok row =>
        if Row.key row ∈ Row.keys (Row.accepted R before) then
          [.rowReplaced (Row.file R) (Row.keyText row)]
        else []
      | .error fault => [.lineSkipped (Row.file R) line fault] := by
  cases hline : Row.parse R line with
  | error fault => exact pushEvents_of_error hline
  | ok row =>
    rw [pushEvents_of_ok hline, insertEvents_eq, get?_ofLines]
    cases hlast : Row.last? (Row.accepted R before) (Row.key row) with
    | none =>
      dsimp only
      rw [if_neg (Row.last?_eq_none_iff.mp hlast)]
    | some old =>
      have hkey : Row.key row ∈ Row.keys (Row.accepted R before) :=
        Row.isSome_last?_iff.mp (Option.isSome_iff_exists.mpr ⟨old, hlast⟩)
      have htext : Row.keyText old = Row.keyText row :=
        Row.ShowsKey.keyText_congr (Row.key_of_last? hlast)
      dsimp only
      rw [if_pos hkey, htext]

theorem messages_pushEvents [Row.ShowsKey R] [Row.OptionalLast R] (before : List String)
    (line : String) :
    ((ofLines before : Table K R).pushEvents line).map (fun e => (e.level, e.message)) =
      ((Row.messageOn? R before line).map (Prod.mk Log.Level.debug)).toList := by
  rw [pushEvents_ofLines, Row.messageOn?]
  have hread := Row.readsAs_parse (R := R) line
  generalize Row.parse R line = r at hread
  cases hread with
  | short hshort =>
    rw [if_pos hshort]
    rfl
  | rejected hlength _ _ _ =>
    rw [if_neg (Nat.not_lt.mpr hlength)]
    rfl
  | accepted hlength _ _ =>
    rw [if_neg (Nat.not_lt.mpr hlength)]
    dsimp only
    split <;> rfl

/-! ## Lines in turn -/

theorem pushAllEvents_ofLines (before lines : List String) :
    (ofLines before : Table K R).pushAllEvents lines =
      (lines.inits.zip lines).flatMap fun p =>
        (ofLines (before ++ p.1) : Table K R).pushEvents p.2 := by
  induction lines generalizing before with
  | nil => exact pushAllEvents_nil _
  | cons line rest ih =>
    have hnext : (ofLines before : Table K R).push line = ofLines (before ++ [line]) :=
      (ofLines_concat before line).symm
    rw [pushAllEvents_cons, hnext, ih, List.inits_cons, List.zip_cons_cons, List.flatMap_cons,
      List.append_nil, List.zip_map_left, List.flatMap_map]
    simp

theorem messages_ofTextEvents [Row.ShowsKey R] [Row.OptionalLast R] (text : String) :
    let lines := Text.linesOf text
    (ofTextEvents R text).map (fun e => (e.level, e.message)) =
      (lines.inits.zip lines).filterMap fun p =>
        (Row.messageOn? R p.1 p.2).map (Prod.mk Log.Level.debug) := by
  intro lines
  have hevents : ofTextEvents R text = (lines.inits.zip lines).flatMap fun p =>
      (ofLines ([] ++ p.1) : Table K R).pushEvents p.2 := by
    rw [← pushAllEvents_ofLines, ofLines_nil]
    rfl
  rw [hevents, List.map_flatMap, List.filterMap_eq_flatMap_toList]
  simp only [List.nil_append, messages_pushEvents]

/-! ## What messages and rows add up to -/

/-- So many lines are accounted for: each was skipped or replaced a row, with an event that tells of
it, or added a row. -/
structure Tallies (t : Table K R) (events : List Log.Event) (count : Nat) : Prop where
  lines : count = t.size + events.countP Log.Event.isReplacement + t.skipped
  skipped :
    t.skipped = events.countP Log.Event.isShortLine + events.countP Log.Event.isBadNumber

theorem size_insert (t : Table K R) (row : R) :
    (t.insert row).size = if (t.replaced? row).isSome then t.size else t.size + 1 := by
  have hcontains : t.rows.contains (Row.key row) = (t.replaced? row).isSome := by
    rw [replaced?_eq]
    rfl
  rw [size, ← OrderedMap.length_keys, insert_eq, OrderedMap.keys_insert, hcontains]
  split
  · exact OrderedMap.length_keys _
  · rw [List.length_append, OrderedMap.length_keys]
    rfl

variable {t : Table K R} {events : List Log.Event} {count : Nat}

omit [DecidableEq K] [Row K R] in
theorem Tallies.skip (h : t.Tallies events count) {e : Log.Event}
    (hreplacement : e.isReplacement = false) (hskipped : e.isShortLine = !e.isBadNumber) :
    Tallies { t with skipped := t.skipped + 1 } (events ++ [e]) (count + 1) := by
  obtain ⟨hlines, hcount⟩ := h
  have hsize : size { t with skipped := t.skipped + 1 } = t.size := rfl
  -- a skipped line is short or has a bad number, and not both
  have hone : (if e.isShortLine = true then 1 else 0) + (if e.isBadNumber = true then 1 else 0) =
      1 := by
    rw [hskipped]
    cases e.isBadNumber <;> rfl
  constructor
  · rw [List.countP_append, List.countP_singleton, hreplacement, hsize, hlines]
    rfl
  · change t.skipped + 1 = _
    rw [List.countP_append, List.countP_append, List.countP_singleton, List.countP_singleton,
      hcount]
    omega

theorem Tallies.insert (h : t.Tallies events count) (row : R) :
    (t.insert row).Tallies (events ++ t.insertEvents row) (count + 1) := by
  obtain ⟨hlines, hcount⟩ := h
  have hskipped : (t.insert row).skipped = t.skipped := by rw [insert_eq]
  rw [insertEvents_eq, ← replaced?_eq]
  cases hreplaced : t.replaced? row with
  | none =>
    have hsize : (t.insert row).size = t.size + 1 := by simp [size_insert, hreplaced]
    constructor
    · rw [List.append_nil, hsize, hskipped, hlines]
      omega
    · rw [List.append_nil, hskipped, hcount]
  | some old =>
    have hsize : (t.insert row).size = t.size := by simp [size_insert, hreplaced]
    constructor
    · rw [List.countP_append, hsize, hskipped, hlines]
      change _ = t.size + (_ + 1) + t.skipped
      omega
    · rw [List.countP_append, List.countP_append, hskipped, hcount]
      rfl

theorem Tallies.push [Row.OptionalLast R] (h : t.Tallies events count) (line : String) :
    (t.push line).Tallies (events ++ t.pushEvents line) (count + 1) := by
  have hread := Row.readsAs_parse (R := R) line
  generalize hline : Row.parse R line = r at hread
  cases hread with
  | short _ =>
    rw [push_of_error hline, pushEvents_of_error hline]
    exact h.skip rfl rfl
  | rejected _ _ _ _ =>
    rw [push_of_error hline, pushEvents_of_error hline]
    exact h.skip rfl rfl
  | @accepted held _ _ _ =>
    rw [push_of_ok hline, pushEvents_of_ok hline]
    exact h.insert (Row.ofCells held)

/-- What has been accounted for stays so, whatever lines come next. -/
theorem Tallies.pushAll [Row.OptionalLast R] (h : t.Tallies events count) (lines : List String) :
    (t.pushAll lines).Tallies (events ++ t.pushAllEvents lines) (count + lines.length) := by
  induction lines generalizing t events count with
  | nil =>
    rw [pushAll_eq_foldl, pushAllEvents_nil, List.append_nil]
    exact h
  | cons line rest ih =>
    have hrest := ih (h.push line)
    rw [List.append_assoc, Nat.add_assoc, Nat.add_comm 1] at hrest
    rw [pushAll_cons, pushAllEvents_cons]
    exact hrest

theorem tallies_ofText [Row.OptionalLast R] (text : String) :
    (ofText text : Table K R).Tallies (ofTextEvents R text) (Text.linesOf text).length := by
  have hempty : (empty : Table K R).Tallies [] 0 := ⟨rfl, rfl⟩
  have htext := hempty.pushAll (Text.linesOf text)
  rw [List.nil_append, Nat.zero_add] at htext
  exact htext

/-! ## Texts -/

/-- How the log accounts for the lines of every text, for rows of a type. -/
structure LogsLines (R : Type) {K : Type} [DecidableEq K] [Row K R] : Prop where
  /-- What is said is what is to be said of each line in turn, all of it at the same level. -/
  messages : ∀ text, let lines := Text.linesOf text
    (ofTextEvents R text).map (fun e => (e.level, e.message)) =
      (lines.inits.zip lines).filterMap fun p =>
        (Row.messageOn? R p.1 p.2).map (Prod.mk Log.Level.debug)
  tallies : ∀ text,
    (ofText text : Table K R).Tallies (ofTextEvents R text) (Text.linesOf text).length

theorem logsLines [Row.ShowsKey R] [Row.OptionalLast R] : LogsLines R where
  messages := messages_ofTextEvents
  tallies := tallies_ofText

/-- **Every line is accounted for in the log.** For every type of row, the messages about a text are
one for each line that is too short, one for each line with a bad number and one for each row that
takes the place of an earlier one, in the order of the lines, and no others. So the lines are as many
as the rows, the messages about replaced rows and the skipped lines together, and the skipped lines
are as many as the other messages. -/
theorem lines_accounted_for : LogsLines EntityRow ∧ LogsLines EntryRow ∧ LogsLines EnumRow ∧
    LogsLines FieldRow ∧ LogsLines FragmentRow :=
  ⟨logsLines, logsLines, logsLines, logsLines, logsLines⟩

-- the last line is written unlike the first, and has the same key
example : (ofTextEvents EntryRow "1^0x01^a\n1^2\n1^x^b\n1^1^c\n").map Log.Event.message =
    ["EnumEntry.txt: skipping short line \"1^2\"",
      "EnumEntry.txt: skipping line \"1^x^b\": invalid number in column 1: \"x\"",
      "EnumEntry.txt: row 1.1 replaced"] := by
  decide +kernel

end Table

end WireDictionary
