import WireDictionary.Ascending
import WireDictionary.Log.Logged
import WireDictionary.Schema.Basic

/-! Putting a schema together from rows, one step for each row. The order of steps matters: an enum
takes only the values that come after its declaration, and a struct takes its name from the first
entity that comes after its first fragment. A step changes the schema, tells the log and may fail,
all in one run; behind each stands what its run does, from any schema and any log. -/

namespace WireDictionary

/-- A value that belongs to an enum that is not declared. -/
structure MissingOwner where
  enumId : Int64
  value : Int64
  deriving DecidableEq, Repr

def MissingOwner.message (e : MissingOwner) : String :=
  "enum entry " ++ Numeral.decimal e.enumId ++ "." ++ Numeral.decimal e.value ++
    " has no owning enum"

/-- A value as its row gives it. -/
def EntryRow.enumValue (row : EntryRow) : EnumValue := ⟨row.value, row.name⟩

/-- A member as its row gives it. -/
def FragmentRow.member (row : FragmentRow) : Member := ⟨row.order, row.tag, row.value⟩

/-- An entity as its row gives it. -/
def EntityRow.decl (row : EntityRow) : EntityDecl := ⟨row.uniqueId, row.name, row.structId⟩

/-- A part of the assembly. An error leaves the schema and the log where the part had taken them. -/
abbrev Builder := EStateM MissingOwner (Log.Logged Schema)

namespace Schema

open Log.Logged (tell change)

/-- Records a finding behind the others. -/
def report (f : Finding) : Builder Unit :=
  change fun s => ((), { s with findings := s.findings ++ [f] })

/-! ## Enums and their values -/

/-- Declares an enum without values. If it was declared before, it starts over. -/
def addEnum (row : EnumRow) : Builder Unit := do
  let old? ← change fun s =>
    (s.enums.insert row.id ⟨row.id, row.name, []⟩).map id ({ s with enums := · })
  if old?.isSome then tell (.enumRedeclared row.id)

theorem addEnum_run (row : EnumRow) (s : Schema) (log : List Log.Event) :
    (addEnum row).run ⟨s, log⟩ =
      .ok ()
        ⟨{ s with enums := (s.enums.insert row.id ⟨row.id, row.name, []⟩).2 },
          log ++ if s.enums.contains row.id then [.enumRedeclared row.id] else []⟩ := by
  have hanswer : (s.enums.insert row.id ⟨row.id, row.name, []⟩).1.isSome =
      s.enums.contains row.id := rfl
  simp only [addEnum, EStateM.run_bind, Log.Logged.change_run, Prod.map, id, hanswer]
  split
  · rfl
  · rw [List.append_nil]
    rfl

/-- Adds a value to its enum. It fails if there is no such enum. -/
def addEntry (row : EntryRow) : Builder Unit := do
  let e? ← change fun s =>
    (s.enums.modify row.id fun e =>
      { e with values := insertAscending EnumValue.value row.enumValue e.values }).map id
      ({ s with enums := · })
  if e?.isNone then throw ⟨row.id, row.value⟩

theorem addEntry_run_of_contains {row : EntryRow} {s : Schema}
    (h : s.enums.contains row.id = true) (log : List Log.Event) :
    (addEntry row).run ⟨s, log⟩ =
      .ok ()
        ⟨{ s with enums := (s.enums.modify row.id fun e =>
            { e with values := insertAscending EnumValue.value row.enumValue e.values }).2 },
          log⟩ := by
  obtain ⟨e, he⟩ := Option.isSome_iff_exists.mp h
  have hget : s.enums.get? row.id = some e := he
  simp only [addEntry, EStateM.run_bind, Log.Logged.change_run, Prod.map, id,
    OrderedMap.fst_modify, hget]
  rfl

/-- A value is refused if its enum is not declared, and then nothing has changed. -/
theorem addEntry_run_of_not_contains {row : EntryRow} {s : Schema}
    (h : s.enums.contains row.id = false) (log : List Log.Event) :
    (addEntry row).run ⟨s, log⟩ = .error ⟨row.id, row.value⟩ ⟨s, log⟩ := by
  simp only [addEntry, EStateM.run_bind, Log.Logged.change_run,
    OrderedMap.modify_of_not_contains h]
  rfl

/-- Adds a value to its enum, or records that there is no such enum. -/
def addEntryLeniently (row : EntryRow) : Builder Unit := do
  try addEntry row
  catch e =>
    tell (.entryDropped e.enumId e.value row.name)
    report (.missingOwner e.enumId e.value row.name)

theorem addEntryLeniently_run_of_contains {row : EntryRow} {s : Schema}
    (h : s.enums.contains row.id = true) (log : List Log.Event) :
    (addEntryLeniently row).run ⟨s, log⟩ = (addEntry row).run ⟨s, log⟩ := by
  rw [addEntryLeniently, Log.Logged.tryCatch_run, addEntry_run_of_contains h]

theorem addEntryLeniently_run_of_not_contains {row : EntryRow} {s : Schema}
    (h : s.enums.contains row.id = false) (log : List Log.Event) :
    (addEntryLeniently row).run ⟨s, log⟩ =
      .ok ()
        ⟨{ s with findings := s.findings ++ [.missingOwner row.id row.value row.name] },
          log ++ [.entryDropped row.id row.value row.name]⟩ := by
  rw [addEntryLeniently, Log.Logged.tryCatch_run, addEntry_run_of_not_contains h]
  rfl

/-! ## Fields -/

def isStrange (row : FieldRow) : Bool := BaseType.maxCode < row.baseType

/-- Stores a field; a strange one is recorded as well. -/
def addField (row : FieldRow) : Builder Unit := do
  if isStrange row then
    tell (.fieldStrange row.id row.name)
    report (.strangeField row.id row.name row.baseType)
  let _ ← change fun s => (s.fields.insert row.id row).map id ({ s with fields := · })

theorem addField_run (row : FieldRow) (s : Schema) (log : List Log.Event) :
    (addField row).run ⟨s, log⟩ =
      .ok ()
        ⟨{ s with
            fields := (s.fields.insert row.id row).2
            findings := s.findings ++
              if isStrange row then [.strangeField row.id row.name row.baseType] else [] },
          log ++ if isStrange row then [.fieldStrange row.id row.name] else []⟩ := by
  unfold addField
  split
  · rfl
  · rw [List.append_nil, List.append_nil]
    rfl

/-! ## Structs and entities -/

/-- Adds a member to its struct. The first fragment of a struct makes it, without a name. -/
def addFragment (row : FragmentRow) : Builder Unit := do
  let _ ← change fun s =>
    (s.structs.ensure row.id (.pure ⟨row.id, none, []⟩)).map id ({ s with structs := · })
  let _ ← change fun s =>
    (s.structs.modify row.id fun d =>
      { d with members := insertAscending Member.order row.member d.members }).map id
      ({ s with structs := · })

theorem addFragment_run (row : FragmentRow) (s : Schema) (log : List Log.Event) :
    (addFragment row).run ⟨s, log⟩ =
      .ok ()
        ⟨{ s with
            structs :=
              ((s.structs.ensure row.id (.pure ⟨row.id, none, []⟩)).2.modify row.id fun d =>
                { d with members := insertAscending Member.order row.member d.members }).2 },
          log⟩ := rfl

/-- The name of a struct once an entity refers to it: the first name is kept. -/
def claim (name? : Option String) (entityName : String) : Option String :=
  name?.or (if entityName = unnamed then none else some entityName)

/-- The first name of a struct is its last. -/
theorem claim_some (name entityName : String) : claim (some name) entityName = some name := rfl

/-- Adds an entity, which names its struct if that has no name yet. -/
def addEntity (row : EntityRow) : Builder Unit := do
  let _ ← change fun s =>
    (s.structs.modify row.structId fun d => { d with name? := claim d.name? row.name }).map id
      ({ s with structs := · })
  let _ ← change fun s =>
    (s.entities.insert row.uniqueId row.decl).map id ({ s with entities := · })

theorem addEntity_run (row : EntityRow) (s : Schema) (log : List Log.Event) :
    (addEntity row).run ⟨s, log⟩ =
      .ok ()
        ⟨{ s with
            structs := (s.structs.modify row.structId fun d =>
              { d with name? := claim d.name? row.name }).2
            entities := (s.entities.insert row.uniqueId row.decl).2 },
          log⟩ := rfl

/-! ## Steps -/

inductive Step where
  | enum (row : EnumRow)
  /-- A value whose enum must exist; otherwise the step fails. -/
  | strictEntry (row : EntryRow)
  /-- A value that is left out, and reported, if its enum does not exist. -/
  | entry (row : EntryRow)
  | field (row : FieldRow)
  | fragment (row : FragmentRow)
  | entity (row : EntityRow)
  deriving DecidableEq, Repr

def Step.build : Step → Builder Unit
  | .enum row => addEnum row
  | .strictEntry row => addEntry row
  | .entry row => addEntryLeniently row
  | .field row => addField row
  | .fragment row => addFragment row
  | .entity row => addEntity row

/-- Takes steps in turn. The error of a step that fails is ignored. -/
def buildAll (steps : List Step) : Builder Unit :=
  steps.forM fun step => try step.build catch _ => return

/-! What one run leaves, tells and fails with. -/

def apply (s : Schema) (step : Step) : Schema := (step.build.run ⟨s, []⟩).state.state

def events (s : Schema) (step : Step) : List Log.Event := (step.build.run ⟨s, []⟩).state.log

def error? (s : Schema) (step : Step) : Option MissingOwner :=
  match (step.build.run ⟨s, []⟩).toExcept with
  | .ok _ => none
  | .error e => some e

def applyAll (s : Schema) (steps : List Step) : Schema := ((buildAll steps).run ⟨s, []⟩).state.state

def allEvents (s : Schema) (steps : List Step) : List Log.Event :=
  ((buildAll steps).run ⟨s, []⟩).state.log

def ofSteps (steps : List Step) : Schema := empty.applyAll steps

theorem apply_enum (s : Schema) (row : EnumRow) :
    s.apply (.enum row) =
      { s with enums := (s.enums.insert row.id ⟨row.id, row.name, []⟩).2 } := by
  rw [apply, Step.build, addEnum_run]
  rfl

theorem apply_strictEntry (s : Schema) (row : EntryRow) :
    s.apply (.strictEntry row) =
      { s with
        enums := (s.enums.modify row.id fun e =>
          { e with values := insertAscending EnumValue.value row.enumValue e.values }).2 } := by
  rw [apply, Step.build]
  cases hc : s.enums.contains row.id with
  | false =>
    rw [addEntry_run_of_not_contains hc, OrderedMap.modify_of_not_contains hc]
    rfl
  | true =>
    rw [addEntry_run_of_contains hc]
    rfl

theorem apply_entry (s : Schema) (row : EntryRow) :
    s.apply (.entry row) =
      { s with
        enums := (s.enums.modify row.id fun e =>
          { e with values := insertAscending EnumValue.value row.enumValue e.values }).2
        findings := s.findings ++
          if s.enums.contains row.id then [] else [.missingOwner row.id row.value row.name] } := by
  rw [apply, Step.build]
  cases hc : s.enums.contains row.id with
  | false =>
    rw [addEntryLeniently_run_of_not_contains hc, OrderedMap.modify_of_not_contains hc]
    rfl
  | true =>
    rw [addEntryLeniently_run_of_contains hc, addEntry_run_of_contains hc, if_pos rfl,
      List.append_nil]
    rfl

theorem apply_field (s : Schema) (row : FieldRow) :
    s.apply (.field row) =
      { s with
        fields := (s.fields.insert row.id row).2
        findings := s.findings ++
          if isStrange row then [.strangeField row.id row.name row.baseType] else [] } := by
  rw [apply, Step.build, addField_run]
  rfl

theorem apply_fragment (s : Schema) (row : FragmentRow) :
    s.apply (.fragment row) =
      { s with
        structs :=
          ((s.structs.ensure row.id (.pure ⟨row.id, none, []⟩)).2.modify row.id fun d =>
            { d with members := insertAscending Member.order row.member d.members }).2 } := rfl

theorem apply_entity (s : Schema) (row : EntityRow) :
    s.apply (.entity row) =
      { s with
        structs := (s.structs.modify row.structId fun d =>
          { d with name? := claim d.name? row.name }).2
        entities := (s.entities.insert row.uniqueId row.decl).2 } := rfl

/-- What a step does and whether it fails do not depend on the log, and the log keeps what it had. -/
theorem Step.build_run (step : Step) (s : Schema) (log : List Log.Event) :
    step.build.run ⟨s, log⟩ =
      match s.error? step with
      | none => .ok () ⟨s.apply step, log ++ s.events step⟩
      | some e => .error e ⟨s.apply step, log ++ s.events step⟩ := by
  unfold apply events error?
  cases step with
  | enum row =>
    simp only [build, addEnum_run]
    rfl
  | strictEntry row =>
    cases hc : s.enums.contains row.id with
    | false =>
      simp only [build, addEntry_run_of_not_contains hc]
      simp
    | true =>
      simp only [build, addEntry_run_of_contains hc]
      simp
  | entry row =>
    cases hc : s.enums.contains row.id with
    | false =>
      simp only [build, addEntryLeniently_run_of_not_contains hc]
      rfl
    | true =>
      simp only [build, addEntryLeniently_run_of_contains hc, addEntry_run_of_contains hc]
      simp
  | field row =>
    simp only [build, addField_run]
    rfl
  | fragment row =>
    simp only [build, addFragment_run]
    simp
  | entity row =>
    simp only [build, addEntity_run]
    simp

theorem buildAll_cons_run (step : Step) (rest : List Step) (s : Schema) (log : List Log.Event) :
    (buildAll (step :: rest)).run ⟨s, log⟩ =
      (buildAll rest).run ⟨s.apply step, log ++ s.events step⟩ := by
  simp only [buildAll, List.forM_eq_forM, List.forM_cons, EStateM.run_bind,
    Log.Logged.tryCatch_run, Step.build_run]
  cases s.error? step <;> rfl

/-- A run of steps does not fail. -/
theorem buildAll_run (steps : List Step) (s : Schema) (log : List Log.Event) :
    (buildAll steps).run ⟨s, log⟩ = .ok () ⟨s.applyAll steps, log ++ s.allEvents steps⟩ := by
  induction steps generalizing s log with
  | nil =>
    have hlog : log ++ s.allEvents [] = log := List.append_nil log
    rw [hlog]
    rfl
  | cons step rest ih =>
    rw [applyAll, allEvents, buildAll_cons_run, buildAll_cons_run, ih, ih, List.append_assoc]
    rfl

theorem applyAll_cons (s : Schema) (step : Step) (rest : List Step) :
    s.applyAll (step :: rest) = (s.apply step).applyAll rest := by
  rw [applyAll, buildAll_cons_run, buildAll_run]
  rfl

theorem applyAll_eq_foldl (s : Schema) (steps : List Step) :
    s.applyAll steps = steps.foldl apply s := by
  induction steps generalizing s with
  | nil => rfl
  | cons step rest ih => rw [applyAll_cons, ih, List.foldl_cons]

theorem applyAll_append (s : Schema) (xs ys : List Step) :
    s.applyAll (xs ++ ys) = (s.applyAll xs).applyAll ys := by
  rw [applyAll_eq_foldl, applyAll_eq_foldl, applyAll_eq_foldl, List.foldl_append]

end Schema

end WireDictionary
