import WireDictionary.Proofs.Sorted
import WireDictionary.Proofs.StandingRows
import WireDictionary.Schema.Assembly
import Mathlib.Data.List.DropRight

/-! # What a run of the assembly makes of one id

A step touches the enum, field, struct or entity of a single id. Each section
first says what one step does to the thing of a given id, whatever the schema
before it, and then reads off the whole run, which starts from nothing. Steps
are put in any order and any of them may be repeated.
-/
namespace WireDictionary

namespace Schema

namespace Step

/-- The row of a declaration of an enum. -/
def enum? : Step → Option EnumRow
  | .enum row => some row
  | _ => none

/-- The row of a value, whether or not the step may fail. -/
def entry? : Step → Option EntryRow
  | .strictEntry row => some row
  | .entry row => some row
  | _ => none

def field? : Step → Option FieldRow
  | .field row => some row
  | _ => none

def fragment? : Step → Option FragmentRow
  | .fragment row => some row
  | _ => none

def entity? : Step → Option EntityRow
  | .entity row => some row
  | _ => none

theorem enum?_eq_some_iff {step : Step} {row : EnumRow} :
    step.enum? = some row ↔ step = .enum row := by
  cases step <;> simp [enum?]

theorem fragment?_eq_some_iff {step : Step} {row : FragmentRow} :
    step.fragment? = some row ↔ step = .fragment row := by
  cases step <;> simp [fragment?]

end Step

theorem filterMap_concat {α β : Type} (f : α → Option β) (l : List α) (a : α) :
    (l ++ [a]).filterMap f = l.filterMap f ++ (f a).toList := by
  rw [List.filterMap_append]
  cases h : f a <;> simp [h]

theorem ofSteps_concat (steps : List Step) (step : Step) :
    ofSteps (steps ++ [step]) = (ofSteps steps).apply step := by
  simp [ofSteps, applyAll_eq_foldl]

/-! ## Enums -/

/-- The steps behind the last declaration of an enum. -/
def sinceDeclared (id : Int64) (steps : List Step) : List Step :=
  steps.rtakeWhile fun step => step.enum?.all (·.id ≠ id)

/-- The values that steps bring to an enum, in turn. -/
def valuesOf (id : Int64) (steps : List Step) : List EnumValue :=
  ((steps.filterMap Step.entry?).filter (·.id = id)).map EntryRow.enumValue

/-- What a step makes of the enum of an id. -/
def enumAfter (id : Int64) (e? : Option EnumDecl) : Step → Option EnumDecl
  | .enum row => if row.id = id then some ⟨id, row.name, []⟩ else e?
  | .strictEntry row | .entry row =>
    if row.id = id then
      e?.map fun e => { e with values := insertAscending EnumValue.value row.enumValue e.values }
    else e?
  | .field _ | .fragment _ | .entity _ => e?

theorem get?_enums_apply (s : Schema) (step : Step) (id : Int64) :
    (s.apply step).enums.get? id = enumAfter id (s.enums.get? id) step := by
  cases step with
  | enum row =>
    simp only [apply_enum, OrderedMap.get?_insert, enumAfter]
    by_cases h : row.id = id
    · simp [h]
    · simp [h, Ne.symm h]
  | strictEntry row | entry row =>
    simp only [apply_strictEntry, apply_entry, OrderedMap.get?_modify, enumAfter,
      eq_comm (a := id)]
  | field row =>
    rw [apply_field]
    rfl
  | fragment row | entity row => rfl

theorem sinceDeclared_concat (id : Int64) (steps : List Step) (step : Step) :
    sinceDeclared id (steps ++ [step]) =
      if step.enum?.all (·.id ≠ id) then sinceDeclared id steps ++ [step] else [] :=
  List.rtakeWhile_concat _ _ step

theorem valuesOf_concat (id : Int64) (steps : List Step) (step : Step) :
    valuesOf id (steps ++ [step]) =
      valuesOf id steps ++ (step.entry?.toList.filter (·.id = id)).map EntryRow.enumValue := by
  simp only [valuesOf, filterMap_concat, List.filter_append, List.map_append]

/-- An enum has the name of its last declaration and the values that came after it. -/
theorem get?_enums_ofSteps (steps : List Step) (id : Int64) :
    (ofSteps steps).enums.get? id = (Row.last? (steps.filterMap Step.enum?) id).map fun row =>
      ⟨id, row.name, sortedBy EnumValue.value (valuesOf id (sinceDeclared id steps))⟩ := by
  induction steps using List.reverseRecOn with
  | nil => rfl
  | append_singleton steps step ih =>
    rw [ofSteps_concat, get?_enums_apply, ih, filterMap_concat, sinceDeclared_concat]
    cases step with
    | enum row =>
      -- a declaration of the enum itself leaves no values behind it
      rw [Step.enum?, Option.toList_some, Row.last?_concat]
      change (if row.id = id then _ else _) = (if id = row.id then _ else _ : Option EnumRow).map _
      by_cases h : row.id = id
      · simp [h, valuesOf, sortedBy]
      · simp [h, Ne.symm h, valuesOf_concat, Step.entry?]
    | strictEntry row | entry row =>
      simp only [Step.enum?, Option.toList_none, List.append_nil, Option.all_none, if_true,
        valuesOf_concat, Step.entry?, Option.toList_some, enumAfter]
      by_cases h : row.id = id
      · simp [h, insertAscending_sortedBy, Function.comp_def]
      · simp [h]
    | field row | fragment row | entity row =>
      simp [enumAfter, Step.enum?, valuesOf_concat, Step.entry?]

/-! ## Structs -/

/-- The members that steps bring to a struct, in turn. -/
def membersOf (id : Int64) (steps : List Step) : List Member :=
  ((steps.filterMap Step.fragment?).filter (·.id = id)).map FragmentRow.member

/-- The name that a step has for a struct. -/
def Step.nameFor? (id : Int64) (step : Step) : Option String :=
  (step.entity?.filter fun row => row.structId = id ∧ row.name ≠ unnamed).map EntityRow.name

/-- The name of a struct: the first that comes behind its first member. -/
def nameOf? (id : Int64) (steps : List Step) : Option String :=
  (steps.dropWhile fun step => step.fragment?.all (·.id ≠ id)).findSome? (Step.nameFor? id)

/-- What a step makes of the struct of an id. -/
def structAfter (id : Int64) (d? : Option StructDecl) : Step → Option StructDecl
  | .fragment row =>
    if row.id = id then
      let d := d?.getD ⟨id, none, []⟩
      some { d with members := insertAscending Member.order row.member d.members }
    else d?
  | .entity row =>
    if row.structId = id then d?.map fun d => { d with name? := claim d.name? row.name } else d?
  | .enum _ | .strictEntry _ | .entry _ | .field _ => d?

theorem nameFor?_entity (id : Int64) (row : EntityRow) :
    (Step.entity row).nameFor? id =
      if row.structId = id then if row.name = unnamed then none else some row.name else none := by
  simp only [Step.nameFor?, Step.entity?, Option.filter_some]
  by_cases h : row.structId = id <;> by_cases hn : row.name = unnamed <;> simp [h, hn]

theorem nameFor?_of_not_entity {id : Int64} {step : Step} (h : step.entity? = none) :
    step.nameFor? id = none := by
  rw [Step.nameFor?, h]
  rfl

theorem get?_structs_apply (s : Schema) (step : Step) (id : Int64) :
    (s.apply step).structs.get? id = structAfter id (s.structs.get? id) step := by
  cases step with
  | fragment row =>
    simp only [apply_fragment, OrderedMap.get?_modify, OrderedMap.get?_ensure, structAfter]
    by_cases h : row.id = id
    · simp [h, Thunk.get, Thunk.pure]
    · simp [h, Ne.symm h]
  | entity row =>
    simp only [apply_entity, OrderedMap.get?_modify, structAfter, eq_comm (a := id)]
  | enum row | strictEntry row | entry row | field row =>
    simp only [apply_enum, apply_strictEntry, apply_entry, apply_field, structAfter]

theorem membersOf_concat (id : Int64) (steps : List Step) (step : Step) :
    membersOf id (steps ++ [step]) =
      membersOf id steps ++ (step.fragment?.toList.filter (·.id = id)).map FragmentRow.member := by
  simp only [membersOf, filterMap_concat, List.filter_append, List.map_append]

theorem membersOf_eq_nil_iff {id : Int64} {steps : List Step} :
    membersOf id steps = [] ↔ ∀ step ∈ steps, step.fragment?.all (·.id ≠ id) = true := by
  simp only [membersOf, List.map_eq_nil_iff, List.filter_eq_nil_iff, List.mem_filterMap,
    decide_eq_true_eq, Option.all_eq_true]
  constructor
  · intro h step hs row hr
    exact h row ⟨step, hs, hr⟩
  · rintro h row ⟨step, hs, hr⟩
    exact h step hs row hr

/-- Only once a struct has members can a step name it. -/
theorem nameOf?_concat (id : Int64) (steps : List Step) (step : Step) :
    nameOf? id (steps ++ [step]) =
      if membersOf id steps = [] then none else (nameOf? id steps).or (step.nameFor? id) := by
  rw [nameOf?, List.dropWhile_append]
  split
  · -- no step so far is a member, so the last one is the first that may be
    rename_i hd
    have hall := List.dropWhile_eq_nil_iff.mp (List.isEmpty_iff.mp hd)
    rw [if_pos (membersOf_eq_nil_iff.mpr hall)]
    cases step with
    | fragment row =>
      have hname : (Step.fragment row).nameFor? id = none := nameFor?_of_not_entity rfl
      by_cases h : row.id = id <;> simp [Step.fragment?, hname, h]
    | enum row | strictEntry row | entry row | field row | entity row =>
      simp [Step.fragment?]
  · rename_i hd
    have hne : membersOf id steps ≠ [] := fun hn => hd (List.isEmpty_iff.mpr
      (List.dropWhile_eq_nil_iff.mpr (membersOf_eq_nil_iff.mp hn)))
    rw [if_neg hne, List.findSome?_append, List.findSome?_singleton]
    rfl

/-- A struct has all its members, by their places, and the first name that came behind one. -/
theorem get?_structs_ofSteps (steps : List Step) (id : Int64) :
    (ofSteps steps).structs.get? id =
      if membersOf id steps = [] then none
      else some ⟨id, nameOf? id steps, sortedBy Member.order (membersOf id steps)⟩ := by
  induction steps using List.reverseRecOn with
  | nil => rfl
  | append_singleton steps step ih =>
    rw [ofSteps_concat, get?_structs_apply, ih, membersOf_concat, nameOf?_concat]
    cases step with
    | fragment row =>
      rw [nameFor?_of_not_entity rfl, Option.or_none]
      by_cases h : row.id = id
      · have hsort : insertAscending Member.order row.member
            (sortedBy Member.order (membersOf id steps)) =
              sortedBy Member.order (membersOf id steps ++ [row.member]) :=
          insertAscending_sortedBy _ row.member
        by_cases hm : membersOf id steps = []
        · simpa [structAfter, Step.fragment?, h, hm, sortedBy] using hsort
        · simp [structAfter, Step.fragment?, h, hm, hsort]
      · by_cases hm : membersOf id steps = [] <;> simp [structAfter, Step.fragment?, h, hm]
    | entity row =>
      rw [nameFor?_entity]
      by_cases hm : membersOf id steps = []
      · simp [structAfter, Step.fragment?, hm]
      · by_cases h : row.structId = id <;> simp [structAfter, Step.fragment?, claim, h, hm]
    | enum row | strictEntry row | entry row | field row =>
      rw [nameFor?_of_not_entity rfl, Option.or_none]
      by_cases hm : membersOf id steps = [] <;> simp [structAfter, Step.fragment?, hm]

/-! ## Ids in order -/

theorem keys_enums_apply (s : Schema) (step : Step) :
    (s.apply step).enums.keys =
      match step.enum? with
      | some row => if row.id ∈ s.enums.keys then s.enums.keys else s.enums.keys ++ [row.id]
      | none => s.enums.keys := by
  cases step with
  | enum row =>
    simp only [apply_enum, OrderedMap.keys_insert, OrderedMap.contains_iff_mem_keys, Step.enum?]
  | strictEntry row | entry row =>
    simp only [apply_strictEntry, apply_entry, OrderedMap.keys_modify, Step.enum?]
  | field row =>
    rw [apply_field]
    rfl
  | fragment row | entity row => rfl

/-- Enums come in the order of their first declarations. -/
theorem keys_enums_ofSteps (steps : List Step) :
    (ofSteps steps).enums.keys = Row.keys (steps.filterMap Step.enum?) := by
  induction steps using List.reverseRecOn with
  | nil => rfl
  | append_singleton steps step ih =>
    rw [ofSteps_concat, keys_enums_apply, ih, filterMap_concat]
    cases step.enum? with
    | none => rw [Option.toList_none, List.append_nil]
    | some row => exact (Row.keys_concat _ row).symm

theorem keys_structs_apply (s : Schema) (step : Step) :
    (s.apply step).structs.keys =
      match step.fragment? with
      | some row =>
        if row.id ∈ s.structs.keys then s.structs.keys else s.structs.keys ++ [row.id]
      | none => s.structs.keys := by
  cases step with
  | fragment row =>
    simp only [apply_fragment, OrderedMap.keys_modify, OrderedMap.keys_ensure,
      OrderedMap.contains_iff_mem_keys, Step.fragment?]
  | enum row | strictEntry row | entry row | field row =>
    simp only [apply_enum, apply_strictEntry, apply_entry, apply_field, Step.fragment?]
  | entity row => exact OrderedMap.keys_modify ..

/-- Structs come in the order of their first members. -/
theorem keys_structs_ofSteps (steps : List Step) :
    (ofSteps steps).structs.keys =
      ((steps.filterMap Step.fragment?).map FragmentRow.id).eraseDups := by
  induction steps using List.reverseRecOn with
  | nil => rfl
  | append_singleton steps step ih =>
    rw [ofSteps_concat, keys_structs_apply, ih, filterMap_concat]
    cases step.fragment? with
    | none => rw [Option.toList_none, List.append_nil]
    | some row =>
      simp only [Option.toList_some, List.map_append, List.map_singleton, eraseDups_concat,
        List.mem_eraseDups]

/-! ## Fields and entities -/

theorem fields_apply (s : Schema) (step : Step) :
    (s.apply step).fields =
      match step.field? with
      | some row => (s.fields.insert row.id row).2
      | none => s.fields := by
  cases step <;>
    simp only [apply_enum, apply_strictEntry, apply_entry, apply_field, apply_fragment,
      apply_entity, Step.field?]

/-- Fields are kept as a table keeps its rows. -/
theorem fields_ofSteps (steps : List Step) :
    (ofSteps steps).fields = (Table.ofRows (steps.filterMap Step.field?)).rows := by
  induction steps using List.reverseRecOn with
  | nil => rfl
  | append_singleton steps step ih =>
    rw [ofSteps_concat, fields_apply, ih, filterMap_concat]
    cases step.field? with
    | none => rw [Option.toList_none, List.append_nil]
    | some row =>
      rw [Option.toList_some, Table.ofRows_concat, Table.insert_eq]
      rfl

theorem entities_apply (s : Schema) (step : Step) :
    (s.apply step).entities =
      match step.entity? with
      | some row => (s.entities.insert row.uniqueId row.decl).2
      | none => s.entities := by
  cases step <;>
    simp only [apply_enum, apply_strictEntry, apply_entry, apply_field, apply_fragment,
      apply_entity, Step.entity?]

theorem keys_entities_ofSteps (steps : List Step) :
    (ofSteps steps).entities.keys = Row.keys (steps.filterMap Step.entity?) := by
  induction steps using List.reverseRecOn with
  | nil => rfl
  | append_singleton steps step ih =>
    rw [ofSteps_concat, entities_apply, filterMap_concat]
    cases step.entity? with
    | none => rw [ih, Option.toList_none, List.append_nil]
    | some row =>
      rw [Option.toList_some, Row.keys_concat, OrderedMap.keys_insert, ← ih]
      simp only [OrderedMap.contains_iff_mem_keys]
      rfl

theorem get?_entities_ofSteps (steps : List Step) (id : String) :
    (ofSteps steps).entities.get? id =
      (Row.last? (steps.filterMap Step.entity?) id).map EntityRow.decl := by
  induction steps using List.reverseRecOn with
  | nil => rfl
  | append_singleton steps step ih =>
    rw [ofSteps_concat, entities_apply, filterMap_concat]
    cases step.entity? with
    | none => rw [ih, Option.toList_none, List.append_nil]
    | some row =>
      rw [Option.toList_some, Row.last?_concat, OrderedMap.get?_insert, ih]
      change _ = (if id = row.uniqueId then _ else _ : Option EntityRow).map _
      split <;> rfl

/-- Entities are kept as a table keeps its rows. -/
theorem values_entities_ofSteps (steps : List Step) :
    (ofSteps steps).entities.values =
      (Row.standing (steps.filterMap Step.entity?)).map EntityRow.decl := by
  rw [OrderedMap.values_eq_filterMap, keys_entities_ofSteps, Row.standing, List.map_filterMap]
  exact congrArg (List.filterMap · _) (funext (get?_entities_ofSteps steps))

/-! ## Findings -/

/-- What a step finds in the schema that it is applied to. -/
def findingsOf (s : Schema) : Step → List Finding
  | .entry row => if s.enums.contains row.id then [] else [.missingOwner row.id row.value row.name]
  | .field row => if isStrange row then [.strangeField row.id row.name row.baseType] else []
  | .enum _ | .strictEntry _ | .fragment _ | .entity _ => []

/-- Findings are only ever added, behind those that are there. -/
theorem findings_apply (s : Schema) (step : Step) :
    (s.apply step).findings = s.findings ++ s.findingsOf step := by
  cases step with
  | entry row => rw [apply_entry, findingsOf]
  | field row => rw [apply_field, findingsOf]
  | enum row | strictEntry row | fragment row | entity row =>
    simp only [apply_enum, apply_strictEntry, apply_fragment, apply_entity, findingsOf,
      List.append_nil]

/-! ## Whole runs -/

/-- **Values and members are stably sorted.** An enum exists once it is declared; it has the name
of its last declaration and the values brought to it since, in stable order. A struct exists once
it has a fragment; it has the members of all its fragments, in stable order. -/
theorem ofSteps_stably_sorted (steps : List Step) (id : Int64) :
    ((ofSteps steps).enums.contains id = true ↔ ∃ row, .enum row ∈ steps ∧ row.id = id) ∧
      ((ofSteps steps).enums.get? id = (Row.last? (steps.filterMap Step.enum?) id).map fun row =>
        ⟨id, row.name, sortedBy EnumValue.value (valuesOf id (sinceDeclared id steps))⟩) ∧
      ((ofSteps steps).structs.contains id = true ↔ ∃ row, .fragment row ∈ steps ∧ row.id = id) ∧
      ∀ d, (ofSteps steps).structs.get? id = some d →
        d.members = sortedBy Member.order (membersOf id steps) := by
  refine ⟨?_, get?_enums_ofSteps steps id, ?_, ?_⟩
  · rw [OrderedMap.contains_iff_mem_keys, keys_enums_ofSteps, Row.mem_keys]
    simp only [List.mem_filterMap, Step.enum?_eq_some_iff, exists_eq_right]
    rfl
  · rw [OrderedMap.contains_iff_mem_keys, keys_structs_ofSteps, List.mem_eraseDups, List.mem_map]
    simp only [List.mem_filterMap, Step.fragment?_eq_some_iff, exists_eq_right]
  · intro d hd
    rw [get?_structs_ofSteps] at hd
    split at hd
    · cases hd
    · rw [← Option.some.inj hd]

end Schema

end WireDictionary
