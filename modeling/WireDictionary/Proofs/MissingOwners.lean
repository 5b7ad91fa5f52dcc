import WireDictionary.Proofs.AssemblyRuns

/-! # Values whose enum is not declared

A value can be brought to its enum in two ways, which differ only where the enum
is not declared: one fails, the other reports the value. Neither changes anything
else (`addEntry_of_not_contains`), and otherwise both do the same to that enum
alone (`attaches_addEntry`). So a run that reports and a run that fails in its
place have the same schema but for the findings (`withoutFindings_ofSteps`). What
a run reports is told from its steps alone, each in the light of those before it
(`findings_ofSteps_eq_reports`).
-/
namespace WireDictionary.Schema

/-- The step that fails where the given one would report a value without an enum. -/
def Step.strict : Step → Step
  | .entry row => .strictEntry row
  | step => step

theorem Step.strict_strict (step : Step) : step.strict.strict = step.strict := by
  cases step <;> rfl

/-! ## One value -/

/-- Between two schemas a value was put into its enum, behind the values that are not greater, and
nothing else happened. -/
structure Attaches (s : Schema) (row : EntryRow) (s' : Schema) : Prop where
  others : s' = { s with enums := s'.enums }
  ids : s'.enums.keys = s.enums.keys
  enums : ∀ id, s'.enums.get? id =
    if id = row.id then
      (s.enums.get? id).map fun e =>
        { e with values := insertAscending EnumValue.value row.enumValue e.values }
    else s.enums.get? id

/-- Brought in the one way, the value is refused, and there is nothing but the error to tell it from
not having been brought at all. Brought in the other way, it is reported. -/
structure Refuses (s : Schema) (row : EntryRow) : Prop where
  strictly : ∀ log, (addEntry row).run ⟨s, log⟩ = .error ⟨row.id, row.value⟩ ⟨s, log⟩
  leniently : ∀ log, (addEntryLeniently row).run ⟨s, log⟩ =
    .ok ()
      ⟨{ s with findings := s.findings ++ [.missingOwner row.id row.value row.name] },
        log ++ [.entryDropped row.id row.value row.name]⟩
  ignored : s.apply (.strictEntry row) = s
  reported : s.apply (.entry row) =
    { s with findings := s.findings ++ [.missingOwner row.id row.value row.name] }

/-- Both ways end in the same schema, without an error and without a word to the log. -/
structure Takes (s : Schema) (row : EntryRow) (s' : Schema) : Prop where
  strictly : ∀ log, (addEntry row).run ⟨s, log⟩ = .ok () ⟨s', log⟩
  leniently : ∀ log, (addEntryLeniently row).run ⟨s, log⟩ = .ok () ⟨s', log⟩
  ignored : s.apply (.strictEntry row) = s'
  reported : s.apply (.entry row) = s'

theorem refuses_of_not_contains {s : Schema} {row : EntryRow}
    (h : s.enums.contains row.id = false) : s.Refuses row where
  strictly := addEntry_run_of_not_contains h
  leniently := addEntryLeniently_run_of_not_contains h
  ignored := by
    rw [apply, Step.build, addEntry_run_of_not_contains h]
    rfl
  reported := by
    rw [apply, Step.build, addEntryLeniently_run_of_not_contains h]
    rfl

theorem attaches_apply_strictEntry (s : Schema) (row : EntryRow) :
    s.Attaches row (s.apply (.strictEntry row)) where
  others := by rw [apply_strictEntry]
  ids := by
    rw [keys_enums_apply]
    rfl
  enums := fun id => by
    rw [get?_enums_apply, enumAfter]
    simp only [eq_comm (a := id)]

theorem takes_of_contains {s : Schema} {row : EntryRow} (h : s.enums.contains row.id = true) :
    s.Takes row (s.apply (.strictEntry row)) := by
  have hstrict : ∀ log, (addEntry row).run ⟨s, log⟩ = .ok () ⟨s.apply (.strictEntry row), log⟩ :=
    fun log => by rw [apply_strictEntry, addEntry_run_of_contains h]
  refine ⟨hstrict, fun log => ?_, rfl, ?_⟩
  · rw [addEntryLeniently_run_of_contains h, hstrict]
  · rw [apply_entry, apply_strictEntry, if_pos h, List.append_nil]

/-! ## Runs that report and runs that fail -/

def withoutFindings (s : Schema) : Schema := { s with findings := [] }

theorem withoutFindings_apply (s : Schema) (step : Step) :
    (s.apply step).withoutFindings = (s.withoutFindings.apply step.strict).withoutFindings := by
  cases step with
  | entry row =>
    -- all that this step does beyond its strict form is to record a finding
    simp only [Step.strict, apply_entry, apply_strictEntry, withoutFindings]
  | strictEntry row => simp only [Step.strict, apply_strictEntry, withoutFindings]
  | enum row => simp only [Step.strict, apply_enum, withoutFindings]
  | field row => simp only [Step.strict, apply_field, withoutFindings]
  | fragment row | entity row => rfl

/-- Failing in place of reporting changes what is found and nothing else. -/
theorem withoutFindings_ofSteps (steps : List Step) :
    (ofSteps steps).withoutFindings = (ofSteps (steps.map Step.strict)).withoutFindings := by
  induction steps using List.reverseRecOn with
  | nil => rfl
  | append_singleton steps step ih =>
    rw [List.map_append, List.map_singleton, ofSteps_concat, ofSteps_concat, withoutFindings_apply,
      withoutFindings_apply (ofSteps (steps.map Step.strict)), ih, Step.strict_strict]

/-! ## Reports -/

def declaredIds (steps : List Step) : List Int64 := (steps.filterMap Step.enum?).map EnumRow.id

theorem contains_enums_ofSteps {steps : List Step} {id : Int64} :
    (ofSteps steps).enums.contains id = true ↔ id ∈ declaredIds steps := by
  rw [OrderedMap.contains_iff_mem_keys, keys_enums_ofSteps, Row.keys, List.mem_eraseDups]
  rfl

/-- What a step reports after the given ones: a value whose enum is not declared by then, or a field
whose base type is beyond the greatest code. -/
def reported (earlier : List Step) : Step → List Finding
  | .entry row =>
    if row.id ∈ declaredIds earlier then [] else [.missingOwner row.id row.value row.name]
  | .field row => if 16 < row.baseType then [.strangeField row.id row.name row.baseType] else []
  | .enum _ | .strictEntry _ | .fragment _ | .entity _ => []

/-- What steps report one after the other, if the given ones came before them. -/
def reports (earlier : List Step) : List Step → List Finding
  | [] => []
  | step :: later => reported earlier step ++ reports (earlier ++ [step]) later

theorem reports_append (earlier xs ys : List Step) :
    reports earlier (xs ++ ys) = reports earlier xs ++ reports (earlier ++ xs) ys := by
  induction xs generalizing earlier with
  | nil => rw [List.append_nil]; rfl
  | cons step xs ih =>
    rw [List.cons_append, reports, reports, ih, List.append_assoc, List.append_assoc]
    rfl

theorem findingsOf_ofSteps (steps : List Step) (step : Step) :
    (ofSteps steps).findingsOf step = reported steps step := by
  cases step with
  | entry row => simp only [findingsOf, reported, contains_enums_ofSteps]
  | field row =>
    have hstrange : isStrange row = true ↔ 16 < row.baseType := decide_eq_true_iff
    simp only [findingsOf, reported, hstrange]
  | enum _ | strictEntry _ | fragment _ | entity _ => rfl

theorem findings_ofSteps_eq_reports (steps : List Step) :
    (ofSteps steps).findings = reports [] steps := by
  -- whether a step reports depends on all steps before it, so the induction is at the end
  induction steps using List.reverseRecOn with
  | nil => rfl
  | append_singleton steps step ih =>
    rw [ofSteps_concat, findings_apply, ih, findingsOf_ofSteps, reports_append, List.nil_append,
      reports, reports, List.append_nil]

/-- **Failing and reporting do the same.** Take any schema that steps lead to, and whatever the log
holds by then. A value whose enum is not declared is refused, and the run that fails ends in the same
schema, with the same log; brought in the other way, the value is reported and nothing else changes.
Any other value is taken both ways, to the same effect: it is put into its enum, and all else is as
it was. So a run in which every report is replaced by a failure gives the same schema but for the
findings. The findings of a run are, in the order of its steps, the values brought without an enum
and the fields beyond the greatest code, and whatever follows keeps them. -/
theorem failing_like_reporting (steps : List Step) :
    let s := ofSteps steps
    (∀ row : EntryRow,
      (s.enums.contains row.id = true ↔ row.id ∈ declaredIds steps) ∧
      (row.id ∉ declaredIds steps → s.Refuses row) ∧
      (row.id ∈ declaredIds steps → ∃ s', s.Takes row s' ∧ s.Attaches row s')) ∧
    s.withoutFindings = (ofSteps (steps.map Step.strict)).withoutFindings ∧
    s.findings = reports [] steps ∧
    ∀ later, s.findings <+: (ofSteps (steps ++ later)).findings := by
  intro s
  refine ⟨fun row => ⟨contains_enums_ofSteps, fun hid => ?_, fun hid => ?_⟩,
    withoutFindings_ofSteps steps, findings_ofSteps_eq_reports steps, fun later => ?_⟩
  · have hc : s.enums.contains row.id = false :=
      Bool.eq_false_iff.mpr fun hc => hid (contains_enums_ofSteps.mp hc)
    exact refuses_of_not_contains hc
  · exact ⟨_, takes_of_contains (contains_enums_ofSteps.mpr hid),
      attaches_apply_strictEntry s row⟩
  · rw [findings_ofSteps_eq_reports, findings_ofSteps_eq_reports, reports_append]
    exact List.prefix_append _ _

/-- A value comes both ways before its enum, then a strange field, the enum, the field again and
the value again. -/
theorem early_value_reported :
    let red : EntryRow := ⟨7, -1, "red", none⟩
    let lost : EntryRow := ⟨9, 2, "lost", none⟩
    let field (baseType : Int64) : Step := .field ⟨1, "odd", 8, baseType, 0, false, none, false⟩
    let steps := [.entry red, .strictEntry red, field 17, .enum ⟨7, "color", 0, false⟩, field 16]
    let s := ofSteps steps
    s.Refuses lost ∧ (∃ s', s.Takes red s' ∧ s.Attaches red s') ∧
      (s.apply (.entry red)).enums.get? 7 = some ⟨7, "color", [⟨-1, "red"⟩]⟩ ∧
      s.findings = [.missingOwner 7 (-1) "red", .strangeField 1 "odd" 17] := by
  intro red lost field steps s
  obtain ⟨hrow, -, hfindings, -⟩ := failing_like_reporting steps
  exact ⟨(hrow lost).2.1 (by decide), (hrow red).2.2 (by decide), by decide +kernel, hfindings⟩

end WireDictionary.Schema
