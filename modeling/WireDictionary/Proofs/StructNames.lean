import WireDictionary.Proofs.Interleavings

/-! # How a struct gets its name

A struct is named once. Whatever step comes next, a struct with a name keeps it
(`exists_structAfter_of_name?`), and nothing that is said of a struct before its
first fragment reaches it (`structAfter_none_entity`). So the name is that of the
first entity behind the first fragment that has one to give. The text that stands
for no name is never given as one, so it tells named structs from the others, and
titles could be kept without names (`title_eq_foldl`).
-/
namespace WireDictionary.Schema

/-! ## Steps on one struct -/

/-- What steps make of the struct of an id depends only on what was there before them. -/
theorem get?_structs_applyAll (s : Schema) (steps : List Step) (id : Int64) :
    (s.applyAll steps).structs.get? id = steps.foldl (structAfter id) (s.structs.get? id) := by
  induction steps generalizing s with
  | nil => rfl
  | cons step steps ih =>
    rw [applyAll_cons, ih, get?_structs_apply, List.foldl_cons]

theorem get?_structs_ofSteps_append (steps later : List Step) (id : Int64) :
    (ofSteps (steps ++ later)).structs.get? id =
      later.foldl (structAfter id) ((ofSteps steps).structs.get? id) := by
  unfold ofSteps
  rw [applyAll_append, get?_structs_applyAll]

theorem exists_structAfter_of_name? {id : Int64} {d : StructDecl} {name : String}
    (h : d.name? = some name) (step : Step) :
    ∃ d', structAfter id (some d) step = some d' ∧ d'.name? = some name := by
  cases step with
  | fragment row =>
    simp only [structAfter]
    split
    · exact ⟨_, rfl, h⟩
    · exact ⟨d, rfl, h⟩
  | entity row =>
    simp only [structAfter]
    split
    · refine ⟨_, rfl, ?_⟩
      show claim d.name? row.name = some name
      rw [h, claim_some]
    · exact ⟨d, rfl, h⟩
  | enum row | strictEntry row | entry row | field row => exact ⟨d, rfl, h⟩

/-- A struct with a name keeps it through all steps. -/
theorem exists_foldl_structAfter_of_name? {id : Int64} {d : StructDecl} {name : String}
    (h : d.name? = some name) (steps : List Step) :
    ∃ d', steps.foldl (structAfter id) (some d) = some d' ∧ d'.name? = some name := by
  induction steps generalizing d with
  | nil => exact ⟨d, rfl, h⟩
  | cons step steps ih =>
    obtain ⟨d', hd', hname⟩ := exists_structAfter_of_name? h step
    rw [List.foldl_cons, hd']
    exact ih hname

/-- An entity does nothing to a struct that does not exist. -/
theorem structAfter_none_entity (id : Int64) (row : EntityRow) :
    structAfter id none (.entity row) = none := by
  simp only [structAfter, Option.map_none, ite_self]

/-! ## The entity that names a struct -/

/-- The ids of the fragments among steps. -/
def fragmentIds (steps : List Step) : List Int64 :=
  (steps.filterMap Step.fragment?).map FragmentRow.id

/-- The entity that names a struct: the first behind the first fragment of the struct that refers
to it and has a name other than the one that stands for none. -/
def namer? (id : Int64) (steps : List Step) : Option EntityRow :=
  ((steps.dropWhile fun step => step.fragment?.all (·.id ≠ id)).filterMap Step.entity?).find?
    fun row => row.structId = id ∧ row.name ≠ unnamed

theorem membersOf_eq_nil_iff_not_mem {id : Int64} {steps : List Step} :
    membersOf id steps = [] ↔ id ∉ fragmentIds steps := by
  simp [membersOf, fragmentIds]

theorem nameOf?_eq_namer? (id : Int64) (steps : List Step) :
    nameOf? id steps = (namer? id steps).map EntityRow.name :=
  findSome?_nameFor? id _

theorem name_ne_unnamed_of_namer? {id : Int64} {steps : List Step} {row : EntityRow}
    (h : namer? id steps = some row) : row.name ≠ unnamed := by
  have hrow := List.find?_some h
  simp only [decide_eq_true_eq] at hrow
  exact hrow.2

theorem name?_of_get?_structs {steps : List Step} {id : Int64} {d : StructDecl}
    (h : (ofSteps steps).structs.get? id = some d) :
    d.name? = (namer? id steps).map EntityRow.name := by
  rw [get?_structs_ofSteps] at h
  split at h
  · cases h
  · rw [← Option.some.inj h, nameOf?_eq_namer?]

/-- No struct is given the text that stands for no name. -/
theorem isNamed_iff_title_ne {steps : List Step} {id : Int64} {d : StructDecl}
    (h : (ofSteps steps).structs.get? id = some d) :
    d.isNamed = true ↔ d.title ≠ unnamed := by
  have hname := name?_of_get?_structs h
  cases hn : namer? id steps with
  | none =>
    rw [hn, Option.map_none] at hname
    simp [StructDecl.isNamed, StructDecl.title, hname]
  | some row =>
    rw [hn, Option.map_some] at hname
    simpa [StructDecl.isNamed, StructDecl.title, hname] using name_ne_unnamed_of_namer? hn

/-! ## Titles by themselves -/

/-- What a step makes of the title of a struct, told from the titles alone: a struct that is called
as one without a name is called by the next name that comes, whichever that is. -/
def titleAfter (id : Int64) (title? : Option String) : Step → Option String
  | .fragment row => if row.id = id then some (title?.getD unnamed) else title?
  | .entity row =>
    if row.structId = id then
      title?.map fun title => if title = unnamed then row.name else title
    else title?
  | .enum _ | .strictEntry _ | .entry _ | .field _ => title?

/-- A title tells whether there is a name to keep. -/
theorem getD_claim {name? : Option String} (h : name?.isSome = true ↔ name?.getD unnamed ≠ unnamed)
    (entityName : String) : (claim name? entityName).getD unnamed =
      if name?.getD unnamed = unnamed then entityName else name?.getD unnamed := by
  cases name? with
  | none => by_cases hn : entityName = unnamed <;> simp [claim, hn]
  | some name =>
    have hne : name ≠ unnamed := h.mp rfl
    rw [claim_some, Option.getD_some, if_neg hne]

theorem title_structAfter {steps : List Step} {id : Int64} (step : Step) :
    (structAfter id ((ofSteps steps).structs.get? id) step).map StructDecl.title =
      titleAfter id (((ofSteps steps).structs.get? id).map StructDecl.title) step := by
  cases step with
  | fragment row =>
    cases (ofSteps steps).structs.get? id <;> by_cases h : row.id = id <;>
      simp [structAfter, titleAfter, StructDecl.title, h]
  | entity row =>
    cases hd : (ofSteps steps).structs.get? id with
    | none => simp [structAfter, titleAfter]
    | some d =>
      by_cases h : row.structId = id
      · simp only [structAfter, titleAfter, if_pos h, Option.map_some]
        exact congrArg some (getD_claim (isNamed_iff_title_ne hd) row.name)
      · simp [structAfter, titleAfter, h]
  | enum row | strictEntry row | entry row | field row => rfl

/-- The titles of a run are what they would be if nothing but titles told which structs have names. -/
theorem title_eq_foldl (steps : List Step) (id : Int64) :
    ((ofSteps steps).structs.get? id).map StructDecl.title =
      steps.foldl (titleAfter id) none := by
  induction steps using List.reverseRecOn with
  | nil => rfl
  | append_singleton steps step ih =>
    rw [ofSteps_concat, get?_structs_apply, title_structAfter, ih, List.foldl_concat]

/-! ## The title of a struct -/

theorem title_ofSteps (steps : List Step) (id : Int64) :
    ((ofSteps steps).structs.get? id).map StructDecl.title =
      if id ∈ fragmentIds steps then
        some (((namer? id steps).map EntityRow.name).getD unnamed)
      else none := by
  rw [get?_structs_ofSteps, nameOf?_eq_namer?]
  by_cases hid : id ∈ fragmentIds steps
  · have hm : membersOf id steps ≠ [] := fun hm => membersOf_eq_nil_iff_not_mem.mp hm hid
    rw [if_neg hm, if_pos hid, Option.map_some]
    rfl
  · rw [if_pos (membersOf_eq_nil_iff_not_mem.mpr hid), if_neg hid, Option.map_none]

/-- **The first name stays.** A struct that has a fragment is called by the first entity behind its
first fragment that refers to it and has a name; it is unnamed if there is no such entity, and what
it is called tells which. No step that comes after a name changes it. An entity that comes before
the first fragment of a struct makes no difference to the struct. -/
theorem first_name_kept (steps : List Step) (id : Int64) :
    ((ofSteps steps).structs.get? id).map StructDecl.title =
        (if id ∈ fragmentIds steps then
          some (((namer? id steps).map EntityRow.name).getD unnamed)
        else none) ∧
      (∀ d, (ofSteps steps).structs.get? id = some d →
        (d.isNamed = true ↔ d.title ≠ unnamed) ∧
        (d.title ≠ unnamed → ∀ later : List Step,
          ((ofSteps (steps ++ later)).structs.get? id).map StructDecl.title = some d.title)) ∧
      (id ∉ fragmentIds steps → ∀ (row : EntityRow) (later : List Step),
        (ofSteps (steps ++ .entity row :: later)).structs.get? id =
          (ofSteps (steps ++ later)).structs.get? id) := by
  refine ⟨title_ofSteps steps id, fun d hd => ⟨isNamed_iff_title_ne hd, ?_⟩, ?_⟩
  · intro hne later
    have hnamed := (isNamed_iff_title_ne hd).mpr hne
    obtain ⟨name, hname⟩ := Option.isSome_iff_exists.mp hnamed
    obtain ⟨d', hd', hname'⟩ := exists_foldl_structAfter_of_name? hname later
    rw [get?_structs_ofSteps_append, hd, hd', Option.map_some, StructDecl.title, StructDecl.title,
      hname, hname']
  · intro hid row later
    have hnone : (ofSteps steps).structs.get? id = none := by
      rw [get?_structs_ofSteps, if_pos (membersOf_eq_nil_iff_not_mem.mpr hid)]
    rw [get?_structs_ofSteps_append, get?_structs_ofSteps_append, hnone, List.foldl_cons,
      structAfter_none_entity]

/-- An entity too early, one that gives no name and one that names the struct; then the namer is
written again under another name, another entity comes, and the struct gets a second member. -/
theorem name_outlives_namer :
    let entity (key name : String) : Step :=
      .entity ⟨"1." ++ key, 1, key, name, 5, none, true, none⟩
    let member (order : Int64) : Step := .fragment ⟨5, order, 2, 1, "a", 0, 0, "none"⟩
    let steps := [member 1, entity "2" "<none>", entity "3" "status"]
    let later := [entity "3" "renamed", entity "4" "other", member 0]
    ((ofSteps (steps ++ later)).structs.get? 5).map StructDecl.title = some "status" ∧
      ((ofSteps (steps ++ later)).entities.get? "1.3").map EntityDecl.name = some "renamed" ∧
      (ofSteps (entity "1" "early" :: steps)).structs.get? 5 = (ofSteps steps).structs.get? 5 := by
  intro entity member steps later
  have hd : (ofSteps steps).structs.get? 5 = some ⟨5, some "status", [⟨1, .unchecked 2, 1⟩]⟩ := by
    decide +kernel
  have hkept := (first_name_kept steps 5).2.1 _ hd
  have hearly := (first_name_kept [] 5).2.2 (by decide)
    ⟨"1." ++ "1", 1, "1", "early", 5, none, true, none⟩ steps
  exact ⟨hkept.2 (by decide) later, by decide +kernel, hearly⟩

end WireDictionary.Schema
