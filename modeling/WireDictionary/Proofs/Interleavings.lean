import WireDictionary.Proofs.AssemblyRuns

/-! # Which order of steps matters

Steps of different kinds may be interleaved as one likes, within two constraints:
an enum is declared before its values come, and a struct that has fragments gets
the first of them before an entity refers to it. A run that keeps to both makes of
each id what the steps of one kind make of it, and every step finds what it would
find at the end. So two runs with the same steps of each kind, in the same order,
give the same schema (`interleaving_hidden`).
-/
namespace WireDictionary.Schema

/-! ## Steps of one kind -/

namespace Step

/-- The table that the row of a step belongs to. -/
inductive Kind where
  | enum
  | entry
  | field
  | fragment
  | entity
  deriving DecidableEq, Repr

def kind : Step → Kind
  | .enum _ => .enum
  | .strictEntry _ | .entry _ => .entry
  | .field _ => .field
  | .fragment _ => .fragment
  | .entity _ => .entity

end Step

/-- The same steps of each kind in the same order, however the kinds are interleaved. -/
def SameByKind (xs ys : List Step) : Prop :=
  ∀ k, xs.filter (·.kind = k) = ys.filter (·.kind = k)

theorem filterMap_filter_kind {α : Type} {f : Step → Option α} {k : Step.Kind}
    (h : ∀ step, step.kind ≠ k → f step = none) (steps : List Step) :
    (steps.filter (·.kind = k)).filterMap f = steps.filterMap f := by
  rw [List.filterMap_filter]
  refine List.filterMap_congr fun step _ => ?_
  by_cases hk : step.kind = k
  · simp [hk]
  · simp [hk, h step hk]

theorem SameByKind.filterMap_eq {α : Type} {xs ys : List Step} (h : SameByKind xs ys)
    {f : Step → Option α} {k : Step.Kind} (hf : ∀ step, step.kind ≠ k → f step = none) :
    xs.filterMap f = ys.filterMap f := by
  rw [← filterMap_filter_kind hf xs, h k, filterMap_filter_kind hf ys]

section

variable {xs ys : List Step} (h : SameByKind xs ys)

include h

theorem SameByKind.enums : xs.filterMap Step.enum? = ys.filterMap Step.enum? :=
  h.filterMap_eq (k := .enum) fun step hk => by cases step <;> simp_all [Step.kind, Step.enum?]

theorem SameByKind.entries : xs.filterMap Step.entry? = ys.filterMap Step.entry? :=
  h.filterMap_eq (k := .entry) fun step hk => by cases step <;> simp_all [Step.kind, Step.entry?]

theorem SameByKind.fields : xs.filterMap Step.field? = ys.filterMap Step.field? :=
  h.filterMap_eq (k := .field) fun step hk => by cases step <;> simp_all [Step.kind, Step.field?]

theorem SameByKind.fragments : xs.filterMap Step.fragment? = ys.filterMap Step.fragment? :=
  h.filterMap_eq (k := .fragment) fun step hk => by
    cases step <;> simp_all [Step.kind, Step.fragment?]

theorem SameByKind.entities : xs.filterMap Step.entity? = ys.filterMap Step.entity? :=
  h.filterMap_eq (k := .entity) fun step hk => by cases step <;> simp_all [Step.kind, Step.entity?]

end

/-! ## Runs in order -/

/-- The steps before the first fragment of a struct. -/
def beforeStruct (id : Int64) (steps : List Step) : List Step :=
  steps.takeWhile fun step => step.fragment?.all (·.id ≠ id)

/-- No value comes before a declaration of its enum, and no entity before the first fragment of the
struct that it refers to, if there is such a fragment. -/
structure InOrder (steps : List Step) : Prop where
  enumsFirst : steps.Pairwise fun step later =>
    ∀ entry ∈ step.entry?, ∀ declared ∈ later.enum?, entry.id ≠ declared.id
  structsFirst : ∀ row ∈ steps.filterMap Step.entity?, membersOf row.structId steps ≠ [] →
    .entity row ∉ beforeStruct row.structId steps

instance (steps : List Step) : Decidable (InOrder steps) :=
  decidable_of_iff (_ ∧ _) ⟨fun h => ⟨h.1, h.2⟩, fun h => ⟨h.enumsFirst, h.structsFirst⟩⟩

theorem InOrder.of_concat {steps : List Step} {step : Step} (h : InOrder (steps ++ [step])) :
    InOrder steps := by
  refine ⟨(List.pairwise_append.mp h.enumsFirst).1, ?_⟩
  intro row hrow hm hbefore
  have hrow' : row ∈ (steps ++ [step]).filterMap Step.entity? := by
    rw [List.filterMap_append]
    exact List.mem_append_left _ hrow
  refine h.structsFirst row hrow' ?_ ?_
  · rw [membersOf_concat]
    exact List.append_ne_nil_of_left_ne_nil hm _
  · unfold beforeStruct
    rw [List.takeWhile_append]
    split
    · exact List.mem_append_left _ ((List.takeWhile_sublist _).subset hbefore)
    · exact hbefore

/-! ## What a run in order makes of an id -/

theorem valuesOf_append (id : Int64) (xs ys : List Step) :
    valuesOf id (xs ++ ys) = valuesOf id xs ++ valuesOf id ys := by
  simp only [valuesOf, List.filterMap_append, List.filter_append, List.map_append]

theorem valuesOf_eq_nil_iff {id : Int64} {steps : List Step} :
    valuesOf id steps = [] ↔ ∀ step ∈ steps, ∀ entry ∈ step.entry?, entry.id ≠ id := by
  simp only [valuesOf, List.map_eq_nil_iff, List.filter_eq_nil_iff, List.mem_filterMap,
    decide_eq_true_eq]
  constructor
  · intro h step hs entry he
    exact h entry ⟨step, hs, he⟩
  · rintro h entry ⟨step, hs, he⟩
    exact h step hs entry he

/-- All values of an enum come behind its last declaration. -/
theorem InOrder.valuesOf_sinceDeclared {steps : List Step} (h : InOrder steps) (id : Int64) :
    valuesOf id (sinceDeclared id steps) = valuesOf id steps := by
  let other : Step → Bool := fun step => step.enum?.all (·.id ≠ id)
  have hsplit : steps.rdropWhile other ++ sinceDeclared id steps = steps :=
    List.rdropWhile_append_rtakeWhile
  have hnone : valuesOf id (steps.rdropWhile other) = [] := by
    rcases List.eq_nil_or_concat (steps.rdropWhile other) with hnil | ⟨front, last, hlast⟩
    · rw [hnil]
      rfl
    · rw [List.concat_eq_append] at hlast
      -- the last step that is left is a declaration of the enum
      have hdeclared : other last ≠ true := by
        have hne : steps.rdropWhile other ≠ [] := by simp [hlast]
        have hnot := List.rdropWhile_last_not other steps hne
        simpa only [hlast, List.getLast_append_singleton] using hnot
      obtain ⟨row, hrow, hid⟩ : ∃ row, last.enum? = some row ∧ row.id = id := by
        cases hl : last.enum? with
        | none => simp [other, hl] at hdeclared
        | some row => exact ⟨row, rfl, by simpa [other, hl] using hdeclared⟩
      have hpairs : (front ++ [last]).Pairwise fun step later =>
          ∀ entry ∈ step.entry?, ∀ declared ∈ later.enum?, entry.id ≠ declared.id := by
        rw [← hlast]
        exact h.enumsFirst.sublist (List.rdropWhile_prefix other steps).sublist
      rw [hlast, valuesOf_eq_nil_iff]
      intro step hs entry he
      rcases List.mem_append.mp hs with hs | hs
      · rw [← hid]
        exact (List.pairwise_append.mp hpairs).2.2 step hs last List.mem_cons_self entry he row hrow
      · rw [List.mem_singleton.mp hs] at he
        cases last <;> simp_all [Step.enum?, Step.entry?]
  calc valuesOf id (sinceDeclared id steps)
      = valuesOf id (steps.rdropWhile other) ++ valuesOf id (sinceDeclared id steps) := by
        rw [hnone, List.nil_append]
    _ = valuesOf id steps := by rw [← valuesOf_append, hsplit]

/-- The first of the entities that has a name for a struct. -/
theorem findSome?_nameFor? (id : Int64) (steps : List Step) :
    steps.findSome? (Step.nameFor? id) = ((steps.filterMap Step.entity?).find? fun row =>
      row.structId = id ∧ row.name ≠ unnamed).map EntityRow.name := by
  induction steps with
  | nil => rfl
  | cons step steps ih =>
    rw [List.findSome?_cons, List.filterMap_cons, ih]
    cases step with
    | entity row =>
      rw [nameFor?_entity]
      by_cases h : row.structId = id <;> by_cases hn : row.name = unnamed <;>
        simp [Step.entity?, h, hn]
    | enum _ | strictEntry _ | entry _ | field _ | fragment _ => rfl

/-- A struct with members may take its name from any entity. -/
theorem InOrder.nameOf?_eq {steps : List Step} (h : InOrder steps) {id : Int64}
    (hm : membersOf id steps ≠ []) :
    nameOf? id steps = ((steps.filterMap Step.entity?).find? fun row =>
      row.structId = id ∧ row.name ≠ unnamed).map EntityRow.name := by
  have hnone : (beforeStruct id steps).findSome? (Step.nameFor? id) = none := by
    rw [List.findSome?_eq_none_iff]
    intro step hs
    cases step with
    | entity row =>
      rw [nameFor?_entity]
      split
      · rename_i hid
        subst hid
        have hrow : row ∈ steps.filterMap Step.entity? :=
          List.mem_filterMap.mpr ⟨.entity row, (List.takeWhile_sublist _).subset hs, rfl⟩
        exact absurd hs (h.structsFirst row hrow hm)
      · rfl
    | enum _ | strictEntry _ | entry _ | field _ | fragment _ => rfl
  have hsplit : beforeStruct id steps ++
      steps.dropWhile (fun step => step.fragment?.all (·.id ≠ id)) = steps :=
    List.takeWhile_append_dropWhile
  calc nameOf? id steps
      = (beforeStruct id steps ++ steps.dropWhile fun step =>
          step.fragment?.all (·.id ≠ id)).findSome? (Step.nameFor? id) := by
        rw [List.findSome?_append, hnone, Option.none_or]
        rfl
    _ = steps.findSome? (Step.nameFor? id) := by rw [hsplit]
    _ = _ := findSome?_nameFor? id steps

/-- What a step finds changes only with the declaration of its enum. -/
theorem findingsOf_apply {s : Schema} {step other : Step}
    (h : ∀ entry ∈ other.entry?, ∀ declared ∈ step.enum?, entry.id ≠ declared.id) :
    (s.apply step).findingsOf other = s.findingsOf other := by
  cases other with
  | entry row =>
    have hc : (s.apply step).enums.contains row.id = s.enums.contains row.id := by
      rw [Bool.eq_iff_iff, OrderedMap.contains_iff_mem_keys, OrderedMap.contains_iff_mem_keys,
        keys_enums_apply]
      cases hd : step.enum? with
      | none => rfl
      | some declared =>
        have hne : row.id ≠ declared.id := h row rfl declared hd
        show row.id ∈ (if _ then _ else _) ↔ _
        split
        · rfl
        · rw [List.mem_append, List.mem_singleton, or_iff_left hne]
    simp only [findingsOf, hc]
  | enum _ | strictEntry _ | field _ | fragment _ | entity _ => rfl

/-- In a run in order, every step finds what it would find at the end. -/
theorem InOrder.findings_ofSteps {steps : List Step} (h : InOrder steps) :
    (ofSteps steps).findings = steps.flatMap (ofSteps steps).findingsOf := by
  induction steps using List.reverseRecOn with
  | nil => rfl
  | append_singleton steps step ih =>
    have hearlier : ∀ other ∈ steps,
        (ofSteps steps).findingsOf other = ((ofSteps steps).apply step).findingsOf other := by
      intro other ho
      refine (findingsOf_apply ?_).symm
      exact (List.pairwise_append.mp h.enumsFirst).2.2 other ho step List.mem_cons_self
    have hlast :
        (ofSteps steps).findingsOf step = ((ofSteps steps).apply step).findingsOf step := by
      refine (findingsOf_apply ?_).symm
      intro entry he declared hd
      cases step <;> simp_all [Step.enum?, Step.entry?]
    rw [ofSteps_concat, findings_apply, ih h.of_concat, List.flatMap_append, List.flatMap_singleton,
      hlast, List.flatMap_congr hearlier]

/-! ## Findings of one kind -/

theorem kind_of_mem_findingsOf {s : Schema} {step : Step} {f : Finding}
    (h : f ∈ s.findingsOf step) :
    step.kind = .entry ∧ f.kind = .missingOwner ∨ step.kind = .field ∧ f.kind = .strangeField := by
  cases step with
  | entry row =>
    simp only [findingsOf] at h
    split at h
    · cases h
    · rw [List.mem_singleton.mp h]
      exact .inl ⟨rfl, rfl⟩
  | field row =>
    simp only [findingsOf] at h
    split at h
    · rw [List.mem_singleton.mp h]
      exact .inr ⟨rfl, rfl⟩
    · cases h
  | enum _ | strictEntry _ | fragment _ | entity _ => cases h

/-- All findings of one kind come from steps of one kind. -/
theorem exists_source_of_kind (k : Finding.Kind) : ∃ source : Step.Kind,
    ∀ (s : Schema) (step : Step), ∀ f ∈ s.findingsOf step, f.kind = k → step.kind = source := by
  refine ⟨if k = .strangeField then .field else .entry, ?_⟩
  intro s step f hf hk
  subst hk
  rcases kind_of_mem_findingsOf hf with ⟨hstep, hkind⟩ | ⟨hstep, hkind⟩ <;> simp [hstep, hkind]

theorem filter_flatMap_findingsOf {s : Schema} {k : Finding.Kind} {source : Step.Kind}
    (h : ∀ step, ∀ f ∈ s.findingsOf step, f.kind = k → step.kind = source) (steps : List Step) :
    (steps.flatMap s.findingsOf).filter (·.kind = k) =
      ((steps.filter (·.kind = source)).flatMap s.findingsOf).filter (·.kind = k) := by
  induction steps with
  | nil => rfl
  | cons step steps ih =>
    rw [List.flatMap_cons, List.filter_append, ih]
    by_cases hstep : step.kind = source
    · rw [List.filter_cons_of_pos (by simpa using hstep), List.flatMap_cons, List.filter_append]
    · have hnone : (s.findingsOf step).filter (·.kind = k) = [] := by
        rw [List.filter_eq_nil_iff]
        intro f hf hk
        exact hstep (h step f hf (of_decide_eq_true hk))
      rw [List.filter_cons_of_neg (by simpa using hstep), hnone, List.nil_append]

/-- Findings that agree kind by kind differ in their order at most. -/
theorem perm_of_filter_kind {fs gs : List Finding}
    (h : ∀ k : Finding.Kind, fs.filter (·.kind = k) = gs.filter (·.kind = k)) : fs.Perm gs := by
  rw [List.perm_iff_count]
  intro f
  have hcount := congrArg (List.count f) (h f.kind)
  rwa [List.count_filter (by simp), List.count_filter (by simp)] at hcount

/-! ## Two runs -/

/-- Schemas with the same enums, fields, structs and entities in the same order. What was found on
the way may come in another order, but not what is of one kind. -/
structure Matches (s s' : Schema) : Prop where
  enums : s.enums.entries = s'.enums.entries
  fields : s.fields.entries = s'.fields.entries
  structs : s.structs.entries = s'.structs.entries
  entities : s.entities.entries = s'.entities.entries
  findings_perm : s.findings.Perm s'.findings
  findings_of_kind : ∀ k : Finding.Kind,
    s.findings.filter (·.kind = k) = s'.findings.filter (·.kind = k)

section

variable {xs ys : List Step} (h : SameByKind xs ys) (hx : InOrder xs) (hy : InOrder ys)

include h

theorem keys_enums_eq : (ofSteps xs).enums.keys = (ofSteps ys).enums.keys := by
  rw [keys_enums_ofSteps, keys_enums_ofSteps, h.enums]

theorem fields_eq : (ofSteps xs).fields = (ofSteps ys).fields := by
  rw [fields_ofSteps, fields_ofSteps, h.fields]

theorem keys_structs_eq : (ofSteps xs).structs.keys = (ofSteps ys).structs.keys := by
  rw [keys_structs_ofSteps, keys_structs_ofSteps, h.fragments]

theorem keys_entities_eq : (ofSteps xs).entities.keys = (ofSteps ys).entities.keys := by
  rw [keys_entities_ofSteps, keys_entities_ofSteps, h.entities]

theorem get?_entities_eq (id : String) :
    (ofSteps xs).entities.get? id = (ofSteps ys).entities.get? id := by
  rw [get?_entities_ofSteps, get?_entities_ofSteps, h.entities]

theorem findingsOf_eq : (ofSteps xs).findingsOf = (ofSteps ys).findingsOf := by
  have hc : ∀ id, (ofSteps xs).enums.contains id = (ofSteps ys).enums.contains id := by
    intro id
    rw [Bool.eq_iff_iff, OrderedMap.contains_iff_mem_keys, OrderedMap.contains_iff_mem_keys,
      keys_enums_eq h]
  funext step
  cases step with
  | entry row => simp only [findingsOf, hc]
  | enum _ | strictEntry _ | field _ | fragment _ | entity _ => rfl

include hx hy

theorem get?_enums_eq (id : Int64) :
    (ofSteps xs).enums.get? id = (ofSteps ys).enums.get? id := by
  have hvalues : valuesOf id xs = valuesOf id ys := by
    unfold valuesOf
    rw [h.entries]
  rw [get?_enums_ofSteps, get?_enums_ofSteps, hx.valuesOf_sinceDeclared,
    hy.valuesOf_sinceDeclared, h.enums, hvalues]

theorem get?_structs_eq (id : Int64) :
    (ofSteps xs).structs.get? id = (ofSteps ys).structs.get? id := by
  have hmembers : membersOf id xs = membersOf id ys := by
    unfold membersOf
    rw [h.fragments]
  rw [get?_structs_ofSteps, get?_structs_ofSteps, ← hmembers]
  split
  · rfl
  · rename_i hm
    rw [hx.nameOf?_eq hm, hy.nameOf?_eq (hmembers ▸ hm), h.entities]

theorem filter_findings_eq (k : Finding.Kind) :
    (ofSteps xs).findings.filter (·.kind = k) = (ofSteps ys).findings.filter (·.kind = k) := by
  obtain ⟨source, hsource⟩ := exists_source_of_kind k
  rw [hx.findings_ofSteps, hy.findings_ofSteps, findingsOf_eq h,
    filter_flatMap_findingsOf (hsource _) xs, filter_flatMap_findingsOf (hsource _) ys, h source]

end

/-- **Only two constraints on the order of steps matter.** Take two runs with the same steps of each
kind, in the same order, that both declare enums before their values come and bring the first
fragment of a struct before entities refer to it. They give the same enums, fields, structs and
entities in the same order, and of each kind the same findings. -/
theorem interleaving_hidden {xs ys : List Step} (h : SameByKind xs ys) (hx : InOrder xs)
    (hy : InOrder ys) : (ofSteps xs).Matches (ofSteps ys) where
  enums := OrderedMap.entries_ext (keys_enums_eq h) (get?_enums_eq h hx hy)
  fields := by rw [fields_eq h]
  structs := OrderedMap.entries_ext (keys_structs_eq h) (get?_structs_eq h hx hy)
  entities := OrderedMap.entries_ext (keys_entities_eq h) (get?_entities_eq h)
  findings_perm := perm_of_filter_kind (filter_findings_eq h hx hy)
  findings_of_kind := filter_findings_eq h hx hy

/-- The kinds one after the other, and an entity, a field and a value each as early as they may
come. -/
theorem early_steps_hidden :
    let declared : Step := .enum ⟨1, "color", 0, false⟩
    let again : Step := .enum ⟨1, "hue", 0, false⟩
    let red : Step := .entry ⟨1, 2, "red", none⟩
    let lost : Step := .entry ⟨9, 1, "lost", none⟩
    let odd : Step := .field ⟨1, "odd", 8, 17, 0, false, none, false⟩
    let member (order : Int64) : Step := .fragment ⟨5, order, 0, 1, "a", 0, 0, "none"⟩
    let status : Step := .entity ⟨"1.1", 1, "1", "status", 5, none, true, none⟩
    let stray : Step := .entity ⟨"1.2", 1, "2", "stray", 7, none, true, none⟩
    let xs := [declared, again, lost, red, odd, member 1, member 0, stray, status]
    let ys := [stray, odd, member 1, status, lost, declared, member 0, again, red]
    SameByKind xs ys ∧ InOrder xs ∧ InOrder ys ∧
      (ofSteps xs).findings ≠ (ofSteps ys).findings ∧ (ofSteps xs).Matches (ofSteps ys) := by
  intro declared again red lost odd member status stray xs ys
  have hkinds : SameByKind xs ys := by
    intro k
    cases k <;> rfl
  have hx : InOrder xs := by decide +kernel
  have hy : InOrder ys := by decide +kernel
  exact ⟨hkinds, hx, hy, by decide +kernel, interleaving_hidden hkinds hx hy⟩

-- a value that comes before its enum is lost
example : (ofSteps [.entry ⟨1, 2, "red", none⟩, .enum ⟨1, "color", 0, false⟩]).enums.get? 1 =
    some ⟨1, "color", []⟩ := by decide +kernel

-- an entity that comes before its struct does not name it
example : ((ofSteps [.entity ⟨"1.1", 1, "1", "status", 5, none, true, none⟩,
    .fragment ⟨5, 0, 2, 1, "a", 0, 0, "none"⟩]).structs.get? 5).map StructDecl.name? =
      some none := by decide +kernel

end WireDictionary.Schema
