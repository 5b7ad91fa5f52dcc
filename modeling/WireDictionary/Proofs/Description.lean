import WireDictionary.Dictionary
import WireDictionary.Proofs.Interleavings
import Mathlib.Data.List.Nodup

/-! # The schema that table texts describe

Only the lines that yield a row count, and of those only the first place and the
last content of each key. `TableTexts.Describes` says from these rows alone what
the enums, structs, fields, entities and findings of a schema have to be; neither
tables nor assembly steps occur in it. The schema of the texts fits the
description, and no schema that lists anything else does.
-/
namespace WireDictionary

namespace TableTexts

/-! ## The description -/

def enumRows (t : TableTexts) : List EnumRow := Row.accepted EnumRow (Text.linesOf t.enums)

def entryRows (t : TableTexts) : List EntryRow := Row.accepted EntryRow (Text.linesOf t.entries)

def fieldRows (t : TableTexts) : List FieldRow := Row.accepted FieldRow (Text.linesOf t.fields)

def fragmentRows (t : TableTexts) : List FragmentRow :=
  Row.accepted FragmentRow (Text.linesOf t.fragments)

def entityRows (t : TableTexts) : List EntityRow := Row.accepted EntityRow (Text.linesOf t.entities)

/-- The last line with its id names an enum. It has one value for each number among the lines of
its values, and the last line with that number names the value. -/
structure DescribesEnum (t : TableTexts) (e : EnumDecl) : Prop where
  named : (Row.last? t.enumRows e.id).map EnumRow.name = some e.name
  ascending : e.values.Pairwise fun a b => a.value < b.value
  mem_values : ∀ v, v ∈ e.values ↔
    (Row.last? t.entryRows ⟨e.id, v.value⟩).map EntryRow.enumValue = some v

/-- The first of the standing entities that refers to a struct, and has a name to give, names it. It
has one member for each place among its lines, and the last line with that place says which. -/
structure DescribesStruct (t : TableTexts) (d : StructDecl) : Prop where
  named : d.name? = ((Row.standing t.entityRows).find? fun row =>
    row.structId = d.id ∧ row.name ≠ unnamed).map EntityRow.name
  ascending : d.members.Pairwise fun a b => a.order < b.order
  mem_members : ∀ m, m ∈ d.members ↔
    (Row.last? t.fragmentRows ⟨d.id, m.order⟩).map FragmentRow.member = some m

/-- What the accepted lines say of a schema. -/
structure Describes (t : TableTexts) (s : Schema) : Prop where
  enumIds : s.enums.values.map EnumDecl.id = (t.enumRows.map EnumRow.id).eraseDups
  enums : ∀ e ∈ s.enums.values, t.DescribesEnum e
  structIds : s.structs.values.map StructDecl.id = (t.fragmentRows.map FragmentRow.id).eraseDups
  structs : ∀ d ∈ s.structs.values, t.DescribesStruct d
  fields : s.fields.values = Row.standing t.fieldRows
  entities : s.entities.values = (Row.standing t.entityRows).map EntityRow.decl
  findings : s.findings =
    ((Row.standing t.entryRows).filter fun row => row.id ∉ t.enumRows.map EnumRow.id).map
        (fun row => .missingOwner row.id row.value row.name) ++
      ((Row.standing t.fieldRows).filter Schema.isStrange).map
        fun row => .strangeField row.id row.name row.baseType

end TableTexts

/-! ## The description leaves no choice -/

theorem eq_of_map_eq {α β : Type} {f : α → β} {p : α → Prop}
    (hinj : ∀ a b, p a → p b → f a = f b → a = b) {xs ys : List α} (hx : ∀ a ∈ xs, p a)
    (hy : ∀ b ∈ ys, p b) (h : xs.map f = ys.map f) : xs = ys := by
  induction xs generalizing ys with
  | nil => exact (List.map_eq_nil_iff.mp h.symm).symm
  | cons x xs ih =>
    cases ys with
    | nil => cases h
    | cons y ys =>
      obtain ⟨hhead, htail⟩ := List.cons.inj h
      obtain ⟨hpx, hxs⟩ := List.forall_mem_cons.mp hx
      obtain ⟨hpy, hys⟩ := List.forall_mem_cons.mp hy
      rw [hinj x y hpx hpy hhead, ih hxs hys htail]

namespace TableTexts

variable {t : TableTexts}

theorem DescribesEnum.eq {e e' : EnumDecl} (h : t.DescribesEnum e) (h' : t.DescribesEnum e')
    (hid : e.id = e'.id) : e = e' := by
  have hname : e.name = e'.name := Option.some.inj (by rw [← h.named, ← h'.named, hid])
  have hvalues : e.values = e'.values := by
    refine eq_of_pairwise_lt h.ascending h'.ascending fun v => ?_
    rw [h.mem_values, h'.mem_values, hid]
  cases e
  cases e'
  simp_all

theorem DescribesStruct.eq {d d' : StructDecl} (h : t.DescribesStruct d)
    (h' : t.DescribesStruct d') (hid : d.id = d'.id) : d = d' := by
  have hname : d.name? = d'.name? := by rw [h.named, h'.named, hid]
  have hmembers : d.members = d'.members := by
    refine eq_of_pairwise_lt h.ascending h'.ascending fun m => ?_
    rw [h.mem_members, h'.mem_members, hid]
  cases d
  cases d'
  simp_all

end TableTexts

/-- What a schema lists. -/
def Schema.lists (s : Schema) :
    List EnumDecl × List FieldRow × List StructDecl × List EntityDecl × List Finding :=
  (s.enums.values, s.fields.values, s.structs.values, s.entities.values, s.findings)

theorem TableTexts.Describes.lists_eq {t : TableTexts} {s s' : Schema} (h : t.Describes s)
    (h' : t.Describes s') : s.lists = s'.lists := by
  have henums : s.enums.values = s'.enums.values :=
    eq_of_map_eq (fun _ _ he he' => he.eq he') h.enums h'.enums (h.enumIds.trans h'.enumIds.symm)
  have hstructs : s.structs.values = s'.structs.values :=
    eq_of_map_eq (fun _ _ hd hd' => hd.eq hd') h.structs h'.structs
      (h.structIds.trans h'.structIds.symm)
  rw [Schema.lists, Schema.lists, henums, hstructs, h.fields, h'.fields, h.entities, h'.entities,
    h.findings, h'.findings]

/-! ## The steps of the assembly -/

namespace Schema

theorem flatMap_ite {α β : Type} (p : α → Prop) [DecidablePred p] (f : α → β) (l : List α) :
    (l.flatMap fun a => if p a then [f a] else []) = (l.filter p).map f := by
  induction l with
  | nil => rfl
  | cons a l ih =>
    rw [List.flatMap_cons, ih]
    by_cases h : p a <;> simp [h]

/-- The steps for rows of each kind, in the order in which the tables are put together. -/
def stepsFor (enums : List EnumRow) (entries : List EntryRow) (fields : List FieldRow)
    (fragments : List FragmentRow) (entities : List EntityRow) : List Step :=
  enums.map .enum ++ entries.map .entry ++ fields.map .field ++ fragments.map .fragment ++
    entities.map .entity

section StepsFor

variable (enums : List EnumRow) (entries : List EntryRow) (fields : List FieldRow)
  (fragments : List FragmentRow) (entities : List EntityRow)

theorem filterMap_stepsFor :
    (stepsFor enums entries fields fragments entities).filterMap Step.enum? = enums ∧
      (stepsFor enums entries fields fragments entities).filterMap Step.entry? = entries ∧
      (stepsFor enums entries fields fragments entities).filterMap Step.field? = fields ∧
      (stepsFor enums entries fields fragments entities).filterMap Step.fragment? = fragments ∧
      (stepsFor enums entries fields fragments entities).filterMap Step.entity? = entities := by
  simp [stepsFor, List.filterMap_append, List.filterMap_map, Function.comp_def, Step.enum?,
    Step.entry?, Step.field?, Step.fragment?, Step.entity?]

theorem stepsFor_eq_append : stepsFor enums entries fields fragments entities =
    enums.map .enum ++ stepsFor [] entries fields fragments entities := by
  simp [stepsFor]

variable {entries fields fragments entities} in
theorem enum?_of_mem_stepsFor {step : Step}
    (h : step ∈ stepsFor [] entries fields fragments entities) : step.enum? = none :=
  List.filterMap_eq_nil_iff.mp (filterMap_stepsFor ..).1 step h

theorem membersOf_stepsFor (id : Int64) :
    membersOf id (stepsFor enums entries fields fragments entities) =
      (fragments.filter (·.id = id)).map FragmentRow.member := by
  rw [membersOf, (filterMap_stepsFor ..).2.2.2.1]

/-- The tables are put together in an order that steps may have. -/
theorem inOrder_stepsFor : InOrder (stepsFor enums entries fields fragments entities) where
  enumsFirst := by
    have hpair : ∀ step later : Step, step.entry? = none ∨ later.enum? = none →
        ∀ entry ∈ step.entry?, ∀ declared ∈ later.enum?, entry.id ≠ declared.id := by
      rintro step later (hnone | hnone) entry he declared hd
      · rw [hnone] at he
        cases he
      · rw [hnone] at hd
        cases hd
    have hdeclared : ∀ step ∈ enums.map Step.enum, step.entry? = none := by
      intro step hs
      obtain ⟨row, -, rfl⟩ := List.mem_map.mp hs
      rfl
    rw [stepsFor_eq_append]
    refine List.pairwise_append.mpr ⟨?_, ?_, ?_⟩
    · exact List.pairwise_of_forall_mem_list fun step hs later _ =>
        hpair step later (.inl (hdeclared step hs))
    · exact List.pairwise_of_forall_mem_list fun step _ later hl =>
        hpair step later (.inr (enum?_of_mem_stepsFor hl))
    · exact fun step hs later _ => hpair step later (.inl (hdeclared step hs))
  structsFirst := by
    intro row _ hm hbefore
    have hsplit : stepsFor enums entries fields fragments entities =
        stepsFor enums entries fields fragments [] ++ entities.map .entity := by
      simp [stepsFor]
    rw [membersOf_stepsFor, ← membersOf_stepsFor enums entries fields fragments []] at hm
    unfold beforeStruct at hbefore
    rw [hsplit, List.takeWhile_append] at hbefore
    split at hbefore
    · -- then no step before the entities is a fragment of the struct
      rename_i hall
      have hall := List.takeWhile_eq_self_iff.mp ((List.takeWhile_sublist _).eq_of_length hall)
      exact hm (membersOf_eq_nil_iff.mpr hall)
    · have hentities := (filterMap_stepsFor enums entries fields fragments []).2.2.2.2
      have hnone := List.filterMap_eq_nil_iff.mp hentities _
        ((List.takeWhile_sublist _).subset hbefore)
      cases hnone

theorem valuesOf_stepsFor (id : Int64) :
    valuesOf id (sinceDeclared id (stepsFor enums entries fields fragments entities)) =
      (entries.filter (·.id = id)).map EntryRow.enumValue := by
  rw [(inOrder_stepsFor ..).valuesOf_sinceDeclared, valuesOf, (filterMap_stepsFor ..).2.1]

variable {enums entries fields fragments entities} in
theorem nameOf?_stepsFor {id : Int64}
    (h : membersOf id (stepsFor enums entries fields fragments entities) ≠ []) :
    nameOf? id (stepsFor enums entries fields fragments entities) =
      (entities.find? fun row => row.structId = id ∧ row.name ≠ unnamed).map EntityRow.name := by
  rw [(inOrder_stepsFor ..).nameOf?_eq h, (filterMap_stepsFor ..).2.2.2.2]

theorem contains_enums_stepsFor (id : Int64) :
    (ofSteps (stepsFor enums entries fields fragments entities)).enums.contains id = true ↔
      id ∈ enums.map EnumRow.id := by
  rw [OrderedMap.contains_iff_mem_keys, keys_enums_ofSteps, (filterMap_stepsFor ..).1, Row.keys,
    List.mem_eraseDups]
  rfl

theorem findings_stepsFor :
    (ofSteps (stepsFor enums entries fields fragments entities)).findings =
      (entries.filter fun row => row.id ∉ enums.map EnumRow.id).map
          (fun row => .missingOwner row.id row.value row.name) ++
        (fields.filter isStrange).map fun row => .strangeField row.id row.name row.baseType := by
  rw [(inOrder_stepsFor ..).findings_ofSteps]
  have hdeclared := contains_enums_stepsFor enums entries fields fragments entities
  generalize ofSteps (stepsFor enums entries fields fragments entities) = s at hdeclared
  have henums : enums.flatMap (fun row => s.findingsOf (.enum row)) = [] :=
    List.flatMap_eq_nil_iff.mpr fun _ _ => rfl
  have hentries : entries.flatMap (fun row => s.findingsOf (.entry row)) =
      (entries.filter fun row => row.id ∉ enums.map EnumRow.id).map
        fun row => .missingOwner row.id row.value row.name := by
    rw [← flatMap_ite]
    refine List.flatMap_congr fun row _ => ?_
    simp only [findingsOf, hdeclared, ite_not]
  have hfields : fields.flatMap (fun row => s.findingsOf (.field row)) =
      (fields.filter isStrange).map fun row => .strangeField row.id row.name row.baseType := by
    have h := flatMap_ite (isStrange · = true)
      (fun row => Finding.strangeField row.id row.name row.baseType) fields
    simp only [Bool.decide_eq_true] at h
    exact h
  have hfragments : fragments.flatMap (fun row => s.findingsOf (.fragment row)) = [] :=
    List.flatMap_eq_nil_iff.mpr fun _ _ => rfl
  have hentities : entities.flatMap (fun row => s.findingsOf (.entity row)) = [] :=
    List.flatMap_eq_nil_iff.mpr fun _ _ => rfl
  simp only [stepsFor, List.flatMap_append, List.flatMap_map, henums, hentries, hfields, hfragments,
    hentities, List.nil_append, List.append_nil]

end StepsFor

end Schema

/-! ## Rows that belong to one owner -/

namespace Row

variable {R α : Type} [Row PairKey R] {f : R → α} {number : α → Int64}

/-- The standing rows of an owner. -/
def owned (rows : List R) (id : Int64) : List R :=
  (standing rows).filter fun row => (key row).id = id

/-- The rows of an owner are told apart by their numbers within it. -/
theorem nodup_map_owned (hf : ∀ row, number (f row) = (key row).sub) (rows : List R) (id : Int64) :
    (((owned rows id).map f).map number).Nodup := by
  have hkeys : ((owned rows id).map key).Nodup :=
    (nodup_map_key_standing rows).sublist (List.filter_sublist.map key)
  have hid : ∀ k ∈ (owned rows id).map key, k.id = id := by
    intro k hk
    obtain ⟨row, hrow, rfl⟩ := List.mem_map.mp hk
    exact of_decide_eq_true (List.mem_filter.mp hrow).2
  have hsubs : (((owned rows id).map key).map PairKey.sub).Nodup := by
    refine List.Nodup.map_on (fun k hk l hl hsub => ?_) hkeys
    have hkl : k.id = l.id := (hid k hk).trans (hid l hl).symm
    cases k
    cases l
    simp_all
  have hmap : ((owned rows id).map f).map number = ((owned rows id).map key).map PairKey.sub := by
    rw [List.map_map, List.map_map]
    exact List.map_congr_left fun row _ => hf row
  rwa [hmap]

theorem mem_map_owned (hf : ∀ row, number (f row) = (key row).sub) (rows : List R) (id : Int64)
    (a : α) : a ∈ (owned rows id).map f ↔ (last? rows ⟨id, number a⟩).map f = some a := by
  rw [List.mem_map, Option.map_eq_some_iff]
  constructor
  · rintro ⟨row, hrow, rfl⟩
    obtain ⟨hstanding, hid⟩ := List.mem_filter.mp hrow
    have hkey : (⟨id, number (f row)⟩ : PairKey) = key row := by
      rw [hf, ← of_decide_eq_true hid]
    exact ⟨row, by rw [hkey, mem_standing.mp hstanding], rfl⟩
  · rintro ⟨row, hrow, rfl⟩
    have hkey := key_of_last? hrow
    refine ⟨row, List.mem_filter.mpr ⟨mem_standing.mpr ?_, ?_⟩, rfl⟩
    · rw [hkey, hrow]
    · rw [hkey]
      exact decide_eq_true rfl

end Row

/-! ## The schema fits the description -/

namespace Dictionary

variable (t : TableTexts)

theorem steps_ofTexts :
    (ofTexts t).steps = Schema.stepsFor (Row.standing t.enumRows) (Row.standing t.entryRows)
      (Row.standing t.fieldRows) (Row.standing t.fragmentRows) (Row.standing t.entityRows) := by
  simp only [steps, ofTexts, Table.intoRows_eq_toList, Table.ofText, Table.toList_ofLines]
  rfl

theorem get?_enums_ofTexts (id : Int64) :
    (ofTexts t).schema.enums.get? id = (Row.last? t.enumRows id).map fun row =>
      ⟨id, row.name, sortedBy EnumValue.value
        (((Row.standing t.entryRows).filter (·.id = id)).map EntryRow.enumValue)⟩ := by
  rw [schema, steps_ofTexts, Schema.get?_enums_ofSteps, Schema.valuesOf_stepsFor,
    (Schema.filterMap_stepsFor ..).1, Row.last?_standing]

theorem get?_fields_ofTexts (id : Int64) :
    (ofTexts t).schema.fields.get? id = Row.last? t.fieldRows id := by
  rw [schema, steps_ofTexts, Schema.fields_ofSteps, (Schema.filterMap_stepsFor ..).2.2.1,
    ← Row.last?_standing]
  exact Table.get?_ofRows _ id

theorem get?_structs_ofTexts {id : Int64} {d : StructDecl}
    (h : (ofTexts t).schema.structs.get? id = some d) :
    d = ⟨id, ((Row.standing t.entityRows).find? fun row =>
        row.structId = id ∧ row.name ≠ unnamed).map EntityRow.name,
      sortedBy Member.order
        (((Row.standing t.fragmentRows).filter (·.id = id)).map FragmentRow.member)⟩ := by
  rw [schema, steps_ofTexts, Schema.get?_structs_ofSteps] at h
  split at h
  · cases h
  · rename_i hm
    rw [Schema.nameOf?_stepsFor hm, Schema.membersOf_stepsFor] at h
    exact (Option.some.inj h).symm

theorem keys_enums_ofTexts :
    (ofTexts t).schema.enums.keys = (t.enumRows.map EnumRow.id).eraseDups := by
  rw [schema, steps_ofTexts, Schema.keys_enums_ofSteps, (Schema.filterMap_stepsFor ..).1,
    Row.keys_standing]
  rfl

theorem keys_structs_ofTexts :
    (ofTexts t).schema.structs.keys = (t.fragmentRows.map FragmentRow.id).eraseDups := by
  have hkeys : ∀ rows : List FragmentRow,
      rows.map FragmentRow.id = (rows.map Row.key).map PairKey.id := by
    intro rows
    rw [List.map_map]
    rfl
  rw [schema, steps_ofTexts, Schema.keys_structs_ofSteps, (Schema.filterMap_stepsFor ..).2.2.2.1,
    hkeys, Row.map_key_standing, Row.keys, eraseDups_map_eraseDups, ← hkeys]

theorem describesEnum {e : EnumDecl} (h : e ∈ (ofTexts t).schema.enums.values) :
    t.DescribesEnum e := by
  obtain ⟨id, hid⟩ := OrderedMap.mem_values.mp h
  rw [get?_enums_ofTexts, Option.map_eq_some_iff] at hid
  obtain ⟨row, hrow, rfl⟩ := hid
  have hnumber : ∀ row : EntryRow, row.enumValue.value = (Row.key row).sub := fun _ => rfl
  constructor
  · rw [hrow, Option.map_some]
  · exact pairwise_lt_sortedBy (Row.nodup_map_owned hnumber t.entryRows id)
  · intro v
    rw [mem_sortedBy]
    exact Row.mem_map_owned hnumber t.entryRows id v

theorem describesStruct {d : StructDecl} (h : d ∈ (ofTexts t).schema.structs.values) :
    t.DescribesStruct d := by
  obtain ⟨id, hid⟩ := OrderedMap.mem_values.mp h
  obtain rfl := get?_structs_ofTexts t hid
  have hnumber : ∀ row : FragmentRow, row.member.order = (Row.key row).sub := fun _ => rfl
  constructor
  · rfl
  · exact pairwise_lt_sortedBy (Row.nodup_map_owned hnumber t.fragmentRows id)
  · intro m
    rw [mem_sortedBy]
    exact Row.mem_map_owned hnumber t.fragmentRows id m

theorem describes_schema : t.Describes (ofTexts t).schema where
  enumIds := by
    rw [← keys_enums_ofTexts]
    refine OrderedMap.map_values fun id e he => ?_
    rw [get?_enums_ofTexts, Option.map_eq_some_iff] at he
    obtain ⟨row, -, rfl⟩ := he
    rfl
  enums _ he := describesEnum t he
  structIds := by
    rw [← keys_structs_ofTexts]
    refine OrderedMap.map_values fun id d hd => ?_
    rw [get?_structs_ofTexts t hd]
  structs _ hd := describesStruct t hd
  fields := by
    rw [schema, steps_ofTexts, Schema.fields_ofSteps, (Schema.filterMap_stepsFor ..).2.2.1]
    exact (Table.toList_ofRows _).trans (Row.standing_standing _)
  entities := by
    rw [schema, steps_ofTexts, Schema.values_entities_ofSteps,
      (Schema.filterMap_stepsFor ..).2.2.2.2, Row.standing_standing]
  findings := by
    have hids : ∀ id, id ∈ (Row.standing t.enumRows).map EnumRow.id ↔
        id ∈ t.enumRows.map EnumRow.id := by
      intro id
      change id ∈ (Row.standing t.enumRows).map Row.key ↔ _
      rw [Row.map_key_standing, Row.keys, List.mem_eraseDups]
      rfl
    rw [schema, steps_ofTexts, Schema.findings_stepsFor]
    simp only [hids]

/-- **The schema is the one that the accepted lines describe.** It fits the description of the
texts, and a schema that fits it lists the same enums, fields, structs, entities and findings. -/
theorem schema_described : t.Describes (ofTexts t).schema ∧
    ∀ s, t.Describes s → s.lists = (ofTexts t).schema.lists :=
  ⟨describes_schema t, fun _ hs => hs.lists_eq (describes_schema t)⟩

end Dictionary

end WireDictionary
