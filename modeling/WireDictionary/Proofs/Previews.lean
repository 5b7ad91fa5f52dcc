import WireDictionary.Declaration
import WireDictionary.Proofs.AssemblyRuns

/-! # The whole output and the text of one id

Definitions are listed in order, and each can be asked for by its id. Both give
the same definition only if everything is kept under its own id; every step of
the assembly keeps it so (`KeyedById.apply`). Then the output is made of the texts
that asking for each listed id gives, one after the other.
-/
namespace WireDictionary

namespace OrderedMap

variable {K V : Type} [DecidableEq K] {m : OrderedMap K V} {f : V → K}

/-- Values that tell their keys are found under what they tell. -/
theorem map_get?_values (h : ∀ k v, m.get? k = some v → f v = k) :
    (m.values.map fun v => m.get? (f v)) = m.values.map some :=
  List.map_congr_left fun _ hv => (get?_eq_some_iff_mem_values h).mpr ⟨hv, rfl⟩

/-- What is made of each value is made of what is found under its key. -/
theorem map_map_get?_values {β : Type} (h : ∀ k v, m.get? k = some v → f v = k) (g : V → β) :
    (m.values.map fun v => (m.get? (f v)).map g) = (m.values.map g).map some := by
  have hmap := congrArg (List.map (Option.map g)) (map_get?_values h)
  rw [List.map_map, List.map_map] at hmap
  rw [List.map_map]
  exact hmap

theorem nodup_map_values (h : ∀ k v, m.get? k = some v → f v = k) : (m.values.map f).Nodup := by
  rw [map_values h]
  exact m.nodup_keys

end OrderedMap

namespace Schema

/-! ## Own ids -/

/-- What is found under an id has that id. -/
structure KeyedById (s : Schema) : Prop where
  enums : ∀ id e, s.enums.get? id = some e → e.id = id
  fields : ∀ id field, s.fields.get? id = some field → field.id = id
  structs : ∀ id d, s.structs.get? id = some d → d.id = id
  entities : ∀ id e, s.entities.get? id = some e → e.uniqueId = id

theorem id_of_enumAfter {id : Int64} {e? : Option EnumDecl} (h : ∀ e, e? = some e → e.id = id)
    {step : Step} {e : EnumDecl} (he : enumAfter id e? step = some e) : e.id = id := by
  cases step with
  | enum row =>
    simp only [enumAfter] at he
    split at he
    · rw [← Option.some.inj he]
    · exact h e he
  | strictEntry row | entry row =>
    simp only [enumAfter] at he
    split at he
    · obtain ⟨old, hold, rfl⟩ := Option.map_eq_some_iff.mp he
      exact h old hold
    · exact h e he
  | field row | fragment row | entity row => exact h e he

theorem id_of_structAfter {id : Int64} {d? : Option StructDecl} (h : ∀ d, d? = some d → d.id = id)
    {step : Step} {d : StructDecl} (hd : structAfter id d? step = some d) : d.id = id := by
  cases step with
  | fragment row =>
    simp only [structAfter] at hd
    split at hd
    · rw [← Option.some.inj hd]
      cases hold : d? with
      | none => rfl
      | some old => exact h old hold
    · exact h d hd
  | entity row =>
    simp only [structAfter] at hd
    split at hd
    · obtain ⟨old, hold, rfl⟩ := Option.map_eq_some_iff.mp hd
      exact h old hold
    · exact h d hd
  | enum row | strictEntry row | entry row | field row => exact h d hd

/-- Every step keeps everything under its own id. -/
theorem KeyedById.apply {s : Schema} (h : s.KeyedById) (step : Step) :
    (s.apply step).KeyedById where
  enums id e he := by
    rw [get?_enums_apply] at he
    exact id_of_enumAfter (h.enums id) he
  fields id field hfield := by
    rw [fields_apply] at hfield
    split at hfield
    · rw [OrderedMap.get?_insert] at hfield
      split at hfield
      · rename_i hid
        rw [← Option.some.inj hfield, hid]
      · exact h.fields id field hfield
    · exact h.fields id field hfield
  structs id d hd := by
    rw [get?_structs_apply] at hd
    exact id_of_structAfter (h.structs id) hd
  entities id e he := by
    rw [entities_apply] at he
    split at he
    · rw [OrderedMap.get?_insert] at he
      split at he
      · rename_i hid
        rw [← Option.some.inj he, hid]
        rfl
      · exact h.entities id e he
    · exact h.entities id e he

theorem keyedById_ofSteps (steps : List Step) : (ofSteps steps).KeyedById := by
  induction steps using List.reverseRecOn with
  | nil => constructor <;> intro _ _ hnone <;> cases hnone
  | append_singleton steps step ih =>
    rw [ofSteps_concat]
    exact ih.apply step

end Schema

/-! ## Texts -/

namespace Declaration

theorem unlines_append (xs ys : List String) : unlines (xs ++ ys) = unlines xs ++ unlines ys := by
  unfold unlines
  rw [List.map_append, String.join_append]

theorem unlines_flatMap {α : Type} (f : α → List String) (items : List α) :
    unlines (items.flatMap f) = String.join (items.map fun a => unlines (f a)) := by
  induction items with
  | nil => rfl
  | cons a items ih =>
    rw [List.flatMap_cons, unlines_append, ih, List.map_cons, String.join_cons]

/-- The output: the marker, the texts of the enums, an announcement of each struct and the texts of
the structs. -/
theorem text_eq_append (scope : String) (s : Schema) :
    text scope s = marker ++ "\n" ++
      String.join (s.enums.values.map fun e => unlines (enumLines scope e)) ++
      String.join (s.structs.values.map fun d => forwardLine scope d ++ "\n") ++
      String.join (s.structs.values.map fun d => unlines (structLines scope s d)) := by
  have hmarker : ∀ lines : List String,
      unlines (marker :: lines) = marker ++ "\n" ++ unlines lines :=
    fun _ => String.join_cons
  have hforward : unlines (s.structs.values.map (forwardLine scope)) =
      String.join (s.structs.values.map fun d => forwardLine scope d ++ "\n") := by
    unfold unlines
    rw [List.map_map]
    rfl
  rw [text, allLines, List.cons_append, List.cons_append, hmarker, unlines_append, unlines_append,
    unlines_flatMap, unlines_flatMap, hforward]
  simp only [String.append_assoc]

/-- **The output is made of what each id gives.** Whatever steps a schema is made by, every enum,
field, struct and entity that it lists is the one found under its own id, and no enum or struct is
listed twice. The output is the marker line, then the texts that the ids of the enums give, then a
line that announces each struct, then the texts that the ids of the structs give. Every listed id
gives a text. -/
theorem text_made_of_previews (scope : String) (steps : List Schema.Step) :
    let s := Schema.ofSteps steps
    (s.enums.values.map fun e => s.enums.get? e.id) = s.enums.values.map some ∧
      (s.fields.values.map fun field => s.fields.get? field.id) = s.fields.values.map some ∧
      (s.structs.values.map fun d => s.structs.get? d.id) = s.structs.values.map some ∧
      (s.entities.values.map fun e => s.entities.get? e.uniqueId) = s.entities.values.map some ∧
      (s.enums.values.map EnumDecl.id).Nodup ∧
      (s.structs.values.map StructDecl.id).Nodup ∧
      ∃ enumTexts structTexts : List String,
        (s.enums.values.map fun e => enumText? scope s e.id) = enumTexts.map some ∧
        (s.structs.values.map fun d => structText? scope s d.id) = structTexts.map some ∧
        text scope s = "/* GENERATED CODE. DO NOT EDIT. */\n" ++ String.join enumTexts ++
          String.join (s.structs.values.map fun d =>
            "struct " ++ structName scope d ++ "; /* " ++ d.title ++ " */\n") ++
          String.join structTexts := by
  intro s
  have hs : s.KeyedById := Schema.keyedById_ofSteps steps
  have hforward : ∀ d : StructDecl, forwardLine scope d ++ "\n" =
      "struct " ++ structName scope d ++ "; /* " ++ d.title ++ " */\n" := by
    intro d
    simp only [forwardLine, comment, String.append_assoc]
    rfl
  refine ⟨OrderedMap.map_get?_values hs.enums, OrderedMap.map_get?_values hs.fields,
    OrderedMap.map_get?_values hs.structs, OrderedMap.map_get?_values hs.entities,
    OrderedMap.nodup_map_values hs.enums, OrderedMap.nodup_map_values hs.structs,
    s.enums.values.map fun e => unlines (enumLines scope e),
    s.structs.values.map fun d => unlines (structLines scope s d), ?_, ?_, ?_⟩
  · exact OrderedMap.map_map_get?_values hs.enums fun e => unlines (enumLines scope e)
  · exact OrderedMap.map_map_get?_values hs.structs fun d => unlines (structLines scope s d)
  · rw [text_eq_append]
    simp only [hforward]
    rfl

end Declaration

end WireDictionary
