import WireDictionary.Command.Run
import WireDictionary.FileTree
import WireDictionary.Proofs.OutputLines
import WireDictionary.Proofs.References

/-! # What a run of the command does

A run either reads all five tables and does its work, or stops at the first table
that it cannot read and writes nothing (`Dictionary.load_eq`). What it is asked to log
goes to where its findings go, but neither changes them nor is mixed into their lines:
a notice is either logged or not, and those that are not logged are the same under
every level and every specification, and whichever frontend keeps the log
(`execute_all_or_nothing`).
-/
namespace WireDictionary

/-! ## Tables that cannot be read -/

/-- Why the file at a path cannot be opened, or not be read to its end. -/
def Opener.fault? (openFile : Opener) (path : String) : Option Fault :=
  match openFile path with
  | .error fault => some fault
  | .ok source => source.fault?

/-- The files of the tables, in the order in which they are read. -/
def tableFiles : List String :=
  ["Entity.txt", "EnumEntry.txt", "Enum.txt", "Field.txt", "Struct.txt"]

/-- The first of some files in a directory that cannot be read, and why. -/
def firstFault? (openFile : Opener) (dir : String) (files : List String) :
    Option (String × Fault) :=
  files.findSome? fun file => (openFile.fault? (pathIn dir file)).map fun fault => (file, fault)

/-- The table holds what the lines of its file in a directory make. -/
def Table.IsReadAt {K R : Type} [DecidableEq K] [Row K R] (openFile : Opener) (dir : String)
    (t : Table K R) : Prop :=
  ∃ source, openFile (pathIn dir (Row.file R)) = .ok source ∧ ofSource source = .ok t

/-- Every table is that of its file in a directory. -/
structure Dictionary.IsReadAt (openFile : Opener) (dir : String) (d : Dictionary) : Prop where
  entities : d.entities.IsReadAt openFile dir
  entries : d.entries.IsReadAt openFile dir
  enums : d.enums.IsReadAt openFile dir
  fields : d.fields.IsReadAt openFile dir
  fragments : d.fragments.IsReadAt openFile dir

theorem Dictionary.IsReadAt.isRead {openFile : Opener} {dir : String} {d : Dictionary}
    (h : d.IsReadAt openFile dir) : d.IsRead where
  entities := .inr (h.entities.imp fun _ => And.right)
  entries := .inr (h.entries.imp fun _ => And.right)
  enums := .inr (h.enums.imp fun _ => And.right)
  fields := .inr (h.fields.imp fun _ => And.right)
  fragments := .inr (h.fragments.imp fun _ => And.right)

namespace Dictionary

section Load

variable {K R α : Type} [DecidableEq K] [Row K R] {openFile : Opener} {dir : String}

/-- Whatever the log holds, reading files gives what is wanted, or the first fault among the files is
the error. -/
def Reads (openFile : Opener) (dir : String) (files : List String) (x : Loader α)
    (wanted : α → Prop) : Prop :=
  ∀ log, match firstFault? openFile dir files with
  | some (file, fault) => ∃ log', x.run log = .error (.table (pathIn dir file) fault) log'
  | none => ∃ a log', x.run log = .ok a log' ∧ wanted a

/-- A table is read unless its file has a fault. -/
theorem readTable_run (openFile : Opener) (dir : String) (log : List Log.Event) :
    match openFile.fault? (pathIn dir (Row.file R)) with
    | some fault => ∃ log', (readTable openFile dir : Loader (Table K R)).run log =
        .error (.table (pathIn dir (Row.file R)) fault) log'
    | none => ∃ (t : Table K R) (log' : _),
        (readTable openFile dir).run log = .ok t log' ∧ t.IsReadAt openFile dir := by
  unfold Opener.fault? readTable tablePath
  simp only [EStateM.run_bind, EStateM.run_modify]
  cases hopen : openFile (pathIn dir (Row.file R)) with
  | error fault => exact ⟨_, rfl⟩
  | ok source =>
    obtain ⟨log', hrun⟩ :=
      Table.readFrom_run (R := R) source (log ++ [.tableOpened (pathIn dir (Row.file R))])
    simp only [EStateM.run_adaptExcept, hrun]
    cases hfault : source.fault? with
    | some fault => exact ⟨log', rfl⟩
    | none => exact ⟨.ofLines source.lines, log', rfl, source, hopen, by
        rw [Table.ofSource_eq, hfault]⟩

/-- One table more: a fault of its file comes before all that would be read behind it. -/
theorem Reads.bind {files : List String} {rest : Table K R → Loader α} {wanted : α → Prop}
    (h : ∀ t : Table K R, t.IsReadAt openFile dir → Reads openFile dir files (rest t) wanted) :
    Reads openFile dir (Row.file R :: files) (readTable openFile dir >>= rest) wanted := by
  intro log
  have htable := readTable_run (R := R) openFile dir log
  unfold firstFault?
  rw [List.findSome?_cons]
  cases hfault : openFile.fault? (pathIn dir (Row.file R)) with
  | some fault =>
    rw [hfault] at htable
    obtain ⟨log', hrun⟩ := htable
    simp only [Option.map_some, EStateM.run_bind, hrun]
    exact ⟨log', rfl⟩
  | none =>
    rw [hfault] at htable
    obtain ⟨t, log', hrun, ht⟩ := htable
    simp only [Option.map_none, EStateM.run_bind, hrun]
    exact h t ht log'

/-- A dictionary is read table by table, up to the first fault. -/
theorem read_reads (openFile : Opener) (dir : String) :
    Reads openFile dir tableFiles (read openFile dir) (IsReadAt openFile dir) := by
  refine Reads.bind (R := EntityRow) fun entities hentities => ?_
  refine Reads.bind (R := EntryRow) fun entries hentries => ?_
  refine Reads.bind (R := EnumRow) fun enums henums => ?_
  refine Reads.bind (R := FieldRow) fun fields hfields => ?_
  refine Reads.bind (R := FragmentRow) fun fragments hfragments => ?_
  exact fun log => ⟨_, _, rfl, hentities, hentries, henums, hfields, hfragments⟩

theorem load_eq (openFile : Opener) (dir : String) :
    match firstFault? openFile dir tableFiles with
    | some (file, fault) => load openFile dir = .error (.table (pathIn dir file) fault)
    | none => ∃ d, load openFile dir = .ok d ∧ d.IsReadAt openFile dir := by
  have hread := read_reads openFile dir []
  unfold load
  cases hfirst : firstFault? openFile dir tableFiles with
  | some first =>
    rw [hfirst] at hread
    obtain ⟨log', hrun⟩ := hread
    rw [hrun]
    rfl
  | none =>
    rw [hfirst] at hread
    obtain ⟨d, log', hrun, hd⟩ := hread
    exact ⟨d, by rw [hrun]; rfl, hd⟩

end Load

end Dictionary

/-! ## Findings stay on one line -/

/-- The texts in a finding that come from the tables. -/
def Finding.texts : Finding → List String
  | strangeField _ name _ | missingOwner _ _ name => [name]
  | missingStruct entity name _ => [entity, name]
  | danglingField .. | danglingStruct .. | surprisingMember .. => []

theorem Finding.isOneLine_message {f : Finding} (h : ∀ text ∈ f.texts, IsOneLine text) :
    IsOneLine f.message := by
  -- opened as it stands: deriving its equations takes too long
  delta message
  cases f with
  | strangeField fieldId name baseType | missingOwner enumId value name =>
    have hname : IsOneLine name := h name List.mem_cons_self
    simp only [isOneLine_append, isOneLine_decimal, hname, and_true]
    decide
  | missingStruct entity name structId =>
    have hentity : IsOneLine entity := h entity List.mem_cons_self
    have hname : IsOneLine name := h name (List.mem_cons_of_mem _ List.mem_cons_self)
    simp only [isOneLine_append, isOneLine_decimal, hentity, hname, and_true]
    decide
  | danglingField structId target | danglingStruct structId target
  | surprisingMember structId tag value =>
    simp only [isOneLine_append, isOneLine_decimal, and_true]
    decide

theorem Row.isOneLine_name {K R : Type} [DecidableEq K] [Row K R] [Unquoted R] {text : String}
    {row : R} (h : row ∈ standing (accepted R (Text.linesOf text))) : IsOneLine (name row) :=
  feed_not_mem_name (mem_of_last? (mem_standing.mp h))

theorem EntityRow.isOneLine_idOf {typeCode : Int64} {key : String} (h : IsOneLine key) :
    IsOneLine (idOf typeCode key) := by
  have hdotted : IsOneLine (dotted key) := by
    intro hfeed
    rw [dotted, String.toList_ofList] at hfeed
    obtain ⟨c, hc, hdot⟩ := List.mem_map.mp hfeed
    split at hdot
    · cases hdot
    · exact h (hdot ▸ (List.mem_filter.mp hc).1)
  simp +decide [idOf, hdotted]

namespace Dictionary

theorem isOneLine_of_mem_findings (t : TableTexts) :
    ∀ f ∈ (ofTexts t).schema.findings, ∀ text ∈ f.texts, IsOneLine text := by
  rw [(describes_schema t).findings]
  refine List.forall_mem_append.mpr ⟨?_, ?_⟩
  · refine List.forall_mem_map.mpr fun row hrow => List.forall_mem_singleton.mpr ?_
    exact Row.isOneLine_name (List.mem_filter.mp hrow).1
  · refine List.forall_mem_map.mpr fun row hrow => List.forall_mem_singleton.mpr ?_
    exact Row.isOneLine_name (List.mem_filter.mp hrow).1

/-- Only findings about entities show texts of the tables. -/
theorem isOneLine_of_mem_validate (t : TableTexts) :
    ∀ f ∈ (ofTexts t).schema.validate, ∀ text ∈ f.texts, IsOneLine text := by
  rw [validate_ofTexts]
  intro f hf
  rcases List.mem_append.mp hf with hf | hf
  · obtain ⟨row, -, hfinding⟩ := List.mem_filterMap.mp hf
    unfold TableTexts.fragmentFinding? at hfinding
    split_ifs at hfinding <;> cases hfinding <;> exact List.forall_mem_nil _
  · obtain ⟨row, hrow, hfinding⟩ := List.mem_filterMap.mp hf
    have haccepted := Row.mem_of_last? (Row.mem_standing.mp hrow)
    have hkey : IsOneLine row.key :=
      (Row.isWritable_of_mem_accepted haccepted _ List.mem_cons_self).2
    have hid : IsOneLine row.uniqueId := by
      rw [EntityRow.uniqueId_of_mem_accepted haccepted]
      exact EntityRow.isOneLine_idOf hkey
    unfold TableTexts.entityFinding? at hfinding
    split_ifs at hfinding
    cases hfinding
    exact List.forall_mem_cons.mpr
      ⟨hid, List.forall_mem_singleton.mpr (Row.isOneLine_name hrow)⟩

/-- No finding about tables that were read takes up two lines. -/
theorem IsRead.isOneLine_message {d : Dictionary} (hd : d.IsRead) :
    ∀ f ∈ d.schema.findings ++ d.schema.validate, IsOneLine f.message := by
  obtain ⟨t, rfl⟩ := hd.exists_texts
  intro f hf
  refine Finding.isOneLine_message ?_
  rcases List.mem_append.mp hf with hf | hf
  · exact isOneLine_of_mem_findings t f hf
  · exact isOneLine_of_mem_validate t f hf

end Dictionary

namespace Command

/-! ## Notices and their lines -/

/-- Whether a notice is there only because something is logged. -/
def Notice.isLogged : Notice → Bool
  | logged _ => true
  | finding _ | failure .. | usage _ => false

/-- The lines that a text takes up. -/
def linesIn (text : String) : List String := (text.toList.splitOn '\n').map String.ofList

/-- What is reported whether or not anything is logged. -/
def Outcome.unlogged (o : Outcome) : List Notice := o.report.filter (!·.isLogged)

theorem linesIn_eq_singleton {text : String} (h : IsOneLine text) : linesIn text = [text] := by
  have hone := List.splitOn_intercalate '\n' (List.forall_mem_singleton.mpr h)
    (List.cons_ne_nil _ _)
  rw [List.intercalate_singleton] at hone
  rw [linesIn, hone, List.map_singleton, String.ofList_toList]

/-- Every notice starts a line and ends one. -/
theorem linesIn_unlines (texts : List String) :
    linesIn (Declaration.unlines texts) = texts.flatMap linesIn ++ [""] := by
  rw [linesIn, Declaration.toList_unlines]
  induction texts with
  | nil => rfl
  | cons text texts ih =>
    rw [List.flatMap_cons, List.append_assoc, List.singleton_append, List.splitOn_append_cons_self,
      List.map_append, ih, List.flatMap_cons, List.append_assoc]
    rfl

theorem toList_hanging (margin message : String) :
    (hanging margin message).toList =
      message.toList.flatMap fun c => if c = '\n' then '\n' :: margin.toList else [c] := by
  rw [hanging, String.toList_intercalate, List.map_map]
  have hlines : (message.toList.splitOn '\n').map (String.toList ∘ String.ofList) =
      message.toList.splitOn '\n' := by
    simp [Function.comp_def]
  rw [hlines, String.toList_append]
  induction message.toList with
  | nil => rfl
  | cons c cs ih =>
    rw [List.flatMap_cons, ← ih, List.splitOn_eq_splitOnP, List.splitOnP_cons_eq_if_modifyHead,
      ← List.splitOn_eq_splitOnP]
    by_cases hfeed : c = '\n'
    · rw [if_pos (beq_iff_eq.mpr hfeed), if_pos hfeed,
        List.intercalate_cons_of_ne_nil (List.splitOn_ne_nil _ _)]
      rfl
    · rw [if_neg (mt beq_iff_eq.mp hfeed), if_neg hfeed]
      cases hpieces : cs.splitOn '\n' with
      | nil => exact absurd hpieces (List.splitOn_ne_nil _ _)
      | cons piece pieces => cases pieces <;> simp [List.intercalate]

/-- Indenting the lines of a message leaves its parts that lie on one line. -/
theorem isInfix_hanging (margin before after : String) {part : String} (h : IsOneLine part) :
    part.toList <:+: (hanging margin (before ++ part ++ after)).toList := by
  have hpart : (part.toList.flatMap fun c => if c = '\n' then '\n' :: margin.toList else [c]) =
      part.toList := by
    have hsame : ∀ c ∈ part.toList, (if c = '\n' then '\n' :: margin.toList else [c]) = [c] :=
      fun c hc => if_neg (fun he : c = '\n' => h (he ▸ hc))
    rw [List.flatMap_congr hsame, List.flatMap_singleton']
  rw [toList_hanging, String.toList_append, String.toList_append, List.flatMap_append,
    List.flatMap_append, hpart]
  exact ⟨_, _, rfl⟩

/-! ## Arguments that make choices -/

/-- How a choice of what to log is written. -/
def levelName : Option Log.Level → String
  | none => "none"
  | some level => level.name

theorem logLevel?_levelName (level? : Option Log.Level) :
    logLevel? (levelName level?) = some level? := by
  cases level? with
  | none => rfl
  | some level => cases level <;> rfl

/-- An option with its value, if it has one, behind an equals sign. -/
def given (option : Setting) (value? : Option String) : List String :=
  (value?.map fun value => option.flag ++ "=" ++ value).toList

/-- Arguments that make choices. The directory stands behind two hyphens, so that it may look like
an option. -/
def Chosen.arguments (c : Chosen) : List String :=
  given .scope c.scope? ++ given .logLevel (c.logLevel?.map levelName) ++
    (c.dir?.map fun dir => ["--", dir]).getD []

theorem form_given (option : Setting) (value : String) :
    form (option.flag ++ "=" ++ value) = .option option (some value) := by
  cases option <;> simp [form, longForm, Setting.flag, List.takeWhile, List.dropWhile]

theorem parseFrom_given {c c' : Chosen} {option : Setting} {value? : Option String}
    (hset : ∀ value ∈ value?, c.set option value = .ok c') (hnone : value? = none → c = c')
    (rest : List String) :
    parseFrom c .nothing (given option value? ++ rest) = parseFrom c' .nothing rest := by
  cases value? with
  | none => rw [hnone rfl]; rfl
  | some value =>
    have hform := form_given option value
    have hplain : option.flag ++ "=" ++ value ≠ "--" := by
      intro he
      have hwrong : form "--" = .wrong (.unexpected "--") := by decide
      rw [he, hwrong] at hform
      cases hform
    have hset : c.set option value = .ok c' := hset value rfl
    simp only [given, Option.map_some, Option.toList_some, List.singleton_append, parseFrom,
      if_neg hplain, hform, Chosen.settle, bind, Except.bind, hset]

theorem parseFrom_dir {c : Chosen} {dir : String} (hdir : dir ≠ "") (hnone : c.dir? = none) :
    parseFrom c .nothing ["--", dir] = .ok (.run { c with dir? := some dir }.settings) := by
  have hempty : dir.isEmpty = false := by simpa using hdir
  simp only [parseFrom, if_true, parsePlain, takeDir, Chosen.settle, bind, Except.bind, hnone,
    Option.isSome_none, Bool.false_eq_true, if_false, hempty]
  rfl

/-- All choices can be made, and what is not chosen is as usual. -/
theorem parse_arguments {c : Chosen} (h : c.dir? ≠ some "") :
    parse c.arguments = .ok (.run c.settings) := by
  obtain ⟨dir?, scope?, level?⟩ := c
  let last := (dir?.map fun dir => ["--", dir]).getD []
  have hscope : ∀ value ∈ scope?,
      Chosen.set {} .scope value = .ok { scope? : Chosen } := by
    rintro value rfl
    rfl
  have hlevel : ∀ value ∈ level?.map levelName,
      Chosen.set { scope? } .logLevel value = .ok { scope?, logLevel? := level? } := by
    intro value hvalue
    obtain ⟨level, rfl, rfl⟩ := Option.map_eq_some_iff.mp hvalue
    simp [Chosen.set, logLevel?_levelName]
  calc parse (Chosen.arguments ⟨dir?, scope?, level?⟩)
      = parseFrom {} .nothing
          (given .scope scope? ++ (given .logLevel (level?.map levelName) ++ last)) := by
        rw [← List.append_assoc]
        rfl
    _ = parseFrom { scope? } .nothing (given .logLevel (level?.map levelName) ++ last) :=
        parseFrom_given hscope (fun hnone => by rw [hnone]) _
    _ = parseFrom { scope?, logLevel? := level? } .nothing last :=
        parseFrom_given hlevel (fun hnone => by rw [Option.map_eq_none_iff.mp hnone]) _
    _ = .ok (.run (Chosen.settings ⟨dir?, scope?, level?⟩)) := by
        cases dir? with
        | none => rfl
        | some dir => exact parseFrom_dir (fun he => h (congrArg some he)) rfl

/-! ## The command as a whole -/

/-- The wording of a failure shows the error: every part of it that lies on one line. -/
def Frontend.ShowsErrors (f : Frontend) : Prop :=
  ∀ doing before part after cause, IsOneLine part →
    part.toList <:+: (f.failureText doing (before ++ part ++ after) cause).toList

/-- The command gives up because of a file in a directory, and says so. -/
structure Frontend.Refuses (f : Frontend) (o : Outcome) (dir file : String) (fault : Fault) :
    Prop where
  code : o.code = 1
  output : o.output = ""
  unlogged : o.unlogged = [f.failure dir (.table (pathIn dir file) fault)]
  named : f.ShowsErrors →
    file.toList <:+: (f.failure dir (.table (pathIn dir file) fault)).text.toList

/-- The command writes what there is to write about a dictionary, and reports what there is to find
in it, each finding on a line of its own. -/
structure Outcome.Declares (o : Outcome) (scope : String) (d : Dictionary) : Prop where
  code : o.code = 0
  output : o.output = d.counts.summary ++ "\n" ++ Declaration.text scope d.schema
  unlogged : o.unlogged = (d.schema.findings ++ d.schema.validate).map .finding
  lines : (o.unlogged.flatMap fun notice => linesIn notice.text) =
    (d.schema.findings ++ d.schema.validate).map Finding.message

/-- Two outcomes are the same but for what was logged. -/
structure Outcome.AgreesWith (o o' : Outcome) : Prop where
  code : o.code = o'.code
  output : o.output = o'.output
  unlogged : o.unlogged = o'.unlogged

theorem isOneLine_of_firstFault? {openFile : Opener} {dir file : String} {fault : Fault}
    (h : firstFault? openFile dir tableFiles = some (file, fault)) : IsOneLine file := by
  obtain ⟨other, hmem, hfault⟩ := List.exists_of_findSome?_eq_some h
  obtain ⟨_, -, he⟩ := Option.map_eq_some_iff.mp hfault
  have hfiles : ∀ name ∈ tableFiles, IsOneLine name := by decide
  exact (Prod.mk.inj he).1 ▸ hfiles other hmem

theorem exists_pathIn_eq_append (dir file : String) :
    ∃ before, pathIn dir file = before ++ file := by
  unfold pathIn
  split_ifs
  · exact ⟨"", String.empty_append.symm⟩
  · exact ⟨dir, rfl⟩
  · exact ⟨dir ++ "/", rfl⟩

theorem standard_showsErrors : standard.ShowsErrors := by
  intro doing before part after cause hpart
  have htext : standard.failureText doing (before ++ part ++ after) cause =
      ("Error: " ++ doing ++ "\n\nCaused by:\n" ++ ("    " ++ "0" ++ ": ")) ++
        hanging "       " (before ++ part ++ after) ++ ("\n" ++ causeText "1" cause) := by
    simp only [standard, failureText, causeText, String.append_assoc]
  rw [htext, String.toList_append, String.toList_append]
  exact (isInfix_hanging _ _ _ hpart).trans (List.infix_append _ _ _)

/-- A name without a line feed is shown even if the directory has one. -/
theorem Frontend.ShowsErrors.isInfix_failure {f : Frontend} (hf : f.ShowsErrors)
    {dir file : String} (fault : Fault) (h : IsOneLine file) :
    file.toList <:+: (f.failure dir (.table (pathIn dir file) fault)).text.toList := by
  obtain ⟨before, hpath⟩ := exists_pathIn_eq_append dir file
  have hmessage : (LoadError.table (pathIn dir file) fault).message =
      "failed to read table " ++ before ++ file ++ (": " ++ fault.message) := by
    -- opened as it stands, like the message of a finding
    delta LoadError.message
    simp only [hpath, String.append_assoc]
  rw [Frontend.failure, Notice.text, hmessage]
  exact hf _ _ _ _ _ h

section Run

variable {f : Frontend} {openFile : Opener} {settings : Settings} {spec? : Option String}

@[simp] theorem filter_logged (texts : List String) :
    (texts.map Notice.logged).filter (!·.isLogged) = [] := by
  rw [List.filter_map]
  simp [Function.comp_def, Notice.isLogged]

@[simp] theorem filter_warnings : (f.warnings settings spec?).filter (!·.isLogged) = [] := by
  unfold Frontend.warnings
  split
  · rfl
  · exact filter_logged _

@[simp] theorem filter_logNotices (events : List Log.Event) :
    (f.logNotices settings spec? events).filter (!·.isLogged) = [] := by
  unfold Frontend.logNotices
  split
  · rfl
  · exact filter_logged _

@[simp] theorem filter_findings (findings : List Finding) :
    (findings.map Notice.finding).filter (!·.isLogged) = findings.map .finding := by
  rw [List.filter_map]
  simp [Function.comp_def, Notice.isLogged]

variable (f spec?) in
theorem run_of_error {e : LoadError} (h : Dictionary.load openFile settings.dir = .error e) :
    (f.run openFile settings spec?).code = 1 ∧ (f.run openFile settings spec?).output = "" ∧
      (f.run openFile settings spec?).unlogged = [f.failure settings.dir e] := by
  simp only [Frontend.run, h, Outcome.unlogged, List.filter_append, filter_warnings,
    filter_logNotices, List.nil_append, true_and]
  rfl

variable (f spec?) in
theorem run_of_ok {d : Dictionary} (h : Dictionary.load openFile settings.dir = .ok d) :
    (f.run openFile settings spec?).code = 0 ∧
      (f.run openFile settings spec?).output = outputFor settings.scope d ∧
      (f.run openFile settings spec?).unlogged = (allFindings d.schema).map .finding := by
  simp only [Frontend.run, h, Outcome.unlogged, List.filter_append, filter_warnings,
    filter_logNotices, filter_findings, List.nil_append, List.append_nil, true_and]

/-- A run gives up at the first table that cannot be read, or gets its work done. -/
theorem run_refuses_or_declares (f : Frontend) (openFile : Opener) (settings : Settings)
    (spec? : Option String) :
    match firstFault? openFile settings.dir tableFiles with
    | some (file, fault) => f.Refuses (f.run openFile settings spec?) settings.dir file fault
    | none => ∃ d : Dictionary, d.IsReadAt openFile settings.dir ∧
        (f.run openFile settings spec?).Declares settings.scope d := by
  have hload := Dictionary.load_eq openFile settings.dir
  cases hfirst : firstFault? openFile settings.dir tableFiles with
  | some first =>
    obtain ⟨file, fault⟩ := first
    rw [hfirst] at hload
    obtain ⟨hcode, houtput, hunlogged⟩ := run_of_error f spec? hload
    exact ⟨hcode, houtput, hunlogged,
      fun hf => hf.isInfix_failure fault (isOneLine_of_firstFault? hfirst)⟩
  | none =>
    rw [hfirst] at hload
    obtain ⟨d, hload, hd⟩ := hload
    obtain ⟨hcode, houtput, hunlogged⟩ := run_of_ok f spec? hload
    refine ⟨d, hd, hcode, houtput, hunlogged, ?_⟩
    rw [hunlogged, List.flatMap_map, List.map_eq_flatMap]
    exact List.flatMap_congr fun f hf => linesIn_eq_singleton (hd.isRead.isOneLine_message f hf)

/-- What is logged, and by which log, changes nothing else. -/
theorem run_agreesWith {f' : Frontend} {settings' : Settings}
    (htext : f.failureText = f'.failureText) (hdir : settings.dir = settings'.dir)
    (hscope : settings.scope = settings'.scope) (spec?' : Option String) :
    (f.run openFile settings spec?).AgreesWith (f'.run openFile settings' spec?') := by
  cases hload : Dictionary.load openFile settings.dir with
  | error e =>
    obtain ⟨hcode, houtput, hunlogged⟩ := run_of_error f spec? hload
    obtain ⟨hcode', houtput', hunlogged'⟩ := run_of_error f' spec?' (hdir ▸ hload)
    refine ⟨hcode.trans hcode'.symm, houtput.trans houtput'.symm, ?_⟩
    rw [hunlogged, hunlogged', hdir, Frontend.failure, Frontend.failure, htext]
  | ok d =>
    obtain ⟨hcode, houtput, hunlogged⟩ := run_of_ok f spec? hload
    obtain ⟨hcode', houtput', hunlogged'⟩ := run_of_ok f' spec?' (hdir ▸ hload)
    refine ⟨hcode.trans hcode'.symm, ?_, hunlogged.trans hunlogged'.symm⟩
    rw [houtput, houtput', hscope]

/-- Without a level nothing is logged, whatever the specification says. -/
theorem report_run_of_none (h : settings.logLevel = none) :
    (f.run openFile settings spec?).report = (f.run openFile settings spec?).unlogged := by
  have hwarnings : f.warnings settings spec? = [] := by
    simp only [Frontend.warnings, Frontend.logger?, h, Option.map_none]
  have hlog : ∀ events, f.logNotices settings spec? events = [] := fun events => by
    simp only [Frontend.logNotices, Frontend.logger?, h, Option.map_none]
  unfold Frontend.run
  cases Dictionary.load openFile settings.dir with
  | error e => simp only [hwarnings, hlog]; rfl
  | ok d =>
    simp only [Outcome.unlogged, hwarnings, hlog, List.nil_append, List.append_nil,
      filter_findings]

end Run

/-- Two directories. In one, an entity refers to a struct that does not exist, and a field is
strange; in the other, a table is a directory and others are missing. -/
def twoDirs : FileTree :=
  .dir
    [("d", .dir
        [("Entity.txt", .file "1^4,2^n^5".toUTF8.data.toList), ("EnumEntry.txt", .file []),
          ("Enum.txt", .file []), ("Field.txt", .file "7^\"x\"^8^99^0^0".toUTF8.data.toList),
          ("Struct.txt", .file [])]),
      ("e", .dir [("Entity.txt", .file []), ("EnumEntry.txt", .file []), ("Enum.txt", .dir [])])]

end Command

end WireDictionary
