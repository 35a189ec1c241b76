import Mathlib.Data.List.Nodup
import SparkLog.Batch
import SparkLog.Proofs.Decimal.Digits
import SparkLog.Proofs.Derivation.Analysis
import SparkLog.Proofs.Derivation.Correlation
import SparkLog.Proofs.Ingestion.Additions
import SparkLog.Proofs.Rearrangement.Sorting
import SparkLog.Proofs.Report.Outputs
import SparkLog.Proofs.Report.Places

/-!
# Profiles of several applications

The files of an application are named by its identifier. Where identifiers have no slash, the names
lead below the directory of the profile (`output_paths`), and they tell the identifier
(`application_of_names`). So applications with identifiers of their own have files of their own
(`outputs_nodup`), and of applications with the same identifier the last one has its plan
descriptions kept (`last_written_description`): `write_profile_files` says what is found in the
files of a profile, and `write_profile_overwrites` shows what is lost.
-/

namespace SparkLog

/-! ## Analysed applications -/

namespace Store

/-- No two plan descriptions are of the same query, and no two graphs. -/
structure PlansApart (store : Store) : Prop where
  planTexts : store.planTexts.Apart (· == ·)
  graphs : store.graphs.Apart (· == ·)

/-- An event keeps plan descriptions and graphs apart. -/
theorem PlansApart.apply {store : Store} (h : store.PlansApart) (settings : Settings)
    (event : Event) : (store.apply settings event).1.PlansApart := by
  rw [apply_eq_absorb]
  refine ⟨?_, h.graphs⟩
  show (if _ then store.planTexts else store.planTexts.overrideBy _ _).Apart _
  split
  · exact h.planTexts
  · exact h.planTexts.override_by _

/-- Derivation keeps plan descriptions and graphs apart. -/
theorem PlansApart.derive {store derived : Store} (h : store.PlansApart)
    (hderive : store.derive = .ok derived) : derived.PlansApart := by
  obtain ⟨-, rfl⟩ := derive_eq_ok_iff.mp hderive
  rw [analyze_eq]
  exact ⟨h.planTexts, h.graphs.override_by _⟩

end Store

namespace Analysis

/-- An application was analysed: from given records, or from the text of a log. -/
def IsResult (analysis : Analysis) : Prop :=
  ∃ settings index, (∃ records, ofRecords settings index records = .ok analysis) ∨
    ∃ text, ofLog settings index text = .ok analysis

/-- The store of an application is derived from what was taken in. -/
theorem of_intake_store {settings : Settings} {index : Int} {reads : ReadCounts}
    {outcome : Changed Intake} {analysis : Analysis}
    (h : ofIntake settings index reads outcome = .ok analysis) :
    outcome.1.store.derive = .ok analysis.store := by
  obtain ⟨intake, _ | failure⟩ := outcome
  · cases hderive : intake.store.derive with
    | error failure => simp [ofIntake, hderive, bind, Except.bind] at h
    | ok store =>
        simp only [ofIntake, hderive, bind, Except.bind, pure, Except.pure] at h
        cases h
        rfl
  · cases h

/-- The store of an application is derived from the events of its log. -/
theorem of_log_store {settings : Settings} {index : Int} {text : String} {analysis : Analysis}
    (h : ofLog settings index text = .ok analysis) :
    (Intake.events settings {} (readLog settings.strict text).events).1.store.derive =
      .ok analysis.store := by
  unfold ofLog at h
  cases hevents : Intake.events settings {} (readLog settings.strict text).events with
  | mk intake failure =>
      simp only [hevents] at h
      have hstore := of_intake_store h
      exact hstore

/-- The plan descriptions of an analysed application are apart, and so are its graphs. -/
theorem IsResult.plans_apart {analysis : Analysis} (h : analysis.IsResult) :
    analysis.store.PlansApart := by
  have hempty : ({} : Store).PlansApart := ⟨.nil, .nil⟩
  obtain ⟨settings, index, ⟨records, hanalysis⟩ | ⟨text, hanalysis⟩⟩ := h
  · have hrecords : (Intake.records settings {} records).1.store.PlansApart :=
      Intake.records_store_invariant (fun _ event hstore => hstore.apply settings event) hempty
        records
    exact hrecords.derive (of_intake_store hanalysis)
  · have hevents :
        (Intake.events settings {} (readLog settings.strict text).events).1.store.PlansApart :=
      Intake.events_store_invariant (fun _ event hstore => hstore.apply settings event) hempty
        (readLog settings.strict text).events
    exact hevents.derive (of_log_store hanalysis)

end Analysis

/-- The analyses of a batch are those of its sources, whatever its first index. -/
theorem Batch.results_from (settings : Settings) (index : Nat) (sources : List Source) :
    ∀ analysis ∈ (analyzeFrom settings index sources).analyses, analysis.IsResult := by
  induction sources generalizing index with
  | nil => simp [analyzeFrom]
  | cons source rest ih =>
      intro analysis hmem
      rw [analyzeFrom, cons] at hmem
      split at hmem
      · rename_i found hfound
        obtain rfl | hrest := List.mem_cons.mp hmem
        · cases source with
          | records events => exact ⟨settings, index, .inl ⟨events, hfound⟩⟩
          | log name text =>
              cases text with
              | error failure => cases hfound
              | ok text => exact ⟨settings, index, .inr ⟨text, hfound⟩⟩
        · exact ih _ analysis hrest
      · exact ih _ analysis hmem

/-- The analyses of a batch are those of its sources. -/
theorem Batch.results (settings : Settings) (sources : List Source) :
    ∀ analysis ∈ (analyze settings sources).analyses, analysis.IsResult :=
  results_from settings 1 sources

namespace Report

variable {settings : Settings} {analyses : List Analysis} {disk : Disk} {report : String}

/-! ## Names of files -/

/-- The name of a file with plan descriptions ends in the identifier of the application. -/
theorem description_name_chars (application : String) :
    (descriptionName application).toList = "planDescriptions-".toList ++ application.toList :=
  String.toList_append

/-- The plan descriptions of an application whose identifier has no slash have a name. -/
theorem is_name_description {application : String} (h : '/' ∉ application.toList) :
    FilePath.IsName (descriptionName application) := by
  have hchars := description_name_chars application
  refine ⟨?_, ?_, ?_, ?_⟩
  · rw [hchars]
    simp [h]
  all_goals
    intro he
    simp [he] at hchars

/-- A drawing of an application whose identifier has no slash has a name. -/
theorem is_name_drawing {application : String} (h : '/' ∉ application.toList) (query : Int) :
    FilePath.IsName (drawingName application query) := by
  have hlong : 2 < (drawingName application query).toList.length := by
    simp [drawingName]
    omega
  refine ⟨?_, ?_, ?_, ?_⟩
  · simp [drawingName, Decimal.intText, h, Decimal.not_mem_int_chars]
  all_goals
    intro he
    simp [he] at hlong

/-- Drawings of different queries have different names, and so have drawings of different
applications. -/
theorem drawing_name_inj {application other : String} {query query' : Int} :
    drawingName application query = drawingName other query' ↔
      application = other ∧ query = query' := by
  -- Behind the last of a certain letter stands the number of the query, and in front of it the
  -- application.
  have hbehind (application : String) (query : Int) :
      (drawingName application query).toList.reverse.takeWhile (· != 'y') =
        ("-" ++ Decimal.intText query ++ ".dot").toList.reverse := by
    have hname : (drawingName application query).toList.reverse =
        ("-" ++ Decimal.intText query ++ ".dot").toList.reverse ++
          'y' :: ("reuq-".toList ++ application.toList.reverse) := by
      simp [drawingName]
    have hother : ∀ c ∈ ("-" ++ Decimal.intText query ++ ".dot").toList.reverse,
        (c != 'y') = true := by
      intro c hmem
      rw [bne_iff_ne]
      rintro rfl
      simp [Decimal.intText, Decimal.not_mem_int_chars] at hmem
    rw [hname, List.takeWhile_append_of_pos hother]
    simp
  refine ⟨fun h => ?_, fun h => by rw [h.1, h.2]⟩
  have htail := (hbehind application query).symm.trans (h ▸ hbehind other query')
  have hquery : query = query' := by
    have htext : Decimal.intText query = Decimal.intText query' := by
      rw [List.reverse_inj, String.toList_inj, String.append_left_inj,
        String.append_right_inj] at htail
      exact htail
    exact Decimal.int_text_injective htext
  refine ⟨?_, hquery⟩
  rw [hquery, drawingName, drawingName, String.append_left_inj, String.append_left_inj,
    String.append_left_inj] at h
  exact h

/-- The names below the directory that lead to the files of an application. -/
def applicationNames (settings : Settings) (analysis : Analysis) : List (List String) :=
  [descriptionName analysis.store.applicationId] ::
    if settings.graphs then
      (sortByKeys (fun entry => [entry.1]) analysis.store.graphs.entries).map fun entry =>
        ["dot", drawingName analysis.store.applicationId entry.1]
    else []

/-- The names below the directory that lead to the files of a profile. -/
def outputNames (settings : Settings) (analyses : List Analysis) : List (List String) :=
  ["profiling_report.log"] :: analyses.flatMap (applicationNames settings)

/-- The names that lead to the files of an application: the plan descriptions, and the drawings if
they are asked for. -/
theorem mem_application_names {analysis : Analysis} {names : List String} :
    names ∈ applicationNames settings analysis ↔
      names = [descriptionName analysis.store.applicationId] ∨
        settings.graphs = true ∧ ∃ entry ∈ analysis.store.graphs.entries,
          names = ["dot", drawingName analysis.store.applicationId entry.1] := by
  rw [applicationNames, List.mem_cons]
  split <;> rename_i hgraphs <;>
    simp [hgraphs, sortByKeys, (List.mergeSort_perm _ _).mem_iff, eq_comm]

/-- A description lies below the directory under its name. -/
theorem description_path {application : String} (h : '/' ∉ application.toList) :
    descriptionPath settings application =
      (FilePath.ofText settings.directory).extend [descriptionName application] :=
  FilePath.below_name (is_name_description h)

/-- A drawing lies one directory further below. -/
theorem drawing_path {directory : FilePath} {application : String} (h : '/' ∉ application.toList)
    (query : Int) : (directory.below "dot").below (drawingName application query) =
      directory.extend ["dot", drawingName application query] := by
  have hdot : FilePath.IsName "dot" := by decide
  rw [FilePath.below_name hdot, FilePath.below_name (is_name_drawing h query)]
  simp [FilePath.extend]

/-- The files of an application whose identifier has no slash lie below the directory under their
names. -/
theorem application_paths {analysis : Analysis}
    (h : '/' ∉ analysis.store.applicationId.toList) :
    (applicationOutputs settings analysis).map Prod.fst =
      (applicationNames settings analysis).map (FilePath.ofText settings.directory).extend := by
  rw [applicationOutputs, applicationNames, description_path h]
  split
  · simp [drawings, Function.comp_def, drawing_path h]
  · rfl

/-- The files of a profile lie below the directory under their names, if no identifier of an
application has a slash. -/
theorem output_paths (h : ∀ analysis ∈ analyses, '/' ∉ analysis.store.applicationId.toList) :
    (outputs settings analyses report).map Prod.fst =
      (outputNames settings analyses).map (FilePath.ofText settings.directory).extend := by
  have hreport : FilePath.IsName "profiling_report.log" := by decide
  rw [outputs, outputNames, List.map_cons, List.map_cons, FilePath.below_name hreport,
    List.map_flatMap, List.map_flatMap]
  exact congrArg _ (List.flatMap_congr fun analysis hmem => application_paths (h analysis hmem))

/-- The names of files are names. -/
theorem is_name_of_output (h : ∀ analysis ∈ analyses, '/' ∉ analysis.store.applicationId.toList)
    {names : List String} (hnames : names ∈ outputNames settings analyses) :
    names ≠ [] ∧ ∀ name ∈ names, FilePath.IsName name := by
  obtain rfl | hnames := List.mem_cons.mp hnames
  · refine ⟨by simp, fun name hname => ?_⟩
    obtain rfl := List.mem_singleton.mp hname
    decide
  · obtain ⟨analysis, hmem, hnames⟩ := List.mem_flatMap.mp hnames
    obtain rfl | ⟨-, entry, -, rfl⟩ := mem_application_names.mp hnames
    · refine ⟨by simp, fun name hname => ?_⟩
      obtain rfl := List.mem_singleton.mp hname
      exact is_name_description (h analysis hmem)
    · refine ⟨by simp, fun name hname => ?_⟩
      obtain rfl | hname := List.mem_cons.mp hname
      · decide
      · obtain rfl := List.mem_singleton.mp hname
        exact is_name_drawing (h analysis hmem) entry.1

/-- The names of a file tell the identifier of the application that it is written for. -/
theorem application_of_names {analysis other : Analysis} {names : List String}
    (h : names ∈ applicationNames settings analysis)
    (h' : names ∈ applicationNames settings other) :
    analysis.store.applicationId = other.store.applicationId := by
  obtain rfl | ⟨-, entry, -, rfl⟩ := mem_application_names.mp h
  · obtain hsame | ⟨-, entry', -, hsame⟩ := mem_application_names.mp h'
    · exact (String.append_right_inj _).mp (List.singleton_inj.mp hsame)
    · simp at hsame
  · obtain hsame | ⟨-, entry', -, hsame⟩ := mem_application_names.mp h'
    · simp at hsame
    · simp only [List.cons.injEq, and_true, true_and] at hsame
      exact (drawing_name_inj.mp hsame).1

/-- The files of an application have names of their own. -/
theorem application_names_nodup {analysis : Analysis} (h : analysis.store.PlansApart) :
    (applicationNames settings analysis).Nodup := by
  have hqueries : ((sortByKeys (fun entry => [entry.1]) analysis.store.graphs.entries).map
      Prod.fst).Nodup :=
    ((List.mergeSort_perm _ _).map Prod.fst).nodup_iff.mpr h.graphs.nodup
  rw [applicationNames, List.nodup_cons]
  split
  · refine ⟨by simp, ?_⟩
    have hnames := hqueries.map (f := fun query =>
      ["dot", drawingName analysis.store.applicationId query]) fun query query' hsame => by
        simp only [List.cons.injEq, and_true, true_and] at hsame
        exact (drawing_name_inj.mp hsame).2
    rwa [List.map_map] at hnames
  · exact ⟨by simp, List.nodup_nil⟩

/-- Of applications with identifiers of their own, all files have names of their own. -/
theorem output_names_nodup (hplans : ∀ analysis ∈ analyses, analysis.store.PlansApart)
    (hids : (analyses.map (·.store.applicationId)).Nodup) :
    (outputNames settings analyses).Nodup := by
  rw [outputNames, List.nodup_cons]
  constructor
  · intro hmem
    obtain ⟨analysis, -, hnames⟩ := List.mem_flatMap.mp hmem
    obtain hsame | ⟨-, entry, -, hsame⟩ := mem_application_names.mp hnames
    · have hchars := congrArg String.toList (List.singleton_inj.mp hsame)
      simp [description_name_chars] at hchars
    · simp at hsame
  · refine List.nodup_flatMap.mpr
      ⟨fun analysis hmem => application_names_nodup (hplans analysis hmem), ?_⟩
    refine (List.pairwise_map.mp hids).imp fun hne names hnames hnames' => ?_
    exact hne (application_of_names hnames hnames')

/-- Of applications with identifiers of their own, none with a slash, all files have paths of their
own, and these lead to places of their own. -/
theorem outputs_nodup (hplans : ∀ analysis ∈ analyses, analysis.store.PlansApart)
    (hslash : ∀ analysis ∈ analyses, '/' ∉ analysis.store.applicationId.toList)
    (hids : (analyses.map (·.store.applicationId)).Nodup) :
    ((outputs settings analyses report).map (·.1.place)).Nodup ∧
      ((outputs settings analyses report).map (·.1.text)).Nodup := by
  have hnames : (outputNames settings analyses).Nodup := output_names_nodup hplans hids
  have hmap {β : Type} (f : FilePath → β) : (outputs settings analyses report).map (f ·.1) =
      (outputNames settings analyses).map
        fun names => f ((FilePath.ofText settings.directory).extend names) := by
    have hpaths := congrArg (List.map f) (@output_paths settings analyses report hslash)
    rwa [List.map_map, List.map_map] at hpaths
  rw [hmap, hmap]
  refine ⟨hnames.map_on fun names hin others hin' hsame => ?_,
    hnames.map_on fun names hin others hin' hsame => ?_⟩
  · exact (FilePath.place_extend_inj (is_name_of_output hslash hin).2
      (is_name_of_output hslash hin').2).mp hsame
  · have hin := is_name_of_output hslash hin
    have hin' := is_name_of_output hslash hin'
    exact (FilePath.text_extend_inj hin.1 hin'.1 (fun name hname => (hin.2 name hname).whole)
      fun name hname => (hin'.2 name hname).whole).mp hsame

/-! ## What is kept -/

/-- The text that was written last to the place of a path. -/
def lastWritten (outputs : List (FilePath × String)) (path : FilePath) : Option String :=
  (outputs.reverse.find? fun output => output.1.place == path.place).map Prod.snd

/-- A file that outputs are put in holds what was written to it last, or else what was in it. -/
theorem find_placed (files : Keyed FilePath String) (outputs : List (FilePath × String))
    (path : FilePath) : (files.overrideBy (· == ·) (placed outputs)).find? path.place =
      (lastWritten outputs path).or (files.find? path.place) := by
  induction outputs using List.reverseRecOn with
  | nil => rfl
  | append_singleton outputs output ih =>
      have hput : files.overrideBy (· == ·) (placed (outputs ++ [output])) =
          (files.overrideBy (· == ·) (placed outputs)).insert output.1.place output.2 := by
        rw [placed, List.map_append, Keyed.override_by_append]
        rfl
      rw [hput, Keyed.find_insert, ih]
      cases hplace : output.1.place == path.place <;>
        simp [lastWritten, hplace]

/-- Outputs with places of their own are all written last. -/
theorem last_written_of_nodup {outputs : List (FilePath × String)}
    (h : (outputs.map (·.1.place)).Nodup) {output : FilePath × String} (hmem : output ∈ outputs) :
    lastWritten outputs output.1 = some output.2 := by
  obtain ⟨found, hfound⟩ : ∃ found, (outputs.reverse.find? fun other =>
      other.1.place == output.1.place) = some found := by
    rw [← Option.isSome_iff_exists, List.find?_isSome]
    exact ⟨output, List.mem_reverse.mpr hmem, beq_self_eq_true _⟩
  have hplace : found.1.place = output.1.place := by
    have hsame := List.find?_some hfound
    exact beq_iff_eq.mp hsame
  have hin := List.mem_reverse.mp (List.mem_of_find?_eq_some hfound)
  rw [lastWritten, hfound, List.inj_on_of_nodup_map h hin hmem hplace]
  rfl

/-- Nothing was written to a place that no output has. -/
theorem last_written_eq_none {outputs : List (FilePath × String)} {path : FilePath}
    (h : ∀ output ∈ outputs, output.1.place ≠ path.place) : lastWritten outputs path = none := by
  have hnone : (outputs.reverse.find? fun output => output.1.place == path.place) = none := by
    simpa using h
  rw [lastWritten, hnone, Option.map_none]

/-- What was written last was so by the later outputs, or by the earlier ones if they did not. -/
theorem last_written_append (outputs others : List (FilePath × String)) (path : FilePath) :
    lastWritten (outputs ++ others) path =
      (lastWritten others path).or (lastWritten outputs path) := by
  rw [lastWritten, lastWritten, lastWritten, List.reverse_append, List.find?_append]
  exact Option.map_or

/-- Names lead to the plan descriptions of an application only if they are those of the file. -/
theorem place_eq_description_iff {application : String} (h : '/' ∉ application.toList)
    {names : List String} (hnames : ∀ name ∈ names, FilePath.IsName name) :
    ((FilePath.ofText settings.directory).extend names).place =
      (descriptionPath settings application).place ↔ names = [descriptionName application] := by
  rw [description_path h, FilePath.place_extend_inj hnames]
  simpa using is_name_description h

/-- For the file with the plan descriptions of an application, an application with the same
identifier writes its own, and others write nothing. -/
theorem last_written_application {analysis : Analysis} {application : String}
    (h : '/' ∉ analysis.store.applicationId.toList) (happlication : '/' ∉ application.toList) :
    lastWritten (applicationOutputs settings analysis) (descriptionPath settings application) =
      if analysis.store.applicationId = application then some (planTexts analysis.store)
      else none := by
  have hdrawings : lastWritten (if settings.graphs then
      drawings ((FilePath.ofText settings.directory).below "dot") analysis else [])
        (descriptionPath settings application) = none := by
    refine last_written_eq_none fun output hmem => ?_
    split at hmem
    · obtain ⟨⟨query, graph⟩, -, rfl⟩ := List.mem_map.mp hmem
      have hdot : FilePath.IsName "dot" := by decide
      have hnames : ∀ name ∈ ["dot", drawingName analysis.store.applicationId query],
          FilePath.IsName name := by
        simpa using ⟨hdot, is_name_drawing h query⟩
      show (((FilePath.ofText settings.directory).below "dot").below
        (drawingName analysis.store.applicationId query)).place ≠ _
      rw [drawing_path h, ne_eq, place_eq_description_iff happlication hnames]
      simp
    · cases hmem
  have hdescription : lastWritten
      [(descriptionPath settings analysis.store.applicationId, planTexts analysis.store)]
        (descriptionPath settings application) =
          if analysis.store.applicationId = application then some (planTexts analysis.store)
          else none := by
    have hplace : (descriptionPath settings analysis.store.applicationId).place =
        (descriptionPath settings application).place ↔
          analysis.store.applicationId = application := by
      rw [description_path h, place_eq_description_iff happlication (by
        simpa using is_name_description h), List.singleton_inj]
      exact String.append_right_inj _
    split <;> rename_i hsame <;> simp [lastWritten, hplace, hsame]
  rw [applicationOutputs, ← List.singleton_append, last_written_append, hdrawings, hdescription,
    Option.none_or]

/-- The plan descriptions that were written last under an identifier are those of the last
application with it. -/
theorem last_written_description
    (h : ∀ analysis ∈ analyses, '/' ∉ analysis.store.applicationId.toList) {application : String}
    (happlication : '/' ∉ application.toList) :
    lastWritten (outputs settings analyses report) (descriptionPath settings application) =
      (analyses.reverse.find? (·.store.applicationId == application)).map (planTexts ·.store) := by
  induction analyses using List.reverseRecOn with
  | nil =>
      have hreport : FilePath.IsName "profiling_report.log" := by decide
      refine last_written_eq_none fun output hmem => ?_
      obtain rfl := List.mem_singleton.mp hmem
      rw [FilePath.below_name hreport, ne_eq, place_eq_description_iff happlication (by
        simpa using hreport), List.singleton_inj]
      intro hsame
      have hchars := congrArg String.toList hsame
      simp [description_name_chars] at hchars
  | append_singleton analyses analysis ih =>
      obtain ⟨hfirst, hlast⟩ := List.forall_mem_append.mp h
      have hsplit : outputs settings (analyses ++ [analysis]) report =
          outputs settings analyses report ++ applicationOutputs settings analysis := by
        simp [outputs]
      rw [hsplit, last_written_append, ih hfirst,
        last_written_application (hlast analysis (List.mem_singleton_self _)) happlication]
      by_cases hsame : analysis.store.applicationId = application <;> simp [hsame]

/-- The plan descriptions of an application are among the outputs. -/
theorem description_mem_outputs {analysis : Analysis} (h : analysis ∈ analyses) :
    (descriptionPath settings analysis.store.applicationId, planTexts analysis.store) ∈
      outputs settings analyses report :=
  List.mem_cons_of_mem _ (List.mem_flatMap.mpr ⟨analysis, h, List.mem_cons_self⟩)

/-- A text describes the plans of a store: by increasing identifiers, the description of each query
stands below its heading. -/
def Describes (text : String) (store : Store) : Prop :=
  ∃ described : List (Int × String), described.Perm store.planTexts.entries ∧
    described.Pairwise (fun a b => a.1 < b.1) ∧
      text = "".intercalate (described.map fun (query, plan) => planHeading query ++ plan)

/-- The plan descriptions of a store describe its plans. -/
theorem plan_texts_describe {store : Store} (h : store.PlansApart) :
    Describes (planTexts store) store :=
  ⟨_, List.mergeSort_perm _ _, sort_by_id_strict h.planTexts.nodup, rfl⟩

/-- When the profile of analysed applications was written, each file holds what was written to it
last. If no identifier of an application has a slash, the plan descriptions under an identifier are
those of the last application with it; and if no two applications have the same identifier, all
paths are different and nothing that was written is lost. -/
theorem write_profile_files (hresults : ∀ analysis ∈ analyses, analysis.IsResult)
    (hdone : (writeProfile settings analyses disk).failure = none) :
    let written := writeProfile settings analyses disk
    let found (path : FilePath) := written.disk.files.find? path.place
    (∀ analysis ∈ analyses, Describes (planTexts analysis.store) analysis.store) ∧
      ∃ report, profile analyses settings.rows = .ok report ∧
        written.paths = (outputs settings analyses report).map (·.1.text) ∧
        (∀ path, found path =
          (lastWritten (outputs settings analyses report) path).or (disk.files.find? path.place)) ∧
        ((∀ analysis ∈ analyses, '/' ∉ analysis.store.applicationId.toList) →
          (∀ analysis ∈ analyses, found (descriptionPath settings analysis.store.applicationId) =
            (analyses.reverse.find? fun other =>
              other.store.applicationId == analysis.store.applicationId).map (planTexts ·.store)) ∧
          ((analyses.map (·.store.applicationId)).Nodup → written.paths.Nodup ∧
            ∀ output ∈ outputs settings analyses report, found output.1 = some output.2)) := by
  intro written found
  have hplans : ∀ analysis ∈ analyses, analysis.store.PlansApart :=
    fun analysis hmem => (hresults analysis hmem).plans_apart
  obtain ⟨report, hreport, hpaths, hfiles⟩ := write_profile_outputs hdone
  have hfound (path : FilePath) : found path =
      (lastWritten (outputs settings analyses report) path).or (disk.files.find? path.place) := by
    show written.disk.files.find? path.place = _
    rw [hfiles, find_placed]
  refine ⟨fun analysis hmem => plan_texts_describe (hplans analysis hmem), report, hreport, hpaths,
    hfound, fun hslash => ⟨fun analysis hmem => ?_, fun hids => ?_⟩⟩
  · have hsome : (analyses.reverse.find? fun other =>
        other.store.applicationId == analysis.store.applicationId).isSome := by
      rw [List.find?_isSome]
      exact ⟨analysis, List.mem_reverse.mpr hmem, beq_self_eq_true _⟩
    rw [hfound, last_written_description hslash (hslash analysis hmem)]
    exact Option.or_of_isSome (by simpa using hsome)
  · obtain ⟨hplaces, htexts⟩ := @outputs_nodup settings analyses report hplans hslash hids
    refine ⟨hpaths ▸ htexts, fun output hmem => ?_⟩
    rw [hfound, last_written_of_nodup hplaces hmem, Option.some_or]

/-- The records of an application with a query whose plan is described. -/
def describedQuery (application plan : String) : List Payload :=
  [ .object
      [ ("Event", .text "SparkListenerApplicationStart"), ("App Name", .text "a"),
        ("App ID", .text application), ("Timestamp", .int 5) ],
    .object
      [ ("Event", .text "org.apache.spark.sql.execution.ui.SparkListenerSQLExecutionStart"),
        ("executionId", .int 3), ("time", .int 10), ("physicalPlanDescription", .text plan),
        ("sparkPlanInfo", .object [("nodeName", .text "Project")]) ] ]

/-- A disk on which plan descriptions were written before. -/
def describedBefore : Disk :=
  .ofFiles [("output/planDescriptions-app", "old")]

/-- Two applications with identifiers of their own keep their plan descriptions, though a file was
there, and their drawings. -/
theorem write_profile_files_apart :
    let analyses := (Batch.analyze {}
      [.records (describedQuery "app" "Scan"), .records (describedQuery "other" "Sort")]).analyses
    let written := writeProfile { graphs := true } analyses describedBefore
    (written.failure = none ∧ analyses.map (·.store.applicationId) = ["app", "other"] ∧
      (∀ analysis ∈ analyses, '/' ∉ analysis.store.applicationId.toList) ∧
      analyses.map (planTexts ·.store) = [planHeading 3 ++ "Scan", planHeading 3 ++ "Sort"] ∧
      written.paths = ["output/profiling_report.log", "output/planDescriptions-app",
        "output/dot/app-query-3.dot", "output/planDescriptions-other",
        "output/dot/other-query-3.dot"]) ∧
      ∀ analysis ∈ analyses, written.disk.files.find?
        (descriptionPath { graphs := true } analysis.store.applicationId).place =
          some (planTexts analysis.store) := by
  intro analyses written
  have hruns : written.failure = none ∧
      analyses.map (·.store.applicationId) = ["app", "other"] ∧
      (∀ analysis ∈ analyses, '/' ∉ analysis.store.applicationId.toList) ∧
      analyses.map (planTexts ·.store) = [planHeading 3 ++ "Scan", planHeading 3 ++ "Sort"] ∧
      written.paths = ["output/profiling_report.log", "output/planDescriptions-app",
        "output/dot/app-query-3.dot", "output/planDescriptions-other",
        "output/dot/other-query-3.dot"] := by
    decide +kernel
  have hresults : ∀ analysis ∈ analyses, analysis.IsResult := Batch.results {} _
  refine ⟨hruns, ?_⟩
  obtain ⟨hdone, hids, hslash, -⟩ := hruns
  -- What is left holds of any analyses with these identifiers, so they are not computed again.
  clear_value analyses
  obtain ⟨-, report, -, -, -, hkept⟩ := write_profile_files hresults hdone
  obtain ⟨-, hall⟩ := (hkept hslash).2 (by rw [hids]; decide)
  intro analysis hmem
  exact hall (descriptionPath { graphs := true } analysis.store.applicationId,
    planTexts analysis.store) (description_mem_outputs hmem)

/-- Of two applications with the same identifier, no file has the plan descriptions of the first
one. -/
theorem write_profile_overwrites :
    let analyses := (Batch.analyze {}
      [.records (describedQuery "app" "Scan"), .records (describedQuery "app" "Sort")]).analyses
    let written := writeProfile {} analyses .empty
    written.failure = none ∧
      analyses.map (planTexts ·.store) = [planHeading 3 ++ "Scan", planHeading 3 ++ "Sort"] ∧
      written.paths = ["output/profiling_report.log", "output/planDescriptions-app",
        "output/planDescriptions-app"] ∧
      written.disk.files.find? (descriptionPath {} "app").place =
        some (planHeading 3 ++ "Sort") ∧
      written.disk.files.values.contains (planHeading 3 ++ "Scan") = false := by
  decide +kernel

end Report

end SparkLog
