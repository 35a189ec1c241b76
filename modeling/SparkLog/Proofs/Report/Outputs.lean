import SparkLog.Report.Files
import SparkLog.Proofs.Keyed

/-!
# Files that a profile writes

A profile writes the report, and for each application its plan descriptions and, if asked for, the
drawings of its plans (`outputs`). Each step of the writing that is not stopped puts its files in
(`Writing.Puts`), in the place of what was there. So when the writing is through, its outputs are on
the disk, each written over what was there (`write_profile_outputs`).
-/

namespace SparkLog.Report

variable {settings : Settings} {analyses : List Analysis} {disk : Disk}

/-! ## Outputs -/

/-- The name of the file with the plan descriptions of an application. -/
def descriptionName (application : String) : String :=
  "planDescriptions-" ++ application

/-- The name of the file with the drawing of a query. -/
def drawingName (application : String) (query : Int) : String :=
  application ++ "-query-" ++ Decimal.intText query ++ ".dot"

/-- The drawings of an application, by query. -/
def drawings (directory : FilePath) (analysis : Analysis) : List (FilePath × String) :=
  let store := analysis.store
  (sortByKeys (fun entry => [entry.1]) store.graphs.entries).map fun (query, graph) =>
    (directory.below (drawingName store.applicationId query),
      Dot.document graph query store.applicationId store.largestValues.entries)

/-- The path of the plan descriptions of an application. -/
def descriptionPath (settings : Settings) (application : String) : FilePath :=
  (FilePath.ofText settings.directory).below (descriptionName application)

/-- The files that are written for an application. -/
def applicationOutputs (settings : Settings) (analysis : Analysis) : List (FilePath × String) :=
  (descriptionPath settings analysis.store.applicationId, planTexts analysis.store) ::
    if settings.graphs then drawings ((FilePath.ofText settings.directory).below "dot") analysis
    else []

/-- The files that a profile writes, in the order in which it does so. -/
def outputs (settings : Settings) (analyses : List Analysis) (report : String) :
    List (FilePath × String) :=
  ((FilePath.ofText settings.directory).below "profiling_report.log", report) ::
    analyses.flatMap (applicationOutputs settings)

/-- What is put into the files of a disk by writing outputs. -/
def placed (outputs : List (FilePath × String)) : List (FilePath × String) :=
  outputs.map fun (path, text) => (path.place, text)

/-! ## Steps of the writing -/

/-- A file that is written takes the place of what was there. -/
theorem write_files {path : FilePath} {text : String} {later : Disk}
    (h : disk.write path text = .ok later) :
    later.files = disk.files.insert path.place text := by
  unfold Disk.write at h
  split at h
  · cases h
  · split at h
    · cases h
    · split at h
      · cases h
      · cases h
        rfl

/-- Making a directory leaves the files alone. -/
theorem make_directory_files {path : FilePath} {later : Disk}
    (h : disk.makeDirectory path = .ok later) : later.files = disk.files := by
  unfold Disk.makeDirectory at h
  split at h
  · cases h
  · split at h
    · cases h
    · cases h
      rfl

namespace Writing

variable {writing middle later : Writing} {written others : List (FilePath × String)}

/-- A writing went on to a later one by writing files, unless that was stopped. -/
def Puts (writing later : Writing) (written : List (FilePath × String)) : Prop :=
  later.failure = none → writing.failure = none ∧
    later.paths = writing.paths ++ written.map (·.1.text) ∧
    later.disk.files = writing.disk.files.overrideBy (· == ·) (placed written)

/-- Files are written one part after the other. -/
theorem Puts.trans (h : writing.Puts middle written) (h' : middle.Puts later others) :
    writing.Puts later (written ++ others) := by
  intro hdone
  obtain ⟨hmiddle, hpaths', hfiles'⟩ := h' hdone
  obtain ⟨hstart, hpaths, hfiles⟩ := h hmiddle
  refine ⟨hstart, ?_, ?_⟩
  · rw [hpaths', hpaths, List.map_append, List.append_assoc]
  · rw [hfiles', hfiles, placed, placed, placed, List.map_append, Keyed.override_by_append]

/-- A step that was not stopped was taken. -/
theorem and_then_done {next : Disk → Except Failure Disk}
    (h : (writing.andThen next).failure = none) :
    writing.failure = none ∧ ∃ disk, next writing.disk = .ok disk ∧
      writing.andThen next = { writing with disk } := by
  unfold andThen at h ⊢
  split at h
  · rename_i hfailure
    simp [hfailure] at h
  · rename_i hnone
    cases hnext : next writing.disk with
    | ok disk => exact ⟨hnone, disk, rfl, rfl⟩
    | error failure => simp [hnext] at h

/-- Making a directory writes no file. -/
theorem puts_make_directory (path : FilePath) : writing.Puts (writing.makeDirectory path) [] := by
  intro hdone
  obtain ⟨hstart, disk, hdisk, hafter⟩ := and_then_done hdone
  rw [makeDirectory, hafter]
  exact ⟨hstart, by simp, make_directory_files hdisk⟩

/-- A path that is reported stops nothing. -/
theorem report_failure (path : FilePath) : (writing.report path).failure = writing.failure := by
  unfold report
  split <;> simp [*]

/-- A file that was written has a text, which takes the place of what was there. -/
theorem write_done {path : FilePath} {result : Except Failure String}
    (h : (writing.write path result).failure = none) :
    writing.failure = none ∧ ∃ text disk, result = .ok text ∧
      writing.write path result = { writing with disk } ∧
      disk.files = writing.disk.files.insert path.place text := by
  -- The file is opened before its text is there, so it is empty for a while.
  obtain ⟨hopened, disk, hdisk, hafter⟩ := and_then_done h
  obtain ⟨hstart, opened, hopen, hbefore⟩ := and_then_done hopened
  rw [hbefore] at hafter hdisk
  have hwritten : writing.write path result = { writing with disk } := by
    rw [write, hbefore]
    exact hafter
  cases result with
  | error failure => cases hdisk
  | ok text =>
      refine ⟨hstart, text, disk, rfl, hwritten, ?_⟩
      have hput : opened.write path text = .ok disk := hdisk
      rw [write_files hput, write_files hopen]
      exact Keyed.insert_by_twice (beq_self_eq_true path.place) writing.disk.files "" text

/-- Writing a file and reporting it puts its text in. -/
theorem puts_write (path : FilePath) (text : String) :
    writing.Puts ((writing.write path (.ok text)).report path) [(path, text)] := by
  intro hdone
  rw [report_failure] at hdone
  obtain ⟨hstart, written, disk, hwritten, hafter, hfiles⟩ := write_done hdone
  obtain rfl := Except.ok.inj hwritten
  rw [hafter, report]
  simp only [hstart]
  exact ⟨trivial, rfl, hfiles⟩

/-- If writing each item puts its files in, writing items one after the other puts in those of
all. -/
theorem puts_fold {α : Type} {write : Writing → α → Writing} {out : α → List (FilePath × String)}
    (h : ∀ (before : Writing) (item : α), before.Puts (write before item) (out item))
    (items : List α) : writing.Puts (items.foldl write writing) (items.flatMap out) := by
  induction items generalizing writing with
  | nil => exact fun hdone => ⟨hdone, by simp, rfl⟩
  | cons item items ih => exact (h writing item).trans ih

/-- The drawing of a query, with its path. -/
def drawing (directory : FilePath) (analysis : Analysis) (entry : Int × PlanGraph) :
    FilePath × String :=
  (directory.below (drawingName analysis.store.applicationId entry.1),
    Dot.document entry.2 entry.1 analysis.store.applicationId
      analysis.store.largestValues.entries)

/-- Writing drawings puts them in. -/
theorem puts_drawings (directory : FilePath) (analysis : Analysis) :
    writing.Puts (writeDrawings analysis directory writing) (drawings directory analysis) := by
  have hdrawings : drawings directory analysis =
      [] ++ (sortByKeys (fun entry => [entry.1]) analysis.store.graphs.entries).flatMap fun entry =>
        [drawing directory analysis entry] := List.map_eq_flatMap
  have hwriting : writeDrawings analysis directory writing =
      (sortByKeys (fun entry => [entry.1]) analysis.store.graphs.entries).foldl
        (fun before entry =>
          (before.write (drawing directory analysis entry).1
            (.ok (drawing directory analysis entry).2)).report (drawing directory analysis entry).1)
        (writing.makeDirectory directory) := rfl
  rw [hdrawings, hwriting]
  refine (puts_make_directory directory).trans (puts_fold (fun before entry => ?_) _)
  exact puts_write (drawing directory analysis entry).1 (drawing directory analysis entry).2

/-- Writing the files of an application puts them in. -/
theorem puts_application (settings : Settings) (analysis : Analysis) :
    writing.Puts
      (writeApplication settings (FilePath.ofText settings.directory) writing analysis)
      (applicationOutputs settings analysis) := by
  have hdescription := (puts_make_directory (FilePath.ofText settings.directory)).trans
    (@puts_write (writing.makeDirectory (FilePath.ofText settings.directory))
      (descriptionPath settings analysis.store.applicationId) (planTexts analysis.store))
  unfold writeApplication applicationOutputs
  split
  · exact hdescription.trans (puts_drawings _ analysis)
  · exact hdescription

/-- Writing the files of applications puts them in, one application after the other. -/
theorem puts_applications (settings : Settings) (analyses : List Analysis) :
    writing.Puts
      (analyses.foldl (writeApplication settings (FilePath.ofText settings.directory)) writing)
      (analyses.flatMap (applicationOutputs settings)) :=
  puts_fold (fun _ analysis => puts_application settings analysis) analyses

end Writing

/-- When a profile was written, its report could be formed, and its outputs were put in. -/
theorem write_profile_outputs (h : (writeProfile settings analyses disk).failure = none) :
    ∃ report, profile analyses settings.rows = .ok report ∧
      (writeProfile settings analyses disk).paths =
        (outputs settings analyses report).map (·.1.text) ∧
      (writeProfile settings analyses disk).disk.files =
        disk.files.overrideBy (· == ·) (placed (outputs settings analyses report)) := by
  have hstarted := (Writing.puts_applications settings analyses h).1
  rw [Writing.report_failure] at hstarted
  obtain ⟨-, report, -, hreport, -⟩ := Writing.write_done hstarted
  refine ⟨report, hreport, ?_⟩
  have hputs : ({ disk } : Writing).Puts (writeProfile settings analyses disk)
      (outputs settings analyses report) := by
    unfold writeProfile
    rw [hreport]
    exact (Writing.puts_make_directory _).trans
      ((Writing.puts_write _ report).trans (Writing.puts_applications settings analyses))
  exact (hputs h).2

end SparkLog.Report
