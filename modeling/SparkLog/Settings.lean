import SparkLog.Schema.Field

/-!
# Settings

What a run can be told: how many rows a listing prints, whether a bad record stops the run, how an
accelerated run is recognised, and where reports go.
-/

namespace SparkLog

/-- The settings shared by all applications of a run. -/
structure Settings where
  rows : Int := 1000
  strict : Bool := false
  progress : Bool := false
  acceleratorPlugin : String := "com.nvidia.spark.SQLPlugin"
  acceleratorSwitch : String := "spark.rapids.sql.enabled"
  reasonWidth : Int := 100
  skewFactor : Binary64 := Binary64.ofRatio 3 1
  graphs : Bool := false
  workers : Int := 1
  directory : String := "output"
  deriving DecidableEq

namespace Settings

/-- Read an integer that is at least one. -/
def positive (p : Payload) : Checked Int :=
  match Schema.int p with
  | .ok n => if 1 ≤ n then .ok n else .fault
  | .faults n => .faults n

/-- Read settings from their fields; a field that is absent has its default. -/
def ofFields (fields : Fields) : Except Failure Settings :=
  let default : Settings := {}
  Schema.accept "ProfilerConfig" <|
    Settings.mk
      <$> Schema.withDefault fields "num_output_rows" default.rows Schema.int
      <*> Schema.withDefault fields "strict_mode" default.strict Schema.bool
      <*> Schema.withDefault fields "show_progress" default.progress Schema.bool
      <*> Schema.withDefault fields "accelerator_plugin" default.acceleratorPlugin Schema.text
      <*> Schema.withDefault fields "accelerator_enabled_key" default.acceleratorSwitch Schema.text
      <*> Schema.withDefault fields "reason_max_chars" default.reasonWidth Schema.int
      <*> Schema.withDefault fields "skew_factor" default.skewFactor Schema.float
      <*> Schema.withDefault fields "generate_dot" default.graphs Schema.bool
      <*> Schema.withDefault fields "max_workers" default.workers positive
      <*> Schema.withDefault fields "output_dir" default.directory Schema.text

/-- The fields of settings. -/
def fields (settings : Settings) : Fields :=
  [ ("num_output_rows", .int settings.rows),
    ("strict_mode", .bool settings.strict),
    ("show_progress", .bool settings.progress),
    ("accelerator_plugin", .text settings.acceleratorPlugin),
    ("accelerator_enabled_key", .text settings.acceleratorSwitch),
    ("reason_max_chars", .int settings.reasonWidth),
    ("skew_factor", .float settings.skewFactor),
    ("generate_dot", .bool settings.graphs),
    ("max_workers", .int settings.workers),
    ("output_dir", .text settings.directory) ]

end Settings

end SparkLog
