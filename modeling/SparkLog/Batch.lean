import SparkLog.Analysis

/-!
# Batches

Several applications are analysed in one run, numbered from one in the order in which they are
given. An application that cannot be analysed is reported with its failure; the others are not
affected.
-/

namespace SparkLog

/-- Where the events of an application come from: records under a label that follows from the
number of the application, or a named log that could be read or not. -/
inductive Source where
  | records (records : List Payload)
  | log (name : String) (text : Except Failure String)

namespace Source

/-- The label of the source of the application of a number. -/
def label (index : Nat) : Source → String
  | .records _ => "application " ++ Decimal.intText index
  | .log name _ => name

/-- The analysis of the application of a source. -/
def analyze (settings : Settings) (index : Nat) : Source → Except Failure Analysis
  | .records events => Analysis.ofRecords settings index events
  | .log _ text => do Analysis.ofLog settings index (← text)

end Source

/-- An application that could not be analysed. -/
structure SourceFailure where
  index : Nat
  label : String
  failure : Failure

/-- The outcome of a batch, in order of the numbers of applications. -/
structure Batch where
  analyses : List Analysis
  failures : List SourceFailure

namespace Batch

/-- Add the outcome of one more application to the front of a batch. -/
def cons (settings : Settings) (index : Nat) (source : Source) (batch : Batch) : Batch :=
  match source.analyze settings index with
  | .ok analysis => { batch with analyses := analysis :: batch.analyses }
  | .error failure =>
    { batch with failures := { index, label := source.label index, failure } :: batch.failures }

/-- Analyse applications, numbered from `index` on. -/
def analyzeFrom (settings : Settings) : Nat → List Source → Batch
  | _, [] => ⟨[], []⟩
  | index, source :: rest => cons settings index source (analyzeFrom settings (index + 1) rest)

/-- Analyse applications, numbered from one. -/
def analyze (settings : Settings) (sources : List Source) : Batch :=
  analyzeFrom settings 1 sources

end Batch

end SparkLog
