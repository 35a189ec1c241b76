import SparkLog.Plan.Graph

/-!
# Labels of plan nodes

A node is labelled by rules on its description. The rules are independent of each other, so a node
can have several labels, in the order of the rules.
-/

namespace SparkLog

/-- The labels that a rule can give to a node. -/
inductive PlanLabel where
  | datasetOperation
  | potentialIssue
  | unsupported
  deriving DecidableEq

namespace PlanLabel

/-- The name of a label in listings. -/
def name : PlanLabel → String
  | .datasetOperation => "dataset-op"
  | .potentialIssue => "potential-issue"
  | .unsupported => "unsupported-node"

/-- A typed operation on a dataset shows a lambda or an apply method in its description. -/
def isDatasetOperation (description : String) : Bool :=
  Text.contains description "$Lambda$" || Text.endsIn description ".apply"

/-- What may go wrong with a node: a user-defined function hides what it does. -/
def potentialIssue? (description : String) : Option String :=
  if Text.contains description "UDF" then some "UDF" else none

/-- The labels of a description, each with its reason. -/
def ofDescription (description : String) : List (PlanLabel × String) :=
  (if isDatasetOperation description then [(.datasetOperation, "")] else []) ++
    ((potentialIssue? description).toList.map fun reason => (.potentialIssue, reason))

end PlanLabel

end SparkLog
