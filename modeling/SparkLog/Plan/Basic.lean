import SparkLog.Schema.Field

/-!
# Physical plans

The plan of a query is a tree of operators. An operator has a name, a description, the metrics it
declares, and whatever else the log says about it.
-/

namespace SparkLog

/-- A metric that an operator declares. -/
structure PlanMetric where
  name : String
  accumulator : Int
  type : String
  extras : Fields
  deriving DecidableEq

namespace PlanMetric

/-- The names of the declared fields. -/
def keys : List String := ["name", "accumulatorId", "metricType"]

/-- Read a metric; fields beyond the declared ones are kept. -/
def ofPayload : Payload → Checked PlanMetric
  | .object fields =>
    (fun name accumulator type =>
        { name, accumulator, type, extras := fields.filter fun f => !keys.contains f.1 })
      <$> Schema.required fields "name" Schema.text
      <*> Schema.required fields "accumulatorId" Schema.int
      <*> Schema.withDefault fields "metricType" "sum" Schema.text
  | _ => .fault

/-- The metric as a payload. -/
def toPayload (metric : PlanMetric) : Payload :=
  .object ([("name", .text metric.name), ("accumulatorId", .int metric.accumulator),
    ("metricType", .text metric.type)] ++ metric.extras)

end PlanMetric

/-- A plan: an operator over the plans of its inputs. -/
structure PlanTree where
  name : String
  description : String
  children : List PlanTree
  metadata : Fields
  metrics : List PlanMetric
  extras : Fields

namespace PlanTree

/-- The names of the declared fields. -/
def keys : List String := ["nodeName", "simpleString", "children", "metadata", "metrics"]

mutual

/-- Read a plan; fields beyond the declared ones are kept. A guard against plans that stand inside
each other too deep is left out: a plan is read at any depth. -/
def ofPayload : Payload → Checked PlanTree
  | .object fields =>
    (fun name description children metadata metrics =>
        { name, description, children, metadata, metrics
          extras := fields.filter fun f => !keys.contains f.1 })
      <$> Schema.required fields "nodeName" Schema.text
      <*> Schema.withDefault fields "simpleString" "" Schema.text
      <*> childrenOf fields
      <*> Schema.withDefault fields "metadata" [] Schema.object
      <*> Schema.withDefault fields "metrics" [] (Schema.listOf PlanMetric.ofPayload)
  | _ => .fault

/-- The inputs that the fields of an operator name; none where the field is absent. -/
def childrenOf : List (String × Payload) → Checked (List PlanTree)
  | [] => .ok []
  | (key, p) :: rest => if key = "children" then treesOf p else childrenOf rest

/-- Read a list of plans. -/
def treesOf : Payload → Checked (List PlanTree)
  | .list items => trees items
  | _ => .fault

/-- Read plans one by one; the faults of all are added. -/
def trees : List Payload → Checked (List PlanTree)
  | [] => .ok []
  | p :: rest => (List.cons <$> ofPayload p) <*> trees rest

end

mutual

/-- The plan as a payload, defaults filled in. -/
def toPayload : PlanTree → Payload
  | ⟨name, description, children, metadata, metrics, extras⟩ =>
    .object ([("nodeName", .text name), ("simpleString", .text description),
      ("children", .list (payloads children)), ("metadata", .object metadata),
      ("metrics", .list (metrics.map PlanMetric.toPayload))] ++ extras)

/-- The plans of a list as payloads. -/
def payloads : List PlanTree → List Payload
  | [] => []
  | plan :: rest => toPayload plan :: payloads rest

end

end PlanTree

namespace Payload

mutual

/-- The payload with null for every number that an exchange document cannot hold. -/
def exchangeable : Payload → Payload
  | .float .nan => .null
  | .float (.infinite _) => .null
  | .list items => .list (exchangeableItems items)
  | .object fields => .object (exchangeableFields fields)
  | other => other

/-- The items of a list, made exchangeable. -/
def exchangeableItems : List Payload → List Payload
  | [] => []
  | p :: rest => exchangeable p :: exchangeableItems rest

/-- The fields of an object, made exchangeable. -/
def exchangeableFields : List (String × Payload) → List (String × Payload)
  | [] => []
  | (key, p) :: rest => (key, exchangeable p) :: exchangeableFields rest

end

end Payload

/-- What two plans have in common when they are the same exchange: everything that the log says
about them, written as an exchange document. -/
def PlanTree.signature (plan : PlanTree) : Payload :=
  plan.toPayload.exchangeable

end SparkLog
