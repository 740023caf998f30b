import ClusterLaunch.Document.Names
import ClusterLaunch.Json.Record
import ClusterLaunch.Json.Value

/-!
Requests as documents. Leaving out a field that has a default is the same as
giving the default.
-/

namespace ClusterLaunch

open Json

def Json.ofWord32 : Option UInt32 → Json :=
  ofOption fun n => .number n.toNat

def Json.ofText : Option String → Json :=
  ofOption .text

namespace Assignment

def record : Record Assignment where
  types := [String, String]
  fields := .cons (.required "name" readText) (.cons (.required "value" readText) .nil)
  name := "EnvInput"
  build := fun (name, value, _) => .ok ⟨name, value⟩

def toJson (a : Assignment) : Json :=
  .object [("name", .text a.name), ("value", .text a.value)]

end Assignment

namespace Options

/-- An optional field that is unset when it is left out, in an array too. -/
def unset {α : Type} (name : String) (read : Tree → Except Fault α) : Json.Field (Option α) :=
  .defaulted name none (readOptional read)

def record : Record Options where
  types := [Option String, Option UInt32, Option UInt32, Option UInt32, Option String,
    Option String, Option String, Option String, Option String, List String]
  fields :=
    .cons (unset "name" readText) <| .cons (unset "nodes" readWord32) <|
    .cons (unset "tasks" readWord32) <| .cons (unset "cpus_per_task" readWord32) <|
    .cons (unset "memory" readText) <| .cons (unset "max_time" readText) <|
    .cons (unset "partition" readText) <| .cons (unset "reservation" readText) <|
    .cons (unset "account" readText) <| .cons (.defaulted "extra" [] (readList readText)) .nil
  name := "JobOptions"
  build := fun
      (name, nodes, tasks, cpus, memory, time, partition, reservation, account, extra, _) =>
    .ok ⟨name, nodes, tasks, cpus, memory, time, partition, reservation, account, extra⟩

def toJson (o : Options) : Json :=
  .object [("name", ofText o.name), ("nodes", ofWord32 o.nodes), ("tasks", ofWord32 o.tasks),
    ("cpus_per_task", ofWord32 o.cpusPerTask), ("memory", ofText o.memory),
    ("max_time", ofText o.maxTime), ("partition", ofText o.partition),
    ("reservation", ofText o.reservation), ("account", ofText o.account), ("extra", texts o.extra)]

end Options

namespace Order

def record : Record Order where
  types := [Mode, Options, Option UInt64]
  fields :=
    .cons (.defaulted "mode" .batch (readVariant Document.modes)) <|
    .cons (.defaulted "options" {} Options.record.read) <|
    .cons (.defaulted "monitoring_interval_secs" none (readOptional readWord64)) .nil
  name := "JobSettings"
  build := fun (mode, options, poll, _) => .ok ⟨mode, options, poll⟩

def toJson (o : Order) : Json :=
  .object [("mode", .text o.mode.name), ("options", o.options.toJson),
    ("monitoring_interval_secs", ofOption (fun n => .number n.toNat) o.pollSeconds)]

end Order

namespace Request

def record : Record Request where
  types := [String, String, String, String, String, List Assignment, List String, String, Order]
  fields :=
    .cons (.required "operation" readText) <| .cons (.required "deployment_id" readText) <|
    .cons (.required "node_type" readText) <| .cons (.required "node_template" readText) <|
    .cons (.required "primary" readText) <|
    .cons (.defaulted "env_inputs" [] (readList Assignment.record.read)) <|
    .cons (.defaulted "exec_args" [] (readList readText)) <|
    .cons (.required "remote_base_dir" readText) <|
    .cons (.defaulted "job" {} Order.record.read) .nil
  name := "OperationRequest"
  build := fun (operation, deployment, nodeType, template, image, inputs, arguments, directory,
      order, _) =>
    .ok ⟨operation, deployment, nodeType, template, image, inputs, arguments, directory, order⟩

def ofText (text : String) : Except Fault Request :=
  readDocument record.read text

def toJson (r : Request) : Json :=
  .object [("operation", .text r.operation), ("deployment_id", .text r.deployment),
    ("node_type", .text r.nodeType), ("node_template", .text r.template),
    ("primary", .text r.image), ("env_inputs", .array (r.inputs.map Assignment.toJson)),
    ("exec_args", texts r.arguments), ("remote_base_dir", .text r.directory),
    ("job", r.order.toJson)]

end Request

end ClusterLaunch
