import ClusterLaunch.Image
import ClusterLaunch.Json.Record
import ClusterLaunch.Json.Value
import ClusterLaunch.Settings
import ClusterLaunch.Watch

/-!
Settings, watches and origins of images as documents, and the lengths of time in
them. A length of time has no other fields than its two parts.
-/

namespace ClusterLaunch

open Json

namespace Duration

def record : Record Duration where
  types := [UInt64, UInt32]
  fields := .cons (.required "secs" readWord64) (.cons (.required "nanos" readWord32) .nil)
  name := "Duration"
  length := "struct Duration"
  strict := true
  build := fun (seconds, nanos, _) =>
    match ofParts? seconds.toNat nanos.toNat with
    | some length => .ok length
    | none => .error (.mismatch .durationOverflow)

def toJson (d : Duration) : Json :=
  .object [("secs", .number d.seconds.toNat), ("nanos", .number d.nanos.val)]

end Duration

namespace Watch

def record : Record Watch where
  types := [String, String, Duration]
  fields :=
    .cons (.required "deployment_id" readText) <| .cons (.required "job_id" readText) <|
    .cons (.required "poll_interval" Duration.record.read) .nil
  name := "MonitoringHandle"
  build := fun (deployment, jobId, poll, _) => .ok ⟨deployment, jobId, poll⟩

def toJson (w : Watch) : Json :=
  .object [("deployment_id", .text w.deployment), ("job_id", .text w.jobId),
    ("poll_interval", w.poll.toJson)]

end Watch

namespace Settings

def record : Record Settings where
  types := [Duration, String, UInt32, Duration, Option Duration]
  fields :=
    .cons (.required "monitoring_interval" Duration.record.read) <|
    .cons (.required "redirect_prefix" readText) <|
    .cons (.required "job_id_lookup_attempts" readWord32) <|
    .cons (.required "job_id_lookup_delay" Duration.record.read) <|
    .cons (.optional "transport_timeout" Duration.record.read) .nil
  name := "ExecConfig"
  build := fun (poll, lead, attempts, pause, timeout, _) =>
    .ok ⟨poll, lead, attempts, pause, timeout⟩

def toJson (s : Settings) : Json :=
  .object [("monitoring_interval", s.poll.toJson), ("redirect_prefix", .text s.lead),
    ("job_id_lookup_attempts", .number s.attempts.toNat), ("job_id_lookup_delay", s.pause.toJson),
    ("transport_timeout", ofOption Duration.toJson s.timeout)]

end Settings

namespace Image.Origin

def record : Record Origin where
  types := [Option String, Option String]
  fields := .cons (.optional "name" readText) (.cons (.optional "url" readText) .nil)
  name := "RepositoryReference"
  build := fun (name, url, _) => .ok ⟨name, url⟩

def toJson (o : Origin) : Json :=
  .object [("name", ofOption .text o.name), ("url", ofOption .text o.url)]

end Image.Origin

end ClusterLaunch
