import ClusterLaunch.Document.Request
import ClusterLaunch.Document.Settings
import ClusterLaunch.Launcher

/-!
What is shown of a launch that is being prepared: the job, its container and its
submission.
-/

namespace ClusterLaunch

open Json

def Container.toJson (c : Container) : Json :=
  .object [("command", .text c.verb.name), ("exec", .text c.exec), ("image_name", .text c.image),
    ("image_uri", .text c.uri)]

def Job.toJson (job : Job) : Json :=
  .object [("mode", .text job.mode.name), ("id", ofText job.id), ("name", .text job.name),
    ("monitoring_interval", job.poll.toJson), ("inputs", .array (job.inputs.map Assignment.toJson)),
    ("outputs", texts job.outputs), ("exec_args", texts job.arguments),
    ("options", job.options.toJson), ("remote_base_dir", .text job.directory)]

def Submission.members (s : Submission) : List (String × Json) :=
  [("mode", .text s.mode.name), ("command", .text s.command), ("redirect_file", ofText s.capture)]

def Preview.toJson (p : Preview) : Json :=
  .object (("job", p.job.toJson) :: ("container", p.container.toJson) :: p.submission.members)

def Detail.toJson : Detail → Json
  | .text value => .text value
  | .number value => .number value

def Detail.members (fields : List (String × Detail)) : Json :=
  .object (fields.map fun (name, detail) => (name, detail.toJson))

end ClusterLaunch
