import ClusterLaunch.CommandLine.Program
import ClusterLaunch.Proofs.Document
import ClusterLaunch.Proofs.Files
import ClusterLaunch.Proofs.Launch.Commands
import ClusterLaunch.Proofs.Launch.Outcome
import ClusterLaunch.Proofs.Log

/-!
The program as it is seen from outside: its status, what it prints and what it sends.
With arguments that can be read and the log off, it ends well exactly when the operation
behind its task does. It then prints the product of that operation, all of it and nothing
else; otherwise it prints nothing. Only a dispatch sends anything, and not before all
that it needs has been read and the command has been put together.
-/

namespace ClusterLaunch

open Json

/-- The variables give the interval between two looks at a job in whole seconds. -/
theorem Settings.poll_ofVariables {env : String → Option String} {s : Settings}
    (h : ofVariables env = .ok s) : ∃ seconds, s.poll = .ofSeconds seconds := by
  obtain ⟨poll, -, h⟩ := bind_eq_ok_iff.mp h
  obtain ⟨attempts, -, h⟩ := bind_eq_ok_iff.mp h
  obtain ⟨pause, -, h⟩ := bind_eq_ok_iff.mp h
  obtain ⟨timeout, -, h⟩ := bind_eq_ok_iff.mp h
  obtain rfl := Except.ok.inj h
  cases poll with
  | none => exact ⟨5, rfl⟩
  | some n => exact ⟨.ofNat n, rfl⟩

namespace CommandLine

variable {σ : Type} {w : World σ} {state : σ}

/-! What a launch needs. -/

/-- What a launch needs can be read: a request in a file, the settings in the variables, and
the declarations in a file, if one is named; otherwise nothing is declared. -/
structure World.Reads (w : World σ) (request : String) (declarations : Option String)
    (r : Request) (s : Settings) (d : Declarations) : Prop where
  request : ∃ text, w.files.Holds request text ∧ Request.ofText text = .ok r
  settings : Settings.ofVariables w.environment = .ok s
  declared : ∀ path, declarations = some path → w.files.Declares path d
  undeclared : declarations = none → d = {}

section

variable {request : String} {declarations : Option String} {r : Request} {s : Settings}
  {d : Declarations}

theorem World.request_eq_ok_iff : w.request request = .ok r ↔
    ∃ text, w.files.Holds request text ∧ Request.ofText text = .ok r := by
  unfold World.request
  simp only [← Files.text_eq_ok_iff]
  cases w.files.text request with
  | error fault => simp
  | ok text => cases hread : Request.ofText text <;> simp [hread]

theorem World.settings_eq_ok_iff :
    w.settings = .ok s ↔ Settings.ofVariables w.environment = .ok s := by
  unfold World.settings
  cases Settings.ofVariables w.environment <;> simp

theorem World.declarations_eq_ok_iff : w.declarations declarations = .ok d ↔
    (∀ path, declarations = some path → w.files.Declares path d) ∧
      (declarations = none → d = {}) := by
  cases declarations with
  | none => simp [World.declarations, eq_comm]
  | some path =>
      simp only [World.declarations, ← Files.declarations_eq_ok_iff]
      cases hread : w.files.declarations path <;> simp [hread]

/-- What a launch needs is there just when all of it can be read. -/
theorem World.supplies_eq_ok_iff :
    w.supplies request declarations = .ok ⟨r, s, d⟩ ↔ w.Reads request declarations r s d := by
  constructor
  · intro h
    obtain ⟨_, hrequest, h⟩ := bind_eq_ok_iff.mp h
    obtain ⟨_, hsettings, h⟩ := bind_eq_ok_iff.mp h
    obtain ⟨_, hdeclarations, h⟩ := bind_eq_ok_iff.mp h
    cases h
    obtain ⟨hdeclared, hundeclared⟩ := World.declarations_eq_ok_iff.mp hdeclarations
    exact ⟨World.request_eq_ok_iff.mp hrequest, World.settings_eq_ok_iff.mp hsettings,
      hdeclared, hundeclared⟩
  · rintro ⟨hrequest, hsettings, hdeclared, hundeclared⟩
    have hdeclarations := World.declarations_eq_ok_iff.mpr ⟨hdeclared, hundeclared⟩
    simp only [World.supplies, World.request_eq_ok_iff.mpr hrequest,
      World.settings_eq_ok_iff.mpr hsettings, hdeclarations]
    rfl

end

/-! What an operation comes to. -/

inductive Product
  | image (uri : String)
  | preview (p : Preview)
  | job (watch : Watch)

/-- The operation behind a task succeeds with a product. An image is resolved against the
registry that the address stands for. A request is previewed or launched by what has been
declared, searching the queue as the settings say; the counters start at zero. -/
inductive Task.Yields (w : World σ) (state : σ) : Task → Product → Prop
  | resolve {image : String} {address : Option String} {uri : String}
      (hresolved : Image.resolve image ⟨address.map fun _ => "cli", address⟩ = .ok uri) :
      Yields w state (.resolve image address) (.image uri)
  | compose {request : String} {declarations : Option String} {r : Request} {s : Settings}
      {d : Declarations} {p : Preview} (hreads : w.Reads request declarations r s d)
      (hcomposed :
        let l : Launcher σ :=
          ⟨.ofCatalogue (.ofDeclarations d), w.transport none s.timeout, .queue (.ofSettings s), s⟩
        (l.preview w.draws r).1 = .ok p) :
      Yields w state (.compose request declarations) (.preview p)
  | dispatch {request : String} {declarations destination : Option String} {r : Request}
      {s : Settings} {d : Declarations} {watch : Watch}
      (hreads : w.Reads request declarations r s d)
      (hlaunched :
        let l : Launcher σ := ⟨.ofCatalogue (.ofDeclarations d),
          w.transport destination s.timeout, .queue (.ofSettings s), s⟩
        (l.launch w.draws r {} state).1.answer = .ok watch) :
      Yields w state (.dispatch request declarations destination) (.job watch)

/-- What is printed of a product: the name of an image as it is, and of everything else one
object, with each of its members in a line of its own. -/
def Product.text : Product → String
  | .image uri => uri ++ "\n"
  | .preview p =>
      "\x7b\n" ++ ",\n".intercalate
        ["  \"command\": " ++ (Json.text p.submission.command).compress,
          "  \"image_uri\": " ++ (Json.text p.container.uri).compress,
          "  \"mode\": " ++ if p.submission.mode = .batch then "\"batch\"" else "\"interactive\"",
          "  \"redirect_file\": " ++ match p.submission.capture with
            | some file => (Json.text file).compress
            | none => "null"] ++ "\n\x7d\n"
  | .job watch =>
      "\x7b\n" ++ ",\n".intercalate
        ["  \"deployment_id\": " ++ (Json.text watch.deployment).compress,
          "  \"job_id\": " ++ (Json.text watch.jobId).compress,
          "  \"poll_interval_secs\": " ++ Text.decimal watch.poll.seconds.toNat] ++ "\n\x7d\n"

/-- The names in what is printed need no escapes. -/
theorem quote_names : ∀ name ∈ ["command", "image_uri", "mode", "redirect_file", "deployment_id",
    "job_id", "poll_interval_secs", "batch", "interactive"],
    Json.quote name = '"' :: name.toList ++ ['"'] := by
  decide

theorem printed_previewSummary (p : Preview) :
    printed (previewSummary p) = (Product.preview p).text := by
  have hnames := quote_names
  simp only [List.forall_mem_cons] at hnames
  apply String.toList_inj.mp
  cases hmode : p.submission.mode <;> cases hcapture : p.submission.capture <;>
    simp [printed, previewSummary, pretty, spread, spreadMembers, compress, compact, newline,
      ofText, ofOption, Product.text, Mode.name, hmode, hcapture, hnames]

theorem printed_watchSummary (watch : Watch) :
    printed (watchSummary watch) = (Product.job watch).text := by
  have hnames := quote_names
  simp only [List.forall_mem_cons] at hnames
  apply String.toList_inj.mp
  simp [printed, watchSummary, pretty, spread, spreadMembers, compress, compact, newline,
    Product.text, Text.decimal, hnames]

theorem originOf_eq (address : Option String) :
    originOf address = ⟨address.map fun _ => "cli", address⟩ := by
  cases address <;> rfl

/-- A task that yields a product answers with what is printed of it. -/
theorem Task.Yields.answer_eq {task : Task} {product : Product}
    (h : task.Yields w state product) :
    (task.carryOut w state).answer = .ok product.text := by
  cases h with
  | resolve hresolved =>
      simp only [carryOut, resolveImage, originOf_eq, hresolved, Product.text]
  | compose hreads hcomposed =>
      simp only [carryOut, composeCommand, World.supplies_eq_ok_iff.mpr hreads, World.launcher,
        hcomposed, printed_previewSummary]
  | dispatch hreads hlaunched =>
      simp only [carryOut, dispatchRequest, World.supplies_eq_ok_iff.mpr hreads, World.launcher,
        hlaunched, printed_watchSummary]

/-- A task that answers at all yields a product. -/
theorem Task.exists_yields {task : Task} {output : String}
    (h : (task.carryOut w state).answer = .ok output) : ∃ product, task.Yields w state product := by
  cases task with
  | resolve image address =>
      cases hresolved : Image.resolve image (originOf address) with
      | error failure => simp [carryOut, resolveImage, hresolved] at h
      | ok uri => exact ⟨_, .resolve (originOf_eq address ▸ hresolved)⟩
  | compose request declarations =>
      cases hsupplies : w.supplies request declarations with
      | error complaint => simp [carryOut, composeCommand, hsupplies] at h
      | ok s =>
          cases hcomposed : ((w.launcher s none).preview w.draws s.request).1 with
          | error failure => simp [carryOut, composeCommand, hsupplies, hcomposed] at h
          | ok p => exact ⟨_, .compose (World.supplies_eq_ok_iff.mp hsupplies) hcomposed⟩
  | dispatch request declarations destination =>
      cases hsupplies : w.supplies request declarations with
      | error complaint => simp [carryOut, dispatchRequest, hsupplies] at h
      | ok s =>
          cases hlaunched :
              ((w.launcher s destination).launch w.draws s.request {} state).1.answer with
          | error failure => simp [carryOut, dispatchRequest, hsupplies, hlaunched] at h
          | ok watch => exact ⟨_, .dispatch (World.supplies_eq_ok_iff.mp hsupplies) hlaunched⟩

/-! What is read back from it. -/

def previewRecord : Record (String × Submission) where
  types := [String, String, Mode, Option String]
  fields :=
    .cons (.required "command" readText) <| .cons (.required "image_uri" readText) <|
    .cons (.required "mode" (readVariant Document.modes)) <|
    .cons (.required "redirect_file" (readOptional readText)) .nil
  name := "Preview"
  strict := true
  build := fun (command, uri, mode, capture, _) => .ok (uri, ⟨mode, command, capture⟩)

/-- Reads what is printed of a launched job: the watch on it, in whole seconds. -/
def watchRecord : Record Watch where
  types := [String, String, UInt64]
  fields :=
    .cons (.required "deployment_id" readText) <| .cons (.required "job_id" readText) <|
    .cons (.required "poll_interval_secs" readWord64) .nil
  name := "Watch"
  strict := true
  build := fun (deployment, jobId, seconds, _) => .ok ⟨deployment, jobId, .ofSeconds seconds⟩

theorem read_previewSummary (p : Preview) :
    previewRecord.read (previewSummary p).tree = .ok (p.container.uri, p.submission) :=
  previewRecord.read_written (by decide)
    (.cons (recovers_text p.submission.command) <| .cons (recovers_text p.container.uri) <|
      .cons (recovers_mode p.submission.mode) <|
      .cons (recovers_ofText p.submission.capture) .nil) rfl

theorem read_watchSummary {watch : Watch} {seconds : UInt64}
    (hpoll : watch.poll = .ofSeconds seconds) :
    watchRecord.read (watchSummary watch).tree = .ok watch := by
  refine watchRecord.read_written (by decide)
    (.cons (recovers_text watch.deployment) <| .cons (recovers_text watch.jobId) <|
      .cons (recovers_word64 watch.poll.seconds) .nil) ?_
  obtain ⟨deployment, jobId, poll⟩ := watch
  cases hpoll
  rfl

/-- A text says all of a product: it is what is printed of it, and nothing is lost in it. -/
structure Product.SaidBy (product : Product) (text : String) : Prop where
  printed : text = product.text
  preview : ∀ p, product = .preview p →
    readDocument previewRecord.read text = .ok (p.container.uri, p.submission)
  job : ∀ watch, product = .job watch → readDocument watchRecord.read text = .ok watch

/-- A launched job is watched at whole seconds: those of its request or of a variable. -/
theorem poll_of_launch {l : Launcher σ} {draws : Draws} {r : Request} {watch : Watch}
    (hlaunched : (l.launch draws r {} state).1.answer = .ok watch)
    (hsettings : Settings.ofVariables w.environment = .ok l.settings) :
    ∃ seconds, watch.poll = .ofSeconds seconds := by
  obtain ⟨ending, answer, hends⟩ := l.exists_ends draws r state
  obtain rfl : answer = .ok watch := (hends.answer_eq {}).symm.trans hlaunched
  rw [hends.poll_eq]
  cases hseconds : r.order.pollSeconds with
  | some seconds => exact ⟨seconds, by simp [Job.build, hseconds]⟩
  | none =>
      obtain ⟨seconds, hpoll⟩ := Settings.poll_ofVariables hsettings
      exact ⟨seconds, by simp [Job.build, hseconds, hpoll]⟩

theorem Task.Yields.saidBy {task : Task} {product : Product} (h : task.Yields w state product) :
    product.SaidBy product.text := by
  cases h with
  | resolve => exact ⟨rfl, fun _ hp => (nomatch hp), fun _ hwatch => (nomatch hwatch)⟩
  | compose =>
      refine ⟨rfl, fun p hp => ?_, fun _ hwatch => (nomatch hwatch)⟩
      cases hp
      rw [← printed_previewSummary]
      exact (readDocument_pretty_line _ _).trans (read_previewSummary _)
  | dispatch hreads hlaunched =>
      obtain ⟨seconds, hpoll⟩ := poll_of_launch hlaunched hreads.settings
      refine ⟨rfl, fun _ hp => (nomatch hp), fun watch hwatch => ?_⟩
      cases hwatch
      rw [← printed_watchSummary]
      exact (readDocument_pretty_line _ _).trans (read_watchSummary hpoll)

/-! What is sent. -/

/-- What a task may send, and what this may leave of the transport's state: nothing but a
dispatch sends anything, and it does so only after its request, its settings and its
declarations have been read and the command, which it sends first, has been composed. -/
def Task.Sends (w : World σ) (state : σ) (sent : List String) (after : σ) : Task → Prop
  | .resolve _ _ | .compose _ _ => sent = [] ∧ after = state
  | .dispatch request declarations destination =>
      sent = [] ∧ after = state ∨
        ∃ r s d p, w.Reads request declarations r s d ∧
          (let l : Launcher σ := ⟨.ofCatalogue (.ofDeclarations d),
            w.transport destination s.timeout, .queue (.ofSettings s), s⟩
          (l.preview w.draws r).1 = .ok p) ∧
          sent.head? = some p.submission.command ∧
          after = (w.transport destination s.timeout).afterAll sent state

theorem commands_notes (s : Supplies) (path : Option String) : (s.notes path).commands = [] := by
  simp [Supplies.notes]

theorem sends_dispatch (w : World σ) (request : String) (declarations destination : Option String)
    (state : σ) :
    let done := dispatchRequest w request declarations destination state
    (Task.dispatch request declarations destination).Sends w state done.trail.commands
      done.state := by
  intro done
  cases hsupplies : w.supplies request declarations with
  | error complaint =>
      left
      simp [done, dispatchRequest, hsupplies]
  | ok s =>
      have hreads : w.Reads request declarations s.request s.settings s.declarations :=
        World.supplies_eq_ok_iff.mp hsupplies
      have hlaunch : done.trail.commands =
            ((w.launcher s destination).launch w.draws s.request {} state).1.trail.commands ∧
          done.state = ((w.launcher s destination).launch w.draws s.request {} state).1.state := by
        cases hanswer :
            ((w.launcher s destination).launch w.draws s.request {} state).1.answer <;>
          simp [done, dispatchRequest, hsupplies, hanswer, commands_notes]
      rw [hlaunch.1, hlaunch.2]
      cases hcomposed : ((w.launcher s destination).preview w.draws s.request).1 with
      | error early => exact .inl (Launcher.launch_sends_nothing {} state hcomposed)
      | ok p =>
          obtain ⟨hrun, c, hc, rfl⟩ := Launcher.preview_eq_ok hcomposed
          obtain ⟨n, hsent, hafter, -⟩ := Launcher.launch_sends w.draws {} state hrun hc
          refine .inr ⟨_, _, _, _, hreads, hcomposed, ?_, hafter⟩
          rw [hsent, List.head?_cons]

theorem Task.sends (w : World σ) (task : Task) (state : σ) :
    let done := task.carryOut w state
    task.Sends w state done.trail.commands done.state := by
  cases task with
  | resolve image address => exact ⟨by simp [carryOut, resolveImage], rfl⟩
  | compose request declarations =>
      cases hsupplies : w.supplies request declarations with
      | error complaint => simp [Sends, carryOut, composeCommand, hsupplies]
      | ok s => simp [Sends, carryOut, composeCommand, hsupplies, commands_notes]
  | dispatch request declarations destination =>
      exact sends_dispatch w request declarations destination state

/-! The run as a whole. -/

theorem Invocation.run_of_ok {i : Invocation} {output : String}
    (hoff : ∀ level, (Log.Filter.ofVariables w.environment level).Silent) (m : Moment)
    (h : (i.task.carryOut w state).answer = .ok output) :
    (i.run w state).status = 0 ∧ (i.run w state).text m = output := by
  simp [Invocation.run, h, Run.text, Log.Line.ofTrail_of_silent (hoff _)]

theorem Invocation.run_of_error {i : Invocation} {complaint : Complaint}
    (hoff : ∀ level, (Log.Filter.ofVariables w.environment level).Silent) (m : Moment)
    (h : (i.task.carryOut w state).answer = .error complaint) :
    (i.run w state).status = 1 ∧ (i.run w state).text m = "" := by
  simp [Invocation.run, h, Run.text, Log.Line.ofTrail_of_silent (hoff _)]

theorem Invocation.state_run (w : World σ) (i : Invocation) (state : σ) :
    (i.run w state).state = (i.task.carryOut w state).state := by
  cases h : (i.task.carryOut w state).answer <;> simp [Invocation.run, h]

/-- A run with arguments that say what to do, while the log is off. Its status is zero
exactly when the operation behind its task succeeds, and what it prints then says all of
the operation's product and nothing else. In every other case its status is one, and it
prints nothing. It sends what `Task.Sends` allows. -/
theorem run_task (w : World σ) (arguments : List String) (state : σ) (m : Moment)
    {i : Invocation}
    (husage : Invocation.ofArguments (w.environment "SLURMEXEC_SSH") arguments = .ok i)
    (hoff : ∀ level, (Log.Filter.ofVariables w.environment level).Silent) :
    let r := run w arguments state
    (r.status = 0 ↔ ∃ product, i.task.Yields w state product) ∧
      (∀ product, i.task.Yields w state product → product.SaidBy (r.text m)) ∧
      (r.status ≠ 0 → r.status = 1 ∧ r.text m = "") ∧
      i.task.Sends w state (i.task.carryOut w state).trail.commands r.state := by
  intro r
  have hrun : r = i.run w state := by
    simp only [r, run, destinationVariable, husage]
  rw [hrun]
  refine ⟨?_, ?_, ?_, ?_⟩
  · constructor
    · intro hstatus
      cases hanswer : (i.task.carryOut w state).answer with
      | ok output => exact Task.exists_yields hanswer
      | error complaint =>
          rw [(Invocation.run_of_error hoff m hanswer).1] at hstatus
          cases hstatus
    · rintro ⟨product, hyields⟩
      exact (Invocation.run_of_ok hoff m hyields.answer_eq).1
  · intro product hyields
    rw [(Invocation.run_of_ok hoff m hyields.answer_eq).2]
    exact hyields.saidBy
  · intro hstatus
    cases hanswer : (i.task.carryOut w state).answer with
    | ok output => exact absurd (Invocation.run_of_ok hoff m hanswer).1 hstatus
    | error complaint => exact Invocation.run_of_error hoff m hanswer
  · rw [i.state_run w state]
    exact i.task.sends w state

/-- A request in a file is launched, with a registry that another file declares: the status is
zero, and what is printed says which job it has become. Where that other file is missing the
status is one, and nothing is printed or sent. -/
theorem run_task_dispatch :
    let request := "[\"" ++ Operation.run ++
      "\", \"dep\", \"Type\", \"Job\", \"tool.img\", [], [], \"/work\"]"
    let declarations := "[[], [[\"dep\", \"hub\", \"hub.example\"]]]"
    let w : World (List (Except Refusal String)) :=
      { environment := fun name => if name = "SLURMEXEC_LOG" then some "off" else none
        files := fun path =>
          if path = "r.json" then .ok (Text.Octets.encode request)
          else if path = "d.json" then .ok (Text.Octets.encode declarations)
          else .error .missing
        transport := fun _ _ => .scripted
        draws := ⟨⟨0⟩, ⟨0⟩, ⟨0⟩⟩ }
    let arguments (path : String) := ["dispatch", "-r", "r.json", "--repositories", path]
    let i (path : String) : Invocation := ⟨false, false, .dispatch "r.json" (some path) none⟩
    let watch : Watch := ⟨"dep", "42", .ofSeconds 5⟩
    let answers := [.ok "Submitted batch job 42"]
    let launched := run w (arguments "d.json") answers
    let failed := run w (arguments "e.json") answers
    (∀ path ∈ ["d.json", "e.json"],
        Invocation.ofArguments (w.environment "SLURMEXEC_SSH") (arguments path) = .ok (i path)) ∧
      (∀ level, (Log.Filter.ofVariables w.environment level).Silent) ∧
      launched.status = 0 ∧ (Product.job watch).SaidBy (launched.text ⟨0⟩) ∧
      failed.status = 1 ∧ failed.text ⟨0⟩ = "" ∧ failed.state = answers := by
  intro request declarations w arguments i watch answers launched failed
  have husage : ∀ path ∈ ["d.json", "e.json"],
      Invocation.ofArguments (w.environment "SLURMEXEC_SSH") (arguments path) = .ok (i path) := by
    decide +kernel
  have hoff (level : Level) : (Log.Filter.ofVariables w.environment level).Silent := by
    rw [Log.Filter.ofVariables_off rfl]
    exact Log.Filter.silent_off
  obtain ⟨hlaunched, hsaid, -⟩ :=
    run_task w (arguments "d.json") answers ⟨0⟩ (husage _ (by decide)) hoff
  obtain ⟨hfailed, -, hsilent, hsends⟩ :=
    run_task w (arguments "e.json") answers ⟨0⟩ (husage _ (by decide)) hoff
  have hreads : w.Reads "r.json" (some "d.json")
      ⟨Operation.run, "dep", "Type", "Job", "tool.img", [], [], "/work", {}⟩ {}
      ⟨[], [⟨"dep", "hub", "hub.example"⟩]⟩ := by
    refine ⟨⟨request, rfl, ?_⟩, rfl, ?_, nofun⟩
    · decide +kernel
    · rintro path ⟨⟩
      exact ⟨declarations, rfl, by decide +kernel⟩
  have hyields : (i "d.json").task.Yields w answers (.job watch) :=
    .dispatch hreads (by decide +kernel)
  -- without the declarations there is nothing that a launch could go by
  have hmissing : ∀ {r s d}, ¬ w.Reads "r.json" (some "e.json") r s d := by
    intro r s d h
    obtain ⟨text, hfile, -⟩ := h.declared "e.json" rfl
    cases hfile
  have hstatus : failed.status ≠ 0 := by
    intro hzero
    obtain ⟨product, hproduct⟩ := hfailed.mp hzero
    cases hproduct with
    | dispatch hother => exact hmissing hother
  refine ⟨husage, hoff, hlaunched.mpr ⟨_, hyields⟩, hsaid _ hyields, (hsilent hstatus).1,
    (hsilent hstatus).2, ?_⟩
  rcases hsends with ⟨-, hstate⟩ | ⟨r, s, d, p, hother, -⟩
  · exact hstate
  · exact absurd hother hmissing

end CommandLine

end ClusterLaunch
