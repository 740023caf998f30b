import ClusterLaunch.Proofs.CommandLine
import ClusterLaunch.Proofs.Launch.Composed
import ClusterLaunch.Proofs.Lengths
import ClusterLaunch.Proofs.Options
import ClusterLaunch.Proofs.Request

/-!
Numbers in documents are kept as they are. A literal in a request is read only if it is that of
a natural number that its field has room for, and that number is what is submitted, what a job
is watched at, and what is printed. Seconds and nanoseconds are read as the length of time that
they come to, if there is room for its seconds.
-/

namespace ClusterLaunch

open Json

/-! Numbers among options. -/

/-- An option that is a number: its field, the flag that it is passed on with, and its value. -/
structure NumberOption where
  name : String
  index : Nat
  flag : String
  get : Options → Option UInt32
  set : Options → Option UInt32 → Options

namespace NumberOption

def nodes : NumberOption :=
  ⟨"nodes", 1, "nodes", Options.nodes, fun o n => { o with nodes := n }⟩

def tasks : NumberOption :=
  ⟨"tasks", 2, "ntasks", Options.tasks, fun o n => { o with tasks := n }⟩

def cpusPerTask : NumberOption :=
  ⟨"cpus_per_task", 3, "cpus-per-task", Options.cpusPerTask, fun o n => { o with cpusPerTask := n }⟩

def all : List NumberOption :=
  [nodes, tasks, cpusPerTask]

def word (v : NumberOption) (n : Nat) : String :=
  "--" ++ v.flag ++ "=" ++ Text.decimal n

/-- The number is one of the words that the options are rendered to. -/
def ShownIn (v : NumberOption) (n : Nat) (o : Options) : Prop :=
  ∃ before after, o.render = " ".intercalate (before ++ v.word n :: after)

variable {v : NumberOption}

theorem mem_all_iff : v ∈ all ↔ v = nodes ∨ v = tasks ∨ v = cpusPerTask := by
  simp [all]

theorem puts (hv : v ∈ all) :
    Options.record.Puts (Options.unset v.name readWord32) v.index v.set := by
  rcases mem_all_iff.mp hv with rfl | rfl | rfl
  · exact ⟨Options.isOpen, _, _, .there .here, fun _ => rfl, fun _ _ => rfl⟩
  · exact ⟨Options.isOpen, _, _, .there (.there .here), fun _ => rfl, fun _ _ => rfl⟩
  · exact ⟨Options.isOpen, _, _, .there (.there (.there .here)), fun _ => rfl, fun _ _ => rfl⟩

theorem get_set (hv : v ∈ all) (o : Options) (n : Option UInt32) : v.get (v.set o n) = n := by
  rcases mem_all_iff.mp hv with rfl | rfl | rfl <;> rfl

/-- The name that an interactive job is given changes no number. -/
theorem get_optionsOf (hv : v ∈ all) (r : Request) (tag : Tag) :
    v.get (Job.optionsOf r tag) = v.get r.order.options := by
  unfold Job.optionsOf
  rcases mem_all_iff.mp hv with rfl | rfl | rfl <;> split <;> rfl

theorem shownIn_of_get (hv : v ∈ all) {o : Options} {n : UInt32} (h : v.get o = some n) :
    v.ShownIn n.toNat o := by
  have hword : v.word n.toNat ∈ Options.numberFlag v.flag (v.get o) := by
    rw [h]
    exact List.mem_singleton_self _
  have hmem : v.word n.toNat ∈ o.rendered := by
    simp only [Options.rendered, Options.flags, List.mem_append]
    rcases mem_all_iff.mp hv with rfl | rfl | rfl <;> tauto
  obtain ⟨before, after, hwords⟩ := List.append_of_mem hmem
  exact ⟨before, after, by rw [Options.render_eq, hwords]⟩

end NumberOption

/-! Numbers in a request. -/

namespace Order

variable {o : Order} {options : Tree → Tree} {other : Tree}

theorem puts_options :
    record.Puts (.defaulted "options" {} Options.record.read) 1 fun o options =>
      { o with options } :=
  ⟨isOpen, _, _, .there .here, fun _ => rfl, fun _ _ => rfl⟩

theorem puts_pollSeconds :
    record.Puts (.defaulted "monitoring_interval_secs" none (readOptional readWord64)) 2
      fun o pollSeconds => { o with pollSeconds } :=
  ⟨isOpen, _, _, .there (.there .here), fun _ => rfl, fun _ _ => rfl⟩

/-- An order is read with its options exchanged just if these are, and only they differ. -/
theorem read_options (hoptions : Frame "options" 1 options)
    (hread : record.read (options other) = .ok o) :
    Options.record.read other = .ok o.options ∧
      ∀ part, record.read (options part) =
        (Options.record.read part).map fun value => { o with options := value } := by
  obtain ⟨value, hvalue, ho⟩ := puts_options.exists_read hoptions hread
  obtain rfl : value = o.options := congrArg Order.options ho
  exact ⟨hvalue, puts_options.read_eq hoptions hread⟩

end Order

namespace Request

theorem puts_order :
    record.Puts (.defaulted "job" {} Order.record.read) 8 fun r order => { r with order } :=
  ⟨isOpen, _, _,
    .there (.there (.there (.there (.there (.there (.there (.there .here))))))),
    fun _ => rfl, fun _ _ => rfl⟩

inductive OptionPlace (name : String) (index : Nat) : (Tree → Tree) → Prop
  | intro {order options frame : Tree → Tree} (horder : Frame "job" 8 order)
      (hoptions : Frame "options" 1 options) (hframe : Frame name index frame) :
      OptionPlace name index fun part => order (options (frame part))

/-- The places of the number of seconds between two looks at the job. -/
inductive PollPlace : (Tree → Tree) → Prop
  | intro {order frame : Tree → Tree} (horder : Frame "job" 8 order)
      (hframe : Frame "monitoring_interval_secs" 2 frame) : PollPlace fun part => order (frame part)

structure Differs (place : Tree → Tree) (literal : Numeral) (r : Request) (text : String) :
    Prop where
  exists_given : ∃ other given, (place other).IsOf given ∧ ofText given = .ok r
  isOf : (place (.number literal)).IsOf text

variable {place : Tree → Tree} {literal : Numeral} {r s : Request} {text : String}

/-- A request is read with its order exchanged just if the order is, and only that differs. -/
theorem read_order {order : Tree → Tree} (horder : Frame "job" 8 order) {other : Tree}
    (hread : record.read (order other) = .ok r) :
    Order.record.read other = .ok r.order ∧
      ∀ part, record.read (order part) =
        (Order.record.read part).map fun value => { r with order := value } := by
  obtain ⟨value, hvalue, hr⟩ := puts_order.exists_read horder hread
  obtain rfl : value = r.order := congrArg Request.order hr
  exact ⟨hvalue, puts_order.read_eq horder hread⟩

/-- A request is read with an option exchanged just if the option is, and only that differs. -/
theorem OptionPlace.read_eq {α : Type} {field : Json.Field α} {index : Nat}
    {put : Options → α → Options} (hput : Options.record.Puts field index put)
    (h : OptionPlace field.name index place) {other : Tree}
    (hread : record.read (place other) = .ok r) (part : Tree) :
    record.read (place part) = (field.read part).map fun value =>
      { r with order := { r.order with options := put r.order.options value } } := by
  cases h with
  | intro horder hoptions hframe =>
      obtain ⟨horderRead, horderEq⟩ := read_order horder hread
      obtain ⟨hoptionsRead, hoptionsEq⟩ := Order.read_options hoptions horderRead
      rw [horderEq, hoptionsEq, hput.read_eq hframe hoptionsRead]
      cases field.read part <;> rfl

/-- A request is read with the seconds between two looks exchanged just if these are, and only
they differ. -/
theorem PollPlace.read_eq (h : PollPlace place) {other : Tree}
    (hread : record.read (place other) = .ok r) (part : Tree) :
    record.read (place part) = (readOptional readWord64 part).map fun pollSeconds =>
      { r with order := { r.order with pollSeconds } } := by
  cases h with
  | intro horder hframe =>
      obtain ⟨horderRead, horderEq⟩ := read_order horder hread
      rw [horderEq, Order.puts_pollSeconds.read_eq hframe horderRead]
      simp only [Field.defaulted]
      cases readOptional readWord64 part <;> rfl

theorem Differs.exists_read (h : Differs place literal r text) :
    (∃ other, record.read (place other) = .ok r) ∧
      ofText text = record.read (place (.number literal)) := by
  obtain ⟨other, given, hother, hgiven⟩ := h.exists_given
  exact ⟨⟨other, (ofText_of_isOf hother).symm.trans hgiven⟩, ofText_of_isOf h.isOf⟩

/-- A request with a literal for an option is read just if the literal is that of a number
of 32 bits, and then has that number there. -/
theorem Differs.ofText_option {v : NumberOption} (hv : v ∈ NumberOption.all)
    (hplace : OptionPlace v.name v.index place) (h : Differs place literal r text) :
    ofText text = .ok s ↔ literal.IsCount UInt32.size ∧ ∃ n : UInt32, n.toNat = literal.size ∧
      s = { r with order := { r.order with options := v.set r.order.options (some n) } } := by
  obtain ⟨⟨other, hother⟩, htext⟩ := h.exists_read
  have hnumber : (Options.unset v.name readWord32).read (.number literal) =
      (readWord32 (.number literal)).map some := rfl
  rw [htext, hplace.read_eq (NumberOption.puts hv) hother, hnumber, map_eq_ok_iff]
  simp only [map_eq_ok_iff, Numeral.readWord32_eq_ok_iff, exists_exists_and_eq_and, and_assoc,
    exists_and_left, eq_comm (a := s)]

theorem Differs.exists_option_iff {v : NumberOption} (hv : v ∈ NumberOption.all)
    (hplace : OptionPlace v.name v.index place) (h : Differs place literal r text) :
    (∃ s, ofText text = .ok s) ↔ literal.IsCount UInt32.size := by
  simp only [h.ofText_option hv hplace]
  constructor
  · rintro ⟨s, hcount, -⟩
    exact hcount
  · intro hcount
    exact ⟨_, hcount, _, UInt32.toNat_ofNat_of_lt' hcount.lt, rfl⟩

/-- A request with a literal for the seconds between two looks is read just if the literal is that
of a number of 64 bits, and then has that number there. -/
theorem Differs.ofText_poll (hplace : PollPlace place) (h : Differs place literal r text) :
    ofText text = .ok s ↔ literal.IsCount UInt64.size ∧ ∃ n : UInt64, n.toNat = literal.size ∧
      s = { r with order := { r.order with pollSeconds := some n } } := by
  obtain ⟨⟨other, hother⟩, htext⟩ := h.exists_read
  have hnumber : readOptional readWord64 (.number literal) =
      (readWord64 (.number literal)).map some := rfl
  rw [htext, hplace.read_eq hother, hnumber, map_eq_ok_iff]
  simp only [map_eq_ok_iff, Numeral.readWord64_eq_ok_iff, exists_exists_and_eq_and, and_assoc,
    exists_and_left, eq_comm (a := s)]

theorem Differs.exists_poll_iff (hplace : PollPlace place) (h : Differs place literal r text) :
    (∃ s, ofText text = .ok s) ↔ literal.IsCount UInt64.size := by
  simp only [h.ofText_poll hplace]
  constructor
  · rintro ⟨s, hcount, -⟩
    exact hcount
  · intro hcount
    exact ⟨_, hcount, _, UInt64.toNat_ofNat_of_lt' hcount.lt, rfl⟩

end Request

/-! What becomes of them. -/

namespace Submission

/-- A command has the options of its job behind that of the scheduler. -/
theorem exists_detached_eq (c : Container) (job : Job) (options capture : String) :
    ∃ front rest, detached c job options capture =
      front ++ "srun " ++ options ++ " singularity " ++ rest :=
  ⟨Assignment.exports job.inputs, c.verb.name ++ " " ++ " ".intercalate job.arguments ++ " " ++
    c.uri ++ " " ++ c.exec ++ " > " ++ capture ++ " &", by simp only [detached, String.append_assoc]⟩

end Submission

namespace Launcher

variable {σ : Type} {l : Launcher σ} {draws : Draws} {r : Request} {p : Preview} {n : Nat}

/-- The command of a job has its options in it. -/
theorem exists_srun_eq (h : (l.preview draws r).1 = .ok p) :
    ∃ front rest, p.submission.command =
      front ++ "srun " ++ p.job.options.render ++ " singularity " ++ rest := by
  have hjob := job_of_preview h
  obtain ⟨-, c, -, rfl⟩ := preview_eq_ok h
  rw [hjob]
  cases hmode : r.order.mode with
  | batch =>
      rw [submission_of_batch l draws c hmode, Job.options_build_of_batch hmode]
      obtain ⟨rest, hcommand⟩ := Submission.exists_batch_eq c
        (Job.build r l.settings.poll draws.jobTag) r.order.options.render
      exact ⟨_, rest, hcommand⟩
  | interactive =>
      rw [submission_of_interactive l draws c hmode]
      exact Submission.exists_detached_eq c _ _ _

theorem shownIn_of_preview {v : NumberOption} (hv : v ∈ NumberOption.all) {n : UInt32}
    (hn : v.get r.order.options = some n) (h : (l.preview draws r).1 = .ok p) :
    v.ShownIn n.toNat p.job.options := by
  refine NumberOption.shownIn_of_get hv ?_
  rw [job_of_preview h, ← hn]
  exact NumberOption.get_optionsOf hv r draws.jobTag

/-- A launched job is watched every so many seconds as its request says. -/
theorem poll_of_pollSeconds {seconds : UInt64} (hseconds : r.order.pollSeconds = some seconds)
    {counters : Counters} {state : σ} {watch : Watch}
    (h : (l.launch draws r counters state).1.answer = .ok watch) :
    watch.poll = .ofSeconds seconds := by
  obtain ⟨ending, answer, hends⟩ := l.exists_ends draws r state
  obtain rfl : answer = .ok watch := (hends.answer_eq counters).symm.trans h
  rw [hends.poll_eq]
  simp only [Job.build, hseconds]

end Launcher

namespace CommandLine

variable {σ : Type} {w : World σ} {state : σ}

/-- What is printed of a job ends with the seconds between two looks at it. -/
theorem exists_text_eq (watch : Watch) :
    ∃ front, (Product.job watch).text = front ++
      "\"poll_interval_secs\": " ++ Text.decimal watch.poll.seconds.toNat ++ "\n\x7d\n" := by
  refine ⟨"\x7b\n  \"deployment_id\": " ++ (Json.text watch.deployment).compress ++
    ",\n  \"job_id\": " ++ (Json.text watch.jobId).compress ++ ",\n  ", ?_⟩
  rw [← String.toList_inj]
  simp [Product.text]

/-- A dispatch that succeeds prints the seconds between two looks that its request gives. -/
theorem exists_output_eq {path : String} {declarations destination : Option String} {r : Request}
    {seconds : UInt64} {output : String} (hrequest : w.request path = .ok r)
    (hseconds : r.order.pollSeconds = some seconds)
    (h : ((Task.dispatch path declarations destination).carryOut w state).answer = .ok output) :
    ∃ front, output = front ++
      "\"poll_interval_secs\": " ++ Text.decimal seconds.toNat ++ "\n\x7d\n" := by
  obtain ⟨product, hyields⟩ := Task.exists_yields h
  obtain rfl := Except.ok.inj (h.symm.trans hyields.answer_eq)
  cases hyields with
  | dispatch hreads hlaunched =>
      have hread := World.request_eq_ok_iff.mpr hreads.request
      obtain rfl := Except.ok.inj (hrequest.symm.trans hread)
      have hpoll := Launcher.poll_of_pollSeconds hseconds hlaunched
      obtain ⟨front, htext⟩ := exists_text_eq ‹Watch›
      refine ⟨front, htext.trans ?_⟩
      rw [hpoll]
      rfl

theorem request_eq_ok {path text : String} {r : Request} (hfile : w.files.text path = .ok text)
    (hread : Request.ofText text = .ok r) : w.request path = .ok r :=
  World.request_eq_ok_iff.mpr ⟨text, Files.text_eq_ok_iff.mp hfile, hread⟩

end CommandLine

/-! All numbers. -/

namespace Request

open CommandLine

def briefWith (name : String) (part : Json) : Json :=
  briefArray [(name, part)]

def briefPlace (name : String) (part : Tree) : Tree :=
  .array (.ofList (briefItems.map tree ++
    [.object (.ofList ([] ++ (.text (.ok name) (.ok ()), part) :: []))]))

theorem briefPlace_isOf (name : String) (part : Json) :
    (briefPlace name part.tree).IsOf (briefWith name part).compress :=
  briefArray_isOf [(name, part)]

def nodesPlace (part : Tree) : Tree :=
  briefPlace "options" (.object (.ofList ([] ++ (.text (.ok "nodes") (.ok ()), part) :: [])))

theorem nodesPlace_isOf (part : Json) :
    (nodesPlace part.tree).IsOf (briefWith "options" (.object [("nodes", part)])).compress := by
  have h := briefPlace_isOf "options" (.object [("nodes", part)])
  rwa [tree_object] at h

theorem briefOrder : Frame "job" 8 fun part => .array (.ofList (briefItems.map tree ++ [part])) :=
  .item (briefItems.map tree) [] rfl

theorem onlyMember (name : String) (index : Nat) :
    Frame name index fun part =>
      .object (.ofList ([] ++ (.text (.ok name) (.ok ()), part) :: [])) :=
  .member rfl [] []

theorem optionPlace_nodesPlace : OptionPlace "nodes" 1 nodesPlace :=
  .intro briefOrder (onlyMember "options" 1) (onlyMember "nodes" 1)

theorem pollPlace_briefPlace : PollPlace (briefPlace "monitoring_interval_secs") := by
  have hplace := PollPlace.intro briefOrder (onlyMember "monitoring_interval_secs" 2)
  exact hplace

theorem differs_nodes (n : Nat) : Differs nodesPlace (.ofNat n) brief
    (briefWith "options" (.object [("nodes", .number n)])).compress where
  exists_given := ⟨_, _, nodesPlace_isOf .null, readDocument_compress record.read _⟩
  isOf := by
    have h := nodesPlace_isOf (.number n)
    rwa [tree_number] at h

theorem differs_poll (n : Nat) : Differs (briefPlace "monitoring_interval_secs") (.ofNat n) brief
    (briefWith "monitoring_interval_secs" (.number n)).compress where
  exists_given := ⟨_, _, briefPlace_isOf _ .null, readDocument_compress record.read _⟩
  isOf := by
    have h := briefPlace_isOf "monitoring_interval_secs" (.number n)
    rwa [tree_number] at h

def partsOf (seconds nanos : Nat) : Json :=
  .object [("secs", .number seconds), ("nanos", .number nanos)]

theorem parts_partsOf (seconds nanos : Nat) :
    Duration.Parts (.ofNat seconds) (.ofNat nanos) (partsOf seconds nanos).tree := by
  rw [partsOf, tree_object, keyed]
  simp only [List.map_cons, List.map_nil, tree_number]
  exact .secondsFirst rfl rfl

def watchMembers : List (String × Json) :=
  [("deployment_id", .text "d1"), ("job_id", .text "42")]

def watchWith (part : Json) : Json :=
  .object (watchMembers ++ [("poll_interval", part)])

theorem watchWith_isOf (part : Json) :
    (Tree.object (.ofList (keyed watchMembers ++
      (.text (.ok "poll_interval") (.ok ()), part.tree) :: []))).IsOf (watchWith part).compress := by
  have h := tree_isOf_compress (watchWith part)
  rwa [watchWith, tree_object, keyed, List.map_append] at h

/-- No number is changed between a document and what it is for. A literal for the number of nodes,
of tasks or of processors is read just if it is that of a natural number of 32 bits, and the
options in the command of the job then hold that number. A literal for the seconds between two
looks is read just if it is that of a natural number of 64 bits; a job that is launched is then
watched at that many seconds, which are printed. Seconds and nanoseconds in settings and watches
are read as what they come to. -/
theorem numbers_kept :
    (∀ v ∈ NumberOption.all, ∀ {place : Tree → Tree} {literal : Numeral} {r : Request}
      {text : String}, OptionPlace v.name v.index place → Differs place literal r text →
        ((∃ s, ofText text = .ok s) ↔ literal.IsCount UInt32.size) ∧
        ∀ s, ofText text = .ok s → v.ShownIn literal.size s.order.options ∧
          ∀ {σ : Type} (l : Launcher σ) (draws : Draws) (p : Preview),
            (l.preview draws s).1 = .ok p → v.ShownIn literal.size p.job.options ∧
              ∃ front rest, p.submission.command =
                front ++ "srun " ++ p.job.options.render ++ " singularity " ++ rest) ∧
    (∀ {place : Tree → Tree} {literal : Numeral} {r : Request} {text : String},
      PollPlace place → Differs place literal r text →
        ((∃ s, ofText text = .ok s) ↔ literal.IsCount UInt64.size) ∧
        ∀ s, ofText text = .ok s →
          (∀ {σ : Type} (l : Launcher σ) (draws : Draws) (counters : Counters) (state : σ)
            (watch : Watch), (l.launch draws s counters state).1.answer = .ok watch →
              watch.poll.seconds.toNat = literal.size ∧ watch.poll.nanos = 0) ∧
          ∀ {σ : Type} (w : World σ) (path : String) (declarations destination : Option String)
            (state : σ) (output : String), w.files.text path = .ok text →
              ((Task.dispatch path declarations destination).carryOut w state).answer =
                .ok output →
              ∃ front, output = front ++
                "\"poll_interval_secs\": " ++ Text.decimal literal.size ++ "\n\x7d\n") ∧
    (∀ frame, Frame "poll_interval" 2 frame →
      Duration.KeptAt Watch.record.read (fun w poll => { w with poll }) frame) ∧
    ∀ v ∈ LengthSetting.all, ∀ frame, Frame v.name v.index frame →
      Duration.KeptAt Settings.record.read v.set frame := by
  refine ⟨fun v hv place literal r text hplace h => ?_, fun {place literal r text} hplace h => ?_,
    fun frame hframe => Watch.keptAt hframe, fun v hv frame hframe => LengthSetting.keptAt hv hframe⟩
  · refine ⟨h.exists_option_iff hv hplace, fun s hs => ?_⟩
    obtain ⟨-, n, hn, rfl⟩ := (h.ofText_option hv hplace).mp hs
    have hget := NumberOption.get_set hv r.order.options (some n)
    rw [← hn]
    exact ⟨NumberOption.shownIn_of_get hv hget, fun l draws p hp =>
      ⟨Launcher.shownIn_of_preview hv hget hp, Launcher.exists_srun_eq hp⟩⟩
  · refine ⟨h.exists_poll_iff hplace, fun s hs => ?_⟩
    obtain ⟨-, n, hn, rfl⟩ := (h.ofText_poll hplace).mp hs
    rw [← hn]
    refine ⟨fun l draws counters state watch hlaunch => ?_,
      fun w path declarations destination state output hfile houtput =>
        exists_output_eq (request_eq_ok hfile hs) rfl houtput⟩
    rw [Launcher.poll_of_pollSeconds rfl hlaunch]
    exact ⟨rfl, rfl⟩

/-- The largest numbers that there is room for are read, and those after them are not; a length
of time whose nanoseconds come to a second more is read if there is room for that. -/
theorem numbers_kept_at_limits :
    (∃ s, ofText (briefWith "options" (.object [("nodes", .number 4294967295)])).compress = .ok s ∧
      NumberOption.nodes.ShownIn 4294967295 s.order.options) ∧
    (¬∃ s, ofText (briefWith "options" (.object [("nodes", .number 4294967296)])).compress =
      .ok s) ∧
    (∃ s, ofText (briefWith "monitoring_interval_secs"
        (.number 18446744073709551615)).compress = .ok s ∧
      ∀ (l : Launcher Unit) (draws : Draws) (watch : Watch),
        (l.launch draws s {} ()).1.answer = .ok watch →
          watch.poll.seconds.toNat = 18446744073709551615) ∧
    (∃ d, d.total = 18446744073709551614 * 1000000000 + 1999999999 ∧
      readDocument Watch.record.read
        (watchWith (partsOf 18446744073709551614 1999999999)).compress = .ok ⟨"d1", "42", d⟩) ∧
    readDocument Watch.record.read
      (watchWith (partsOf 18446744073709551615 1000000000)).compress =
        .error (.mismatch .durationOverflow) := by
  obtain ⟨hoptions, hpoll, hwatch, -⟩ := numbers_kept
  have hnodes (n : Nat) := hoptions NumberOption.nodes (by simp [NumberOption.all])
    optionPlace_nodesPlace (differs_nodes n)
  have hseconds := hpoll pollPlace_briefPlace (differs_poll 18446744073709551615)
  have hlength (seconds nanos : Nat) := hwatch _ (.member rfl (keyed watchMembers) [])
    (watchWith_isOf (partsOf 0 0)) (readDocument_compress Watch.record.read _)
    (parts_partsOf seconds nanos) (watchWith_isOf (partsOf seconds nanos))
  simp only [Numeral.isCount_ofNat, Numeral.size_ofNat] at hnodes hseconds hlength
  refine ⟨?_, ?_, ?_, ?_, ?_⟩
  · obtain ⟨s, hs⟩ := (hnodes 4294967295).1.mpr (by decide)
    exact ⟨s, hs, ((hnodes _).2 s hs).1⟩
  · intro h
    exact absurd ((hnodes 4294967296).1.mp h) (by decide)
  · obtain ⟨s, hs⟩ := hseconds.1.mpr (by decide)
    exact ⟨s, hs, fun l draws watch h => ((hseconds.2 s hs).1 l draws {} () watch h).1⟩
  · have h := (hlength 18446744073709551614 1999999999).2 (by decide) (by decide)
    rwa [if_pos (by decide)] at h
  · have h := (hlength 18446744073709551615 1000000000).2 (by decide) (by decide)
    rwa [if_neg (by decide)] at h

end Request

end ClusterLaunch
