import ClusterLaunch.Proofs.Launch.Commands
import ClusterLaunch.Proofs.Launch.Outcome

/-!
What a preview promises of a launch. With the same draws they fail alike before a
command is sent, ask the declarations the same, and put the same command together.
-/

namespace ClusterLaunch

namespace Launcher

variable {σ : Type} {l : Launcher σ} {draws : Draws} {r : Request}

/-! Nothing is asked of the declarations after the preview. -/

@[simp] theorem queries_closing (r : Request) (answer : Except StageFailure Watch) :
    (closing r answer).queries = [] := by
  cases answer <;> rfl

@[simp] theorem queries_handOver (r : Request) (job : Job) (receipt : Receipt) (id : String) :
    (handOver r job receipt id).2.queries = [] := by
  cases h : Text.isBlankText id.toList with
  | true => simp [handOver_of_blank r job receipt h]
  | false => simp [handOver_of_not_blank r job receipt h]

theorem queries_findId (l : Launcher σ) (r : Request) (job : Job) (receipt : Receipt) (state : σ) :
    (l.findId r job receipt state).trail.queries = [] := by
  cases hmode : job.mode with
  | batch => simp [findId, hmode]
  | interactive =>
      cases hfinder : l.finder with
      | absent => simp [findId, hmode, hfinder]
      | fixed id => simp [findId, hmode, hfinder]
      | queue search => simp [findId, hmode, hfinder, QueueSearch.find]

theorem queries_followUp (l : Launcher σ) (r : Request) (p : Preview) (output : String)
    (state : σ) : (l.followUp r p output state).trail.queries = [] := by
  unfold followUp
  split
  · rfl
  · next receipt _ =>
      have hfound := l.queries_findId r p.job receipt state
      simp only
      split
      · simp [hfound]
      · simp [hfound]

theorem queries_submit (l : Launcher σ) (r : Request) (p : Preview) (state : σ) :
    (l.submit r p state).trail.queries = [] := by
  cases hrun : l.transport.run p.submission.command state with
  | mk answer after =>
      cases answer with
      | error refusal => simp [submit_of_refused r p hrun]
      | ok output => simp [submit_of_accepted r p hrun, queries_followUp]

/-- A launch asks the declarations what its preview asks, in the same order. -/
theorem queries_launch (l : Launcher σ) (draws : Draws) (r : Request) (counters : Counters)
    (state : σ) :
    (l.launch draws r counters state).1.trail.queries = (l.preview draws r).2.queries := by
  cases l.begins r with
  | rejected hrun =>
      simp [launch_of_not_isRun l draws counters state hrun, preview_of_not_isRun l draws hrun]
  | unbuilt hrun hc =>
      rw [launch_of_isRun l draws counters state hrun, stages_of_unbuilt draws state hrun hc]
      simp [preview_of_unbuilt draws hrun hc]
  | built hrun hc =>
      rw [launch_of_isRun l draws counters state hrun, stages_of_built draws state hrun hc]
      simp [preview_of_built draws hrun hc, queries_submit]

/-! What goes wrong in one goes wrong in the other. -/

theorem answer_of_preview_error {early : StageFailure} (counters : Counters) (state : σ)
    (h : (l.preview draws r).1 = .error early) :
    (l.launch draws r counters state).1.answer = .error early ∧
      (early.stage = .validateOperation ∨ early.stage = .buildContainer) := by
  cases l.begins r with
  | rejected hrun =>
      rw [preview_of_not_isRun l draws hrun] at h
      cases h
      exact ⟨(Ends.rejected hrun).answer_eq counters, .inl rfl⟩
  | unbuilt hrun hc =>
      rw [preview_of_unbuilt draws hrun hc] at h
      cases h
      exact ⟨(Ends.unbuilt hrun hc).answer_eq counters, .inr rfl⟩
  | built hrun hc =>
      rw [preview_of_built draws hrun hc] at h
      cases h

/-- A preview is a faithful dry run of a launch with the same draws. It fails when the
launch fails before a command, and with the same failure; both ask the declarations the
same. When it succeeds, its command is the first that the launch sends, and all that the
launch sends after that asks the queue after the job that it names. -/
theorem preview_faithful (l : Launcher σ) (draws : Draws) (r : Request) (counters : Counters)
    (state : σ) :
    let previewed := l.preview draws r
    let done := (l.launch draws r counters state).1
    (∀ early, previewed.1 = .error early ↔ done.answer = .error early ∧
      (early.stage = .validateOperation ∨ early.stage = .buildContainer)) ∧
      done.trail.queries = previewed.2.queries ∧
      (∀ p, previewed.1 = .ok p → ∃ n,
        done.trail.commands =
          p.submission.command :: List.replicate n (QueueSearch.command p.job.name) ∧
        l.Searches r p state n) := by
  intro previewed done
  refine ⟨fun early => ⟨answer_of_preview_error counters state, ?_⟩,
    queries_launch l draws r counters state, ?_⟩
  · rintro ⟨hanswer, hstage⟩
    obtain ⟨ending, answer, hends⟩ := l.exists_ends draws r state
    obtain rfl : answer = .error early := (hends.answer_eq counters).symm.trans hanswer
    exact hends.preview_eq hstage
  · intro p hp
    obtain ⟨hrun, c, hc, rfl⟩ := preview_eq_ok hp
    obtain ⟨n, hsent, -, hsearches⟩ := launch_sends draws counters state hrun hc
    exact ⟨n, hsent, hsearches⟩

end Launcher

end ClusterLaunch
