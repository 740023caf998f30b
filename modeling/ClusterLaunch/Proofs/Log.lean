import ClusterLaunch.Log.Line

/-!
A log that is off. A filter that lets no notice pass leaves no line of any trail, and
the directive `off` is such a filter, at whatever level the log would be otherwise.
-/

namespace ClusterLaunch.Log

namespace Filter

def Silent (f : Filter) : Prop :=
  ∀ scope notice, f.passes scope notice = false

def off : Filter := ⟨[{ threshold := none }]⟩

theorem silent_off : off.Silent := by
  intro scope notice
  simp [passes, ceiling, off, Directive.asksForValue, Threshold.maximum, Threshold.max,
    Threshold.passes, Threshold.rank]

theorem ofVariables_off {env : String → Option String} (h : env "SLURMEXEC_LOG" = some "off")
    (level : Level) : ofVariables env level = off := by
  have htext : ofText? "off" = some off := by decide +kernel
  simp [ofVariables, variableNames, h, htext]

end Filter

theorem Line.ofTrail_of_silent {f : Filter} (hsilent : f.Silent) (scope : Option Span)
    (trail : Trail) : ofTrail f scope trail = [] := by
  induction trail generalizing scope with
  | nil => rfl
  | cons step rest ih => cases step <;> simp [ofTrail, ih, hsilent _ _]

end ClusterLaunch.Log
