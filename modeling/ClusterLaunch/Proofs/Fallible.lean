/-!
Computations that can fail. One that gives a value has gone through all of its steps: each
of them gave a value, and no check on the way stopped it.
-/

namespace ClusterLaunch

variable {ε ε' α β : Type}

@[simp] theorem mapError_ok (f : ε → ε') (a : α) : (.ok a : Except ε α).mapError f = .ok a := rfl

@[simp] theorem mapError_error (f : ε → ε') (fault : ε) :
    (.error fault : Except ε α).mapError f = .error (f fault) := rfl

theorem ok_bind {a : α} {next : α → Except ε β} : Except.ok a >>= next = next a := rfl

/-- Steps in a row go well just if the first does, and then the others with its value. -/
theorem bind_eq_ok_iff {first : Except ε α} {next : α → Except ε β} {b : β} :
    first >>= next = .ok b ↔ ∃ a, first = .ok a ∧ next a = .ok b := by
  cases first with
  | error fault => exact ⟨nofun, nofun⟩
  | ok a => exact ⟨fun h => ⟨a, rfl, h⟩, fun ⟨_, ha, h⟩ => Except.ok.inj ha ▸ h⟩

theorem map_eq_ok_iff {result : Except ε α} {f : α → β} {b : β} :
    result.map f = .ok b ↔ ∃ a, result = .ok a ∧ f a = b := by
  cases result with
  | error fault => exact ⟨nofun, nofun⟩
  | ok a =>
      exact ⟨fun h => ⟨a, rfl, Except.ok.inj h⟩, fun ⟨_, ha, h⟩ => Except.ok.inj ha ▸ congrArg _ h⟩

/-- What goes on behind a check has passed it. -/
theorem unless_eq_ok_iff {p : Prop} [Decidable p] {fault : ε} {next : α → Except ε β}
    {go : Except ε β} {b : β} :
    (if p then throw fault >>= next else go) = .ok b ↔ ¬p ∧ go = .ok b := by
  split
  · next hp => exact ⟨nofun, fun h => absurd hp h.1⟩
  · next hp => exact ⟨fun h => ⟨hp, h⟩, fun h => h.2⟩

/-- What is found behind a check that ends the search has passed it. -/
theorem unless_eq_found_iff {p : Prop} [Decidable p] {go : Except ε (Option β)} {b : β} :
    (if p then pure none else go) = .ok (some b) ↔ ¬p ∧ go = .ok (some b) := by
  split
  · next hp => exact ⟨nofun, fun h => absurd hp h.1⟩
  · next hp => exact ⟨fun h => ⟨hp, h⟩, fun h => h.2⟩

end ClusterLaunch
