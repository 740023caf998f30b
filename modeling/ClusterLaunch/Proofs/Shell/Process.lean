import ClusterLaunch.Shell.Process

/-!
Variables of a process. A variable that is set is what stands under its name until it is set
again, and the programs that are started get the exported ones.
-/

namespace ClusterLaunch.Shell.Process

/-- The bindings with another variable under a name that is bound. -/
def rebound (bindings : List (List Char × Variable)) (name : List Char) (v : Variable) :
    List (List Char × Variable) :=
  bindings.map fun (n, old) => if n == name then (n, v) else (n, old)

theorem rebound_cons (n name : List Char) (old v : Variable)
    (bindings : List (List Char × Variable)) :
    rebound ((n, old) :: bindings) name v =
      (n, if n = name then v else old) :: rebound bindings name v := by
  by_cases hn : n = name <;> simp [rebound, hn]

theorem lookup_rebound (bindings : List (List Char × Variable)) (name other : List Char)
    (v : Variable) :
    (rebound bindings name v).lookup other =
      if other = name then (bindings.lookup name).map fun _ => v else bindings.lookup other := by
  induction bindings with
  | nil => simp [rebound]
  | cons first bindings ih =>
      obtain ⟨n, old⟩ := first
      rw [rebound_cons, List.lookup_cons, List.lookup_cons, List.lookup_cons, ih]
      by_cases hother : other = n
      · subst hother
        by_cases hn : other = name <;> simp [hn]
      · by_cases hsame : other = name
        · subst hsame
          simp [beq_false_of_ne hother]
        · simp [beq_false_of_ne hother, hsame]

theorem bindings_setVariable (p : Process) (name : List Char) (v : Variable) :
    (p.setVariable name v).bindings =
      if (p.bound? name).isSome then rebound p.bindings name v else p.bindings ++ [(name, v)] := by
  rw [setVariable]
  split <;> rfl

/-- A variable that is set stands under its name; no other variable is touched. -/
theorem bound?_setVariable (p : Process) (name other : List Char) (v : Variable) :
    (p.setVariable name v).bound? other = if other = name then some v else p.bound? other := by
  rw [bound?, bindings_setVariable]
  split
  · next hbound =>
      rw [lookup_rebound, bound?]
      split
      · obtain ⟨old, hold⟩ := Option.isSome_iff_exists.mp hbound
        rw [bound?] at hold
        rw [hold, Option.map_some]
      · rfl
  · next hbound =>
      rw [List.lookup_append, bound?]
      split
      · next heq =>
          have hnone : p.bound? name = none := by
            cases hfound : p.bound? name with
            | none => rfl
            | some old => exact absurd (by rw [hfound]; rfl) hbound
          rw [bound?] at hnone
          rw [heq, hnone, Option.none_or, List.lookup_cons_self]
      · next hne => simp [List.lookup_cons, beq_false_of_ne hne]

/-- No name is bound twice. -/
def Distinct (p : Process) : Prop :=
  (p.bindings.map Prod.fst).Nodup

theorem Distinct.setVariable {p : Process} (h : p.Distinct) (name : List Char) (v : Variable) :
    (p.setVariable name v).Distinct := by
  rw [Distinct, bindings_setVariable]
  split
  · have hnames : (rebound p.bindings name v).map Prod.fst = p.bindings.map Prod.fst := by
      rw [rebound, List.map_map]
      refine List.map_congr_left fun binding _ => ?_
      simp only [Function.comp_apply]
      split <;> rfl
    rw [hnames]
    exact h
  · next hbound =>
      have hnew : name ∉ p.bindings.map Prod.fst := by
        intro hmem
        obtain ⟨binding, hbinding, rfl⟩ := List.mem_map.mp hmem
        exact hbound (List.lookup_isSome_iff.mpr ⟨binding, hbinding, beq_self_eq_true _⟩)
      rw [List.map_append, List.nodup_append]
      refine ⟨h, List.pairwise_singleton .., fun n hn m hm heq => ?_⟩
      obtain rfl : m = name := List.mem_singleton.mp hm
      exact hnew (heq ▸ hn)

theorem lookup_eq_some_iff_mem {name : List Char} {v : Variable}
    {bindings : List (List Char × Variable)} (h : (bindings.map Prod.fst).Nodup) :
    bindings.lookup name = some v ↔ (name, v) ∈ bindings := by
  induction bindings with
  | nil => simp
  | cons first bindings ih =>
      obtain ⟨n, old⟩ := first
      obtain ⟨hfirst, hrest⟩ := List.pairwise_cons.mp h
      rw [List.lookup_cons, List.mem_cons]
      by_cases hname : name = n
      · subst hname
        have hnot : (name, v) ∉ bindings := fun hmem =>
          hfirst name (List.mem_map_of_mem hmem) rfl
        simp [hnot, eq_comm]
      · simp [beq_false_of_ne hname, hname, ih hrest]

/-- What a program is started with are the variables that are exported and have a value. -/
theorem mem_environment {p : Process} (h : p.Distinct) (name value : List Char) :
    (name, value) ∈ p.environment ↔ ∃ v, p.bound? name = some v ∧ v.exported = true ∧
      v.value.bind Value.first? = some value := by
  have hfound : (name, value) ∈ p.environment ↔ ∃ binding ∈ p.bindings,
      (if binding.2.exported then
        (binding.2.value.bind Value.first?).map fun value => (binding.1, value)
      else none) = some (name, value) := by
    rw [environment, ← List.mem_filterMap]
    split
    · exact List.mem_mergeSort
    · exact Iff.rfl
  rw [hfound]
  constructor
  · rintro ⟨⟨n, v⟩, hmem, hvalue⟩
    split at hvalue
    · next hexported =>
        obtain ⟨first, hfirst, heq⟩ := Option.map_eq_some_iff.mp hvalue
        obtain ⟨rfl, rfl⟩ := Prod.mk.inj heq
        exact ⟨v, (lookup_eq_some_iff_mem h).mpr hmem, hexported, hfirst⟩
    · cases hvalue
  · rintro ⟨v, hbound, hexported, hvalue⟩
    refine ⟨(name, v), (lookup_eq_some_iff_mem h).mp hbound, ?_⟩
    rw [if_pos hexported, hvalue, Option.map_some]

end ClusterLaunch.Shell.Process
