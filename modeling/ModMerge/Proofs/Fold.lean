import Mathlib.Data.List.Forall2

/-!
# Runs of steps that may fail

A run is a monadic fold of a step over a list. What each step preserves holds after every
run that succeeds; the property may mention the steps that have been taken and those that
are still to come. If it also tells that the next step succeeds, so does the run. Of two runs
that take the same steps besides some that leave a view of the state alone, the views agree in
the end (`view_eq_of_foldlM`).
-/

namespace ModMerge

variable {Step State Error : Type}

/-- A sequence succeeds exactly if both of its parts do. -/
theorem bind_eq_ok {First Result : Type} {first : Except Error First}
    {next : First → Except Error Result} {result : Result} :
    (first >>= next) = .ok result ↔ ∃ value, first = .ok value ∧ next value = .ok result := by
  cases first with
  | error error => simp [bind, Except.bind]
  | ok value => simp [bind, Except.bind]

/-- A sequence whose first part succeeds is as good as its second part. -/
theorem bind_of_eq_ok {First Result : Type} {first : Except Error First}
    {next : First → Except Error Result} {value : First} (succeeded : first = .ok value) :
    (first >>= next) = next value := by
  rw [succeeded]
  rfl

/-- A sequence whose first part fails does so as well. -/
theorem bind_of_eq_error {First Result : Type} {first : Except Error First}
    {next : First → Except Error Result} {error : Error} (failed : first = .error error) :
    (first >>= next) = .error error := by
  rw [failed]
  rfl

/-- Changing the result of a sequence does not change whether it succeeds. -/
theorem map_eq_ok {First Result : Type} {first : Except Error First}
    {change : First → Result} {result : Result} :
    first.map change = .ok result ↔ ∃ value, first = .ok value ∧ change value = result := by
  cases first with
  | error error => simp [Except.map]
  | ok value => simp [Except.map]

/-- Changing the error of a computation does not change whether it succeeds. -/
theorem mapError_eq_ok {First Other : Type} {result : Except Error First} {change : Error → Other}
    {value : First} : result.mapError change = .ok value ↔ result = .ok value := by
  cases result with
  | error error => simp [Except.mapError]
  | ok value => simp [Except.mapError]

/-- A computation that is seen to succeed has a value. -/
theorem exists_eq_ok_of_isOk {First : Type} {result : Except Error First}
    (succeeds : result.isOk = true) : ∃ value, result = .ok value := by
  cases result with
  | error error => simp [Except.isOk, Except.toBool] at succeeds
  | ok value => exact ⟨value, rfl⟩

/-- A computation whose value is seen to pass a check has such a value. -/
theorem exists_eq_ok_of_any {First : Type} {result : Except Error First} {check : First → Bool}
    (passes : result.toOption.any check = true) :
    ∃ value, result = .ok value ∧ check value = true := by
  cases result with
  | error error => cases passes
  | ok value => exact ⟨value, rfl, passes⟩

/-- Results that were all computed without an error, each beside what it was computed from. -/
theorem forall₂_of_mapM {Result : Type} {compute : Step → Except Error Result}
    {steps : List Step} {results : List Result} (computed : steps.mapM compute = .ok results) :
    List.Forall₂ (fun step result => compute step = .ok result) steps results := by
  induction steps generalizing results with
  | nil =>
      obtain rfl := Except.ok.inj computed
      exact .nil
  | cons step rest inductionHypothesis =>
      rw [List.mapM_cons] at computed
      obtain ⟨result, first, remaining⟩ := bind_eq_ok.1 computed
      obtain ⟨others, later, finished⟩ := bind_eq_ok.1 remaining
      obtain rfl := Except.ok.inj finished
      exact .cons first (inductionHypothesis later)

theorem exists_mem_of_forall₂ {First Second : Type} {related : First → Second → Prop}
    {firsts : List First} {seconds : List Second} (each : List.Forall₂ related firsts seconds)
    {first : First} (member : first ∈ firsts) : ∃ second ∈ seconds, related first second := by
  induction each with
  | nil => cases member
  | @cons head partner _ _ here _ inductionHypothesis =>
      rcases List.mem_cons.1 member with rfl | inRest
      · exact ⟨partner, List.mem_cons_self, here⟩
      · obtain ⟨second, isSecond, there⟩ := inductionHypothesis inRest
        exact ⟨second, List.mem_cons_of_mem partner isSecond, there⟩

/-- A property that every step preserves holds after a run of all steps. -/
theorem invariant_of_foldlM {step : State → Step → Except Error State}
    (holds : List Step → List Step → State → Prop)
    (preserved : ∀ done next rest before after, holds done (next :: rest) before →
      step before next = .ok after → holds (done ++ [next]) rest after)
    {steps : List Step} {start finish : State} (initially : holds [] steps start)
    (run : steps.foldlM step start = .ok finish) : holds steps [] finish := by
  suffices general : ∀ rest done state, holds done rest state →
      rest.foldlM step state = .ok finish → holds (done ++ rest) [] finish from
    general steps [] start initially run
  intro rest
  induction rest with
  | nil =>
      intro done state holdsNow finished
      obtain rfl := Except.ok.inj finished
      simpa using holdsNow
  | cons next rest inductionHypothesis =>
      intro done state holdsNow remaining
      obtain ⟨middle, stepped, remaining⟩ := bind_eq_ok.1 remaining
      have later := inductionHypothesis (done ++ [next]) middle
        (preserved done next rest state middle holdsNow stepped) remaining
      simpa using later

/-- A run succeeds, or ends in an error that is tolerated, if this holds of every step in the
states that are reached before it. -/
theorem foldlM_eq_ok_or {step : State → Step → Except Error State}
    (holds : List Step → List Step → State → Prop) (tolerated : Error → Prop)
    (advances : ∀ done next rest before, holds done (next :: rest) before →
      (∃ after, step before next = .ok after ∧ holds (done ++ [next]) rest after) ∨
        ∃ error, step before next = .error error ∧ tolerated error)
    {steps : List Step} {start : State} (initially : holds [] steps start) :
    (∃ finish, steps.foldlM step start = .ok finish ∧ holds steps [] finish) ∨
      ∃ error, steps.foldlM step start = .error error ∧ tolerated error := by
  suffices general : ∀ rest done state, holds done rest state →
      (∃ finish, rest.foldlM step state = .ok finish ∧ holds (done ++ rest) [] finish) ∨
        ∃ error, rest.foldlM step state = .error error ∧ tolerated error from
    general steps [] start initially
  intro rest
  induction rest with
  | nil => exact fun done state holdsNow => .inl ⟨state, rfl, by simpa using holdsNow⟩
  | cons next rest inductionHypothesis =>
      intro done state holdsNow
      rw [List.foldlM_cons]
      rcases advances done next rest state holdsNow with
        ⟨middle, stepped, holdsLater⟩ | ⟨error, failed, isTolerated⟩
      · have later := inductionHypothesis (done ++ [next]) middle holdsLater
        rw [List.append_assoc, List.singleton_append] at later
        rw [stepped]
        exact later
      · rw [failed]
        exact .inr ⟨error, rfl, isTolerated⟩

/-- A run succeeds if every step does in the states that are reached before it. -/
theorem exists_foldlM_eq_ok {step : State → Step → Except Error State}
    (holds : List Step → List Step → State → Prop)
    (advances : ∀ done next rest before, holds done (next :: rest) before →
      ∃ after, step before next = .ok after ∧ holds (done ++ [next]) rest after)
    {steps : List Step} {start : State} (initially : holds [] steps start) :
    ∃ finish, steps.foldlM step start = .ok finish ∧ holds steps [] finish :=
  (foldlM_eq_ok_or holds (fun _ => False)
    (fun done next rest before holdsNow => .inl (advances done next rest before holdsNow))
    initially).resolve_right fun ⟨_, _, impossible⟩ => impossible

section

variable {View : Type} {step : State → Step → Except Error State} {view : State → View}
  {visible : Step → Bool}

/-- A run of steps that cannot be seen. -/
theorem view_of_foldlM_unseen
    (unseen : ∀ before next after, visible next = false → step before next = .ok after →
      view after = view before)
    {steps : List Step} (invisible : ∀ next ∈ steps, ¬ visible next) {start finish : State}
    (run : steps.foldlM step start = .ok finish) : view finish = view start := by
  refine (invariant_of_foldlM (fun _ rest state => (∀ next ∈ rest, ¬ visible next) ∧
    view state = view start) ?_ ⟨invisible, rfl⟩ run).2
  rintro done next rest before after ⟨invisible, same⟩ stepped
  refine ⟨fun other member => invisible other (List.mem_cons_of_mem next member), ?_⟩
  rw [unseen before next after (by simpa using invisible next List.mem_cons_self) stepped, same]

/-- Runs that take the same visible steps, from states that look the same, end in states that look
the same: the other steps cannot be seen, and what a visible step does can be told from what is
seen. -/
theorem view_eq_of_foldlM (view : State → View) (visible : Step → Bool)
    (unseen : ∀ before next after, visible next = false → step before next = .ok after →
      view after = view before)
    (seen : ∀ next first second first' second', visible next = true → view first = view second →
      step first next = .ok first' → step second next = .ok second' → view first' = view second')
    {steps steps' : List Step} (sameSteps : steps.filter visible = steps'.filter visible)
    {start start' finish finish' : State} (sameStart : view start = view start')
    (run : steps.foldlM step start = .ok finish) (run' : steps'.foldlM step start' = .ok finish') :
    view finish = view finish' := by
  -- The induction is on the visible steps: each run reaches the first of them through steps that
  -- cannot be seen, and the two states that it is taken from look the same.
  generalize shared : steps'.filter visible = visibleSteps at sameSteps
  induction visibleSteps generalizing steps steps' start start' with
  | nil =>
      rw [view_of_foldlM_unseen unseen (List.filter_eq_nil_iff.1 sameSteps) run, sameStart,
        view_of_foldlM_unseen unseen (List.filter_eq_nil_iff.1 shared) run']
  | cons next rest inductionHypothesis =>
      obtain ⟨front, back, rfl, invisible, isVisible, sameBack⟩ :=
        List.filter_eq_cons_iff.1 sameSteps
      obtain ⟨front', back', rfl, invisible', -, sameBack'⟩ := List.filter_eq_cons_iff.1 shared
      rw [List.foldlM_append] at run run'
      obtain ⟨middle, skipped, remaining⟩ := bind_eq_ok.1 run
      obtain ⟨after, stepped, remaining⟩ := bind_eq_ok.1 remaining
      obtain ⟨middle', skipped', remaining'⟩ := bind_eq_ok.1 run'
      obtain ⟨after', stepped', remaining'⟩ := bind_eq_ok.1 remaining'
      refine inductionHypothesis ?_ remaining remaining' sameBack' sameBack
      refine seen next middle middle' after after' isVisible ?_ stepped stepped'
      rw [view_of_foldlM_unseen unseen invisible skipped, sameStart,
        view_of_foldlM_unseen unseen invisible' skipped']

end

end ModMerge
