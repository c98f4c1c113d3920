/-
This file is about steps that are taken one after another and of which each may fail. It says what
is known when the last of them was reached: every step before it has succeeded.
-/

namespace WebFetch

/-- If two steps succeed together, the first succeeds, and the second does with its result. -/
theorem exists_ok_of_bind {Failure First Result : Type} {first : Except Failure First}
    {next : First → Except Failure Result} {result : Result}
    (found : first >>= next = .ok result) :
    ∃ between, first = .ok between ∧ next between = .ok result := by
  cases first with
  | error failure => cases found
  | ok between => exact ⟨between, rfl, found⟩

/-- If a step succeeds, and the next one does with its result, they succeed together. -/
theorem bind_eq_ok {Failure First Result : Type} {first : Except Failure First}
    {next : First → Except Failure Result} {between : First} {result : Result}
    (firstFound : first = .ok between) (nextFound : next between = .ok result) :
    first >>= next = .ok result := by
  rw [firstFound]
  exact nextFound

/-- If two steps fail together, the first fails, or the second does with its result. -/
theorem exists_error_of_bind {Failure First Result : Type} {first : Except Failure First}
    {next : First → Except Failure Result} {failure : Failure}
    (failed : first >>= next = .error failure) :
    first = .error failure ∨ ∃ between, first = .ok between ∧ next between = .error failure := by
  cases first with
  | error other =>
    cases failed
    exact Or.inl rfl
  | ok between => exact Or.inr ⟨between, rfl, failed⟩

/-- If the same step fails for some of many things, it fails for one of them. -/
theorem exists_error_of_mapM {Failure Thing Result : Type} {step : Thing → Except Failure Result}
    {things : List Thing} {failure : Failure} (failed : things.mapM step = .error failure) :
    ∃ thing ∈ things, step thing = .error failure := by
  induction things with
  | nil => cases failed
  | cons thing things inductionHypothesis =>
    rw [List.mapM_cons] at failed
    rcases exists_error_of_bind failed with first | ⟨_, _, failed⟩
    · exact ⟨thing, List.mem_cons_self, first⟩
    · rcases exists_error_of_bind failed with later | ⟨_, _, failed⟩
      · obtain ⟨other, member, failed⟩ := inductionHypothesis later
        exact ⟨other, List.mem_cons_of_mem _ member, failed⟩
      · cases failed

/-- What comes out of a step of which the result and the failure are converted came out of the
step. -/
theorem exists_ok_of_map {Failure Error First Result : Type} {first : Except Failure First}
    {wrap : First → Result} {explain : Failure → Error} {result : Result}
    (found : (first.map wrap).mapError explain = .ok result) :
    ∃ before, first = .ok before ∧ result = wrap before := by
  cases first with
  | error failure => cases found
  | ok before => exact ⟨before, rfl, (Except.ok.inj found).symm⟩

/-- The failure of a step of which the result and the failure are converted was one of the step. -/
theorem exists_error_of_map {Failure Error First Result : Type} {first : Except Failure First}
    {wrap : First → Result} {explain : Failure → Error} {error : Error}
    (failed : (first.map wrap).mapError explain = .error error) :
    ∃ failure, first = .error failure ∧ error = explain failure := by
  cases first with
  | error failure => exact ⟨failure, rfl, (Except.error.inj failed).symm⟩
  | ok before => cases failed

end WebFetch
