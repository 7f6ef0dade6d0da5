import MainsCharts.Session

/-!
# What a session does

A session is described by two things that depend on the invocations before it: what
it yields, and which invocations it adds (`Session.Runs`).  Sessions one after the
other add their invocations one after the other, and the second only takes place when
the first yields a value (`Session.Runs.bind`).

No session takes back an exchange or goes on after a failed one: the failure of the
renderer is what the session fails with, and nothing is asked any more
(`Session.StopsAtFailure`).
-/

namespace MainsCharts

set_option autoImplicit false

/-- A computation that yields a value has yielded one at each step. -/
theorem exists_of_bind_eq_ok {ε α β : Type} {first : Except ε α} {next : α → Except ε β}
    {value : β} (yields : (first >>= next) = .ok value) :
    ∃ middle, first = .ok middle ∧ next middle = .ok value := by
  cases first with
  | error cause => exact nomatch yields
  | ok middle => exact ⟨middle, rfl, yields⟩

/-- A value is not touched where an error is reworded. -/
theorem mapError_eq_ok_iff {ε φ α : Type} {verdict : Except ε α} {reworded : ε → φ} {value : α} :
    verdict.mapError reworded = .ok value ↔ verdict = .ok value := by
  cases verdict with
  | error cause => exact ⟨nofun, nofun⟩
  | ok other =>
      constructor
      · intro same
        obtain rfl := Except.ok.inj same
        rfl
      · intro same
        obtain rfl := Except.ok.inj same
        rfl

namespace Session

variable {α β : Type}

/-! ## Steps -/

theorem perform_bind (session : Session α) (next : α → Session β) (before : Transcript) :
    (session >>= next).perform before =
      match session.perform before with
      | (.ok value, after) => (next value).perform after
      | (.error failure, after) => (.error failure, after) := by
  have unfolded : (session >>= next).perform before =
      (ExceptT.bindCont next (session.perform before).1).run (session.perform before).2 := rfl
  rw [unfolded]
  rcases session.perform before with ⟨_ | _, after⟩ <;> rfl

/-- What a session yields after some invocations, and the invocations that it adds. -/
def Runs (session : Session α) (history : List Invocation) (outcome : Except Failure α)
    (calls : List Invocation) : Prop :=
  ∀ before : Transcript, before.calls = history →
    (session.perform before).1 = outcome ∧ (session.perform before).2.calls = history ++ calls

variable (history : List Invocation)

/-- A session that always yields the same and leaves the exchanges as they are. -/
theorem runs_of_silent {session : Session α} {outcome : Except Failure α}
    (yields : ∀ before, (session.perform before).1 = outcome)
    (silent : ∀ before, (session.perform before).2.exchanges = before.exchanges) :
    session.Runs history outcome [] := by
  rintro before rfl
  rw [Transcript.calls, silent, List.append_nil]
  exact ⟨yields before, rfl⟩

theorem runs_pure (value : α) : (pure value : Session α).Runs history (.ok value) [] :=
  runs_of_silent history (fun _ => rfl) fun _ => rfl

theorem runs_note (event : Event) : (note event).Runs history (.ok ()) [] :=
  runs_of_silent history (fun _ => rfl) fun _ => rfl

theorem runs_check (verdict : Except Misuse α) :
    (check verdict).Runs history (verdict.mapError .validation) [] :=
  runs_of_silent history (fun _ => rfl) fun _ => rfl

theorem runs_accept (reading : Except Failure α) : (accept reading).Runs history reading [] :=
  runs_of_silent history (fun _ => rfl) fun _ => rfl

theorem runs_ask (renderer : Renderer) (purpose : Purpose) (arguments : List String) :
    (renderer.ask purpose arguments).Runs history
      (renderer.answer history ⟨purpose, arguments⟩).outcome [⟨purpose, arguments⟩] := by
  rintro before rfl
  exact ⟨rfl, List.map_append⟩

variable {history} {calls : List Invocation}

/-- What is asked behind an outcome: nothing, when it is a failure. -/
def callsAfter (outcome : Except Failure α) (further : α → List Invocation) : List Invocation :=
  match outcome with
  | .ok value => further value
  | .error _ => []

theorem mem_callsAfter {outcome : Except Failure α} {further : α → List Invocation}
    {call : Invocation} :
    call ∈ callsAfter outcome further ↔ ∃ value, outcome = .ok value ∧ call ∈ further value := by
  cases outcome with
  | error failure => simp [callsAfter]
  | ok value => simp [callsAfter]

theorem callsAfter_bind {outcome : Except Failure α} {result : α → Except Failure β}
    {further : β → List Invocation} :
    callsAfter (outcome >>= result) further =
      callsAfter outcome fun value => callsAfter (result value) further := by
  cases outcome <;> rfl

/-- **One session behind another.**  The second goes on from what the first yields and has
asked, and does not take place when the first fails. -/
theorem Runs.bind {session : Session α} {next : α → Session β} {outcome : Except Failure α}
    {result : α → Except Failure β} {further : α → List Invocation}
    (first : session.Runs history outcome calls)
    (second : ∀ value, (next value).Runs (history ++ calls) (result value) (further value)) :
    (session >>= next).Runs history (outcome >>= result) (calls ++ callsAfter outcome further) := by
  intro before isHistory
  obtain ⟨yields, adds⟩ := first before isHistory
  rw [perform_bind]
  revert yields adds
  rcases session.perform before with ⟨failure | value, after⟩
  · intro yields adds
    subst yields
    exact ⟨rfl, adds.trans (by rw [callsAfter, List.append_nil])⟩
  · intro yields adds
    subst yields
    obtain ⟨yieldsNext, addsNext⟩ := second value after adds
    exact ⟨yieldsNext, addsNext.trans (List.append_assoc ..)⟩

/-- A session behind one that asks nothing. -/
theorem Runs.silent_bind {session : Session α} {next : α → Session β}
    {outcome : Except Failure α} {result : α → Except Failure β}
    {further : α → List Invocation} (first : session.Runs history outcome [])
    (second : ∀ value, (next value).Runs history (result value) (further value)) :
    (session >>= next).Runs history (outcome >>= result) (callsAfter outcome further) := by
  refine first.bind ?_
  intro value
  rw [List.append_nil]
  exact second value

/-- A session that asks nothing, behind another. -/
theorem Runs.bind_silent {session : Session α} {next : α → Session β}
    {outcome : Except Failure α} {result : α → Except Failure β}
    (first : session.Runs history outcome calls)
    (second : ∀ value, (next value).Runs (history ++ calls) (result value) []) :
    (session >>= next).Runs history (outcome >>= result) calls := by
  have both := first.bind second
  have silent : callsAfter outcome (fun _ => []) = [] := by
    cases outcome <;> rfl
  rwa [silent, List.append_nil] at both

/-- Reporting what a session yields does not change it. -/
theorem Runs.noted {session : Session α} {outcome : Except Failure α}
    (runs : session.Runs history outcome calls) (event : α → Event) :
    (do let value ← session; note (event value); return value).Runs history outcome calls := by
  rw [← bind_pure outcome]
  refine runs.bind_silent ?_
  intro value
  exact (runs_note _ (event value)).silent_bind fun _ => runs_pure _ value

/-! ## Failed exchanges -/

/-- A session that only adds exchanges, and after one that fails adds no other and fails
in the same way. -/
def StopsAtFailure (session : Session α) : Prop :=
  ∀ before : Transcript, ∃ added, (session.perform before).2.exchanges = before.exchanges ++ added ∧
    ∀ earlier exchange later failure, added = earlier ++ exchange :: later →
      exchange.reply.outcome = .error failure →
      later = [] ∧ (session.perform before).1 = .error failure

theorem stopsAtFailure_of_silent {session : Session α}
    (silent : ∀ before, (session.perform before).2.exchanges = before.exchanges) :
    session.StopsAtFailure := by
  intro before
  refine ⟨[], by rw [silent, List.append_nil], ?_⟩
  intro earlier exchange later _ split
  exact absurd split.symm (List.append_ne_nil_of_right_ne_nil _ (List.cons_ne_nil _ _))

theorem stopsAtFailure_pure (value : α) : (pure value : Session α).StopsAtFailure :=
  stopsAtFailure_of_silent fun _ => rfl

theorem stopsAtFailure_note (event : Event) : (note event).StopsAtFailure :=
  stopsAtFailure_of_silent fun _ => rfl

theorem stopsAtFailure_check (verdict : Except Misuse α) : (check verdict).StopsAtFailure :=
  stopsAtFailure_of_silent fun _ => rfl

theorem stopsAtFailure_accept (reading : Except Failure α) : (accept reading).StopsAtFailure :=
  stopsAtFailure_of_silent fun _ => rfl

theorem stopsAtFailure_ask (renderer : Renderer) (purpose : Purpose) (arguments : List String) :
    (renderer.ask purpose arguments).StopsAtFailure := by
  intro before
  refine ⟨[⟨⟨purpose, arguments⟩, renderer.answer before.calls ⟨purpose, arguments⟩⟩], rfl, ?_⟩
  intro earlier exchange later failure split failed
  cases earlier with
  | nil =>
      obtain ⟨rfl, rfl⟩ := List.cons.inj split
      exact ⟨rfl, failed⟩
  | cons _ _ =>
      exact absurd (List.cons.inj split).2.symm
        (List.append_ne_nil_of_right_ne_nil _ (List.cons_ne_nil _ _))

/-- A session that goes on only after a success stops at a failure like its parts. -/
theorem StopsAtFailure.bind {session : Session α} {next : α → Session β}
    (first : session.StopsAtFailure) (second : ∀ value, (next value).StopsAtFailure) :
    (session >>= next).StopsAtFailure := by
  intro before
  obtain ⟨added, adds, stops⟩ := first before
  rw [perform_bind]
  revert adds stops
  rcases session.perform before with ⟨failure | value, after⟩
  · intro adds stops
    refine ⟨added, adds, ?_⟩
    intro earlier exchange later other split failed
    obtain ⟨nothing, same⟩ := stops earlier exchange later other split failed
    obtain rfl := Except.error.inj same
    exact ⟨nothing, rfl⟩
  · intro adds stops
    obtain ⟨further, addsFurther, stopsFurther⟩ := second value after
    refine ⟨added ++ further, ?_, ?_⟩
    · change ((next value).perform after).2.exchanges = _
      rw [addsFurther, ← List.append_assoc]
      exact congrArg (· ++ further) adds
    · intro earlier exchange later other split failed
      rcases List.append_eq_append_iff.mp split with ⟨rest, _, inFurther⟩ | ⟨rest, inAdded, tail⟩
      · exact stopsFurther rest exchange later other inFurther failed
      · cases rest with
        | nil => exact stopsFurther [] exchange later other tail.symm failed
        | cons _ rest =>
            -- A failure in the first part would have been its outcome.
            obtain ⟨rfl, _⟩ := List.cons.inj tail
            obtain ⟨_, same⟩ := stops earlier exchange rest other inAdded failed
            exact nomatch same

end Session

end MainsCharts
