import MainsCharts.Proofs.Session.Trace

/-!
# Sessions with one renderer

A session that has dealings with one renderer only is put together from steps that ask it and
from steps that ask nothing, which fail for reasons of their own (`Session.Asks`).  Whatever it is
put together from, the failures of the renderer and of the session belong together: an answer that
is a failure is the last one, and what the session fails with; and when a session fails as a
renderer does, this was the last answer (`Session.Asks.follows`).
-/

namespace MainsCharts

set_option autoImplicit false

/-- Whether a failure is that of a renderer that ran, or could not be launched. -/
def Failure.isRenderers : Failure → Bool
  | subprocess _ _ _ | spawn _ _ => true
  | validation _ | detection _ | stream _ => false

namespace Session

variable {α β : Type} {renderer : Renderer} {history : List Invocation}

/-- What is put together from steps that ask a renderer, and steps that ask nothing. -/
inductive Asks (renderer : Renderer) : {α : Type} → Session α → Prop
  | pure {α : Type} (value : α) : Asks renderer (Pure.pure value)
  | note (event : Event) : Asks renderer (Session.note event)
  | printLine (line : String) : Asks renderer (Session.printLine line)
  | check {α : Type} (verdict : Except Misuse α) : Asks renderer (Session.check verdict)
  | accept {α : Type} {reading : Except Failure α}
      (own : ∀ failure, reading = .error failure → failure.isRenderers = false) :
      Asks renderer (Session.accept reading)
  | ask (purpose : Purpose) (arguments : List String) :
      Asks renderer (renderer.ask purpose arguments)
  | bind {α β : Type} {session : Session α} {next : α → Session β}
      (first : Asks renderer session) (second : ∀ value, Asks renderer (next value)) :
      Asks renderer (session >>= next)

/-- How the outcome of a session goes with what a renderer answers to its calls.  An answer that
is a failure is the last, and that of the session; and a failure of the renderer was an answer. -/
structure Follows (renderer : Renderer) (history calls : List Invocation)
    (outcome : Except Failure α) : Prop where
  stops : ∀ earlier call later failure, calls = earlier ++ call :: later →
    (renderer.answer (history ++ earlier) call).outcome = .error failure →
    later = [] ∧ outcome = .error failure
  answered : ∀ failure, outcome = .error failure → failure.isRenderers = true →
    ∃ earlier call, calls = earlier ++ [call] ∧
      (renderer.answer (history ++ earlier) call).outcome = .error failure

/-- Without a call there is no failure of the renderer. -/
theorem follows_nil {outcome : Except Failure α}
    (own : ∀ failure, outcome = .error failure → failure.isRenderers = false) :
    Follows renderer history [] outcome where
  stops earlier call later _ split := by
    exact absurd split.symm (List.append_ne_nil_of_right_ne_nil _ (List.cons_ne_nil _ _))
  answered failure failed renderers := by
    exact nomatch (own failure failed).symm.trans renderers

/-- One call and its answer. -/
theorem follows_singleton (call : Invocation) :
    Follows renderer history [call] (renderer.answer history call).outcome where
  stops earlier other later failure split failed := by
    obtain ⟨rfl, rfl, rfl⟩ : earlier = [] ∧ other = call ∧ later = [] := by
      cases earlier with
      | nil => simpa [eq_comm] using split
      | cons _ _ => simp at split
    rw [List.append_nil] at failed
    exact ⟨rfl, failed⟩
  answered failure failed _ := ⟨[], call, rfl, by rwa [List.append_nil]⟩

/-- A failure stays when nothing is asked behind it. -/
theorem Follows.of_error {calls : List Invocation} {failure : Failure}
    (follows : Follows renderer history calls (.error failure : Except Failure α)) :
    Follows renderer history calls (.error failure : Except Failure β) where
  stops earlier call later other split failed := by
    obtain ⟨nothing, same⟩ := follows.stops earlier call later other split failed
    obtain rfl := Except.error.inj same
    exact ⟨nothing, rfl⟩
  answered other same renderers := by
    obtain rfl := Except.error.inj same
    exact follows.answered failure rfl renderers

/-- What is asked behind a success decides about the whole. -/
theorem Follows.append {calls further : List Invocation} {value : α}
    {outcome : Except Failure β}
    (first : Follows renderer history calls (.ok value : Except Failure α))
    (second : Follows renderer (history ++ calls) further outcome) :
    Follows renderer history (calls ++ further) outcome where
  stops earlier call later failure split failed := by
    rcases List.append_eq_append_iff.mp split with ⟨rest, rfl, inFurther⟩ | ⟨rest, inCalls, tail⟩
    · rw [← List.append_assoc] at failed
      exact second.stops rest call later failure inFurther failed
    · cases rest with
      | nil =>
          obtain rfl : calls = earlier := by rw [inCalls, List.append_nil]
          exact second.stops [] call later failure tail.symm (by rwa [List.append_nil])
      | cons _ rest =>
          -- A failed answer among the first calls would have been the outcome of the first part.
          obtain ⟨rfl, -⟩ := List.cons.inj tail
          exact nomatch (first.stops earlier call rest failure inCalls failed).2
  answered failure failed renderers := by
    obtain ⟨earlier, call, rfl, answers⟩ := second.answered failure failed renderers
    rw [List.append_assoc] at answers
    exact ⟨calls ++ earlier, call, (List.append_assoc ..).symm, answers⟩

/-- **The outcome of a session goes with the answers of its renderer.** -/
theorem Asks.follows {session : Session α} (asks : Asks renderer session)
    (before : Transcript) :
    ∃ calls, (session.perform before).2.calls = before.calls ++ calls ∧
      Follows renderer before.calls calls (session.perform before).1 := by
  induction asks generalizing before with
  | pure _ | note _ | printLine _ =>
      exact ⟨[], (List.append_nil _).symm, follows_nil nofun⟩
  | check verdict =>
      refine ⟨[], (List.append_nil _).symm, follows_nil ?_⟩
      intro failure failed
      cases verdict with
      | ok value => exact nomatch failed
      | error cause =>
          obtain rfl := Except.error.inj failed
          rfl
  | accept own => exact ⟨[], (List.append_nil _).symm, follows_nil own⟩
  | ask purpose arguments => exact ⟨[⟨purpose, arguments⟩], List.map_append, follows_singleton _⟩
  | @bind α β session next _ _ ihFirst ihSecond =>
      obtain ⟨calls, adds, follows⟩ := ihFirst before
      rw [perform_bind]
      revert adds follows
      rcases session.perform before with ⟨failure | value, after⟩
      · intro adds follows
        exact ⟨calls, adds, follows.of_error⟩
      · intro adds follows
        obtain ⟨further, addsFurther, followsFurther⟩ := ihSecond value after
        have adds : after.calls = before.calls ++ calls := adds
        rw [adds] at addsFurther followsFurther
        exact ⟨calls ++ further, addsFurther.trans (List.append_assoc ..),
          follows.append followsFurther⟩

end Session

end MainsCharts
