import Mathlib.Tactic.NormNum
import MainsCharts.Proofs.Axis.Plan
import MainsCharts.Proofs.Build.Overlay

/-!
# The axis of a built chart

When both ends of the axis are fixed, the limits of the plan have been compared as doubles and
the upper one is not the lesser or an equal one.  What the renderer is given is their text.
It denotes numbers in order exactly when both limits are finite and differ in ten places
(`limits_ascending_iff`), so limits that are closer than that are given as one number
(`limits_collapse_twoHours`).
-/

namespace MainsCharts.ChartJob

set_option autoImplicit false

open Numeral AxisPlan

variable {job : ChartJob} {chart : Chart} {renderer : Renderer} {canvas : Canvas}
  {before : Transcript} {command : Command}

/-- The plan of an axis is made from the bounds and the limits that are asked for, and leaves
something to draw. -/
theorem planAxis_eq_ok_iff {bounds : ValueBounds} {plan : AxisPlan} :
    job.planAxis chart bounds = .ok plan ↔
      plan = (fromBounds bounds chart.floor).withExplicit job.range.lower job.range.upper ∧
        plan.emptyRange? = none := by
  unfold planAxis
  dsimp only
  split
  · rename_i empty
    refine iff_of_false nofun ?_
    rintro ⟨rfl, ranged⟩
    rw [empty] at ranged
    exact nomatch ranged
  · rename_i ranged
    constructor
    · intro planned
      obtain rfl := Except.ok.inj planned
      exact ⟨rfl, ranged⟩
    · rintro ⟨rfl, _⟩
      rfl

theorem isSettled_of_planAxis_eq_ok {bounds : ValueBounds} {plan : AxisPlan}
    (planned : job.planAxis chart bounds = .ok plan) : plan.IsSettled := by
  obtain ⟨rfl, _⟩ := planAxis_eq_ok_iff.mp planned
  exact isSettled_withExplicit (isSettled_fromBounds bounds chart.floor) _ _

/-- The limits of a rigid plan have been compared. -/
theorem not_le_of_planAxis_eq_ok {bounds : ValueBounds} {lower upper : Float}
    (planned : job.planAxis chart bounds = .ok (.rigid lower upper)) : ¬ upper ≤ lower := by
  obtain ⟨_, ranged⟩ := planAxis_eq_ok_iff.mp planned
  intro empty
  rw [emptyRange?, if_pos empty] at ranged
  exact Option.some_ne_none _ ranged

theorem arguments_isInfix (plan : AxisPlan) (declarations : List String) :
    plan.arguments <:+: job.arguments canvas plan declarations :=
  ⟨_, _, rfl⟩

/-- **When the limits of a chart are given in order.**  The axis of a built command is planned
from the bounds that were learned, and rigid if both of its ends are fixed.  Then the texts of
the limits are numerals in order exactly when both limits are finite and are not rounded to the
same number of units of `10 ^ -10`, which is so whenever they are more than a unit apart; and
numerals out of order they never are. -/
theorem limits_ascending_iff
    (built : ((job.build chart renderer canvas).perform before).1 = .ok command) :
    ∃ declarations bounds plan,
      job.prepared chart renderer before.calls = .ok declarations ∧
      job.bounds chart renderer (before.calls ++ job.periodCalls chart) declarations =
        .ok bounds ∧
      job.planAxis chart bounds = .ok plan ∧
      command.arguments = canvas.arguments job.image ++ job.window.timeFlags ++ plan.arguments ++
        declarations ∧
      ("--lower-limit" ∈ plan.arguments → "--upper-limit" ∈ plan.arguments →
        ∃ lower upper, plan = .rigid lower upper ∧
          plan.arguments = ["--lower-limit", limitText lower, "--upper-limit", limitText upper,
            "--rigid"] ∧
          (Ascending (limitText lower) (limitText upper) ↔
            ∃ low high, exactValue? lower = some low ∧ exactValue? upper = some high ∧
              ∃ units further, IsNearest (low * 10 ^ 10) units ∧
                IsNearest (high * 10 ^ 10) further ∧ units ≠ further) ∧
          ∀ low high, exactValue? lower = some low → exactValue? upper = some high →
            low < high ∧ ¬ Ascending (limitText upper) (limitText lower) ∧
              (low + 1 / 10 ^ 10 < high →
                Ascending (limitText lower) (limitText upper))) := by
  obtain ⟨declarations, bounds, plan, ready, known, planned, rfl⟩ := of_build_eq_ok built
  refine ⟨declarations, bounds, plan, ready, known, planned, rfl, ?_⟩
  intro lowerGiven upperGiven
  obtain ⟨lower, upper, rfl⟩ :=
    (isSettled_of_planAxis_eq_ok planned).exists_of_mem_arguments lowerGiven upperGiven
  have order := not_le_of_planAxis_eq_ok planned
  refine ⟨lower, upper, rfl, rfl, ascending_limitText_iff order, ?_⟩
  intro low high isLow isHigh
  have less := (not_le_iff isLow isHigh).mp order
  exact ⟨less, not_ascending_of_lt isLow isHigh less, ascending_of_apart isLow isHigh⟩

/-- The range from zero to one. -/
theorem limits_ascending_twoHours :
    ∃ command, (((twoHours 0.0 1.0).build .overlap muteRenderer .standard).perform .empty).1 =
        .ok command ∧
      ["--lower-limit", "0", "--upper-limit", "1", "--rigid"] <:+: command.arguments ∧
      Ascending "0" "1" := by
  have order : ¬ (1.0 : Float) ≤ 0.0 := by decide
  obtain ⟨drawing, _, built⟩ := build_twoHours order muteRenderer .standard .empty
  obtain ⟨declarations, bounds, plan, _, _, planned, arguments, given⟩ :=
    limits_ascending_iff built
  obtain rfl : plan = .rigid 0.0 1.0 := (planAxis_eq_ok_iff.mp planned).1
  obtain ⟨lower, upper, same, _, _, ordered⟩ := given (by decide) (by decide)
  obtain ⟨rfl, rfl⟩ := AxisPlan.rigid.inj same
  have isOne : exactValue? 1.0 = some 1 := by
    have isMagnitude : exactValue? 1.0 = some (magnitude 4503599627370496 (-52)) := rfl
    rw [isMagnitude]
    norm_num [magnitude]
  have apart : (0 : ℚ) + 1 / 10 ^ 10 < 1 := by norm_num
  exact ⟨_, built, ⟨_, _, arguments.symm⟩, (ordered 0 1 rfl isOne).2.2 apart⟩

/-- Limits closer than a unit of the tenth place are given as one number. -/
theorem limits_collapse_twoHours :
    ∃ command, (((twoHours 0.0 0.00000000001).build .overlap muteRenderer .standard).perform
        .empty).1 = .ok command ∧
      ["--lower-limit", "0", "--upper-limit", "0", "--rigid"] <:+: command.arguments ∧
      ¬ Ascending "0" "0" := by
  have order : ¬ (0.00000000001 : Float) ≤ 0.0 := by decide
  obtain ⟨drawing, _, built⟩ := build_twoHours order muteRenderer .standard .empty
  have given : (rigid 0.0 0.00000000001).arguments =
      ["--lower-limit", "0", "--upper-limit", "0", "--rigid"] := by decide
  refine ⟨_, built, ?_, ?_⟩
  · rw [← given]
    exact arguments_isInfix _ drawing.arguments
  · rintro ⟨low, high, denotes, denotesOther, less⟩
    rw [denotes.unique denotesOther] at less
    exact lt_irrefl _ less

end MainsCharts.ChartJob
