import MainsCharts.Proofs.Build.Overlay
import MainsCharts.Proofs.Chart.Slices
import MainsCharts.Proofs.Element.Fields

/-!
# What a built overlay reads

Each stored series of a built overlay is one of its arguments.  The renderer reads it back
as the file of the job and the two times of its stretch exactly when the path does not end
in a backslash and the end of the window has no colon in it (`stored_reads_iff`): the times
are written without escaping, so the colon of a time of day cuts them in two
(`stored_cut_at_noon`).
-/

namespace MainsCharts.ChartJob

set_option autoImplicit false

open Text Element Overlay

/-- The series of a stretch are named without colons and backslashes. -/
theorem isClean_rawName {kind : String} (listed : kind ∈ kinds.map Prod.fst) (stretch : Nat) :
    IsClean (rawName stretch kind) :=
  ⟨not_mem_of_isName (isName_rawName listed stretch) rfl,
    not_mem_of_isName (isName_rawName listed stretch) rfl⟩

theorem isClean_source (chart : Chart) : IsClean chart.source := by
  cases chart <;> exact ⟨by decide, by decide⟩

theorem toList_earlier (moment : String) (seconds : Nat) :
    (Window.earlier moment seconds).toList =
      moment.toList ++ '-' :: (Nat.repr seconds).toList := by
  simp [Window.earlier]

/-- A time some seconds before another has the colons of that other. -/
theorem colon_mem_earlier_iff (moment : String) (seconds : Nat) :
    ':' ∈ (Window.earlier moment seconds).toList ↔ ':' ∈ moment.toList := by
  rw [toList_earlier, List.mem_append]
  refine or_iff_left ?_
  intro member
  rcases List.mem_cons.mp member with sign | digit
  · exact absurd sign (by decide)
  · exact absurd (Numeral.isDigit_of_mem_repr digit) (by decide)

/-- A time some seconds before another does not end in a backslash, but in a digit. -/
theorem not_endsInBackslash_earlier (moment : String) (seconds : Nat) :
    ¬ EndsInBackslash (Window.earlier moment seconds).toList := by
  rw [toList_earlier, EndsInBackslash, List.getLast?_append_cons]
  intro ends
  rcases List.mem_cons.mp (List.mem_of_getLast? ends) with sign | digit
  · exact absurd sign (by decide)
  · exact absurd (Numeral.isDigit_of_mem_repr digit) (by decide)

/-- The times of a stretch can stand unescaped when the end of the window can. -/
theorem spanReadable_plainSpan_iff (stop : String) (width stretch : Nat) :
    SpanReadable (plainSpan stop width stretch) ↔ ':' ∉ stop.toList := by
  rw [SpanReadable, plainSpan, colon_mem_earlier_iff, colon_mem_earlier_iff]
  constructor
  · rintro ⟨clean, _, _⟩
    exact clean
  · intro clean
    exact ⟨clean, not_endsInBackslash_earlier _ _, clean⟩

/-- The stored series of a built overlay are among its arguments. -/
theorem mem_arguments_of_overlay {job : ChartJob} {chart : Chart} {renderer : Renderer}
    {canvas : Canvas} {before : Transcript} {command : Command} {stop : String} {width depth : Nat}
    (window : job.window = .overlay stop width depth)
    (built : ((job.build chart renderer canvas).perform before).1 = .ok command)
    {stretch : Nat} (bounded : stretch < depth) {kind : String} {consolidation : Consolidation}
    (listed : (kind, consolidation) ∈ kinds) :
    (stored (rawName stretch kind) job.path chart.source consolidation
      (some (plainSpan stop width stretch))).text ∈ command.arguments := by
  obtain ⟨declarations, _, plan, ready, _, _, rfl⟩ := of_build_eq_ok built
  obtain ⟨checked, period, trendWindow, _, _, declared⟩ := prepared_eq_ok_iff.mp ready
  obtain ⟨drawing, drawn, _, rfl⟩ := of_declarations_eq_ok declared
  have overlay : chart.isOverlay = true := by
    rw [checkWindow_eq_ok_iff.mp (checkRequest_eq_ok_iff.mp checked).2.2, window]
    rfl
  have sameWindow : (job.context period trendWindow).window = .overlay stop width depth := window
  obtain ⟨rest, elements⟩ := Chart.exists_elements_eq overlay sameWindow drawn
  have inSlice : stored (rawName stretch kind) job.path chart.source consolidation
      (some (plainSpan stop width stretch)) ∈ drawing.elements := by
    rw [elements]
    refine List.mem_append_left _ (List.mem_flatMap.mpr ⟨stretch, List.mem_range.mpr bounded, ?_⟩)
    exact List.mem_append_left _ (List.mem_map.mpr ⟨_, listed, rfl⟩)
  refine List.mem_append_right _ ?_
  exact List.mem_cons_of_mem _ (List.mem_cons_of_mem _ (List.mem_map_of_mem inSlice))

/-- **When a stored series reads back.**  The text of a stored series, with a name and a source
that need no escaping, reads back as the fields that it was made of exactly when its path does not
end in a backslash and its times, if it has any, are readable.  In a built overlay that is so for
the series of every stretch when the end of the window has no colon, and for none of them
otherwise. -/
theorem stored_reads_iff {name path source : String} {consolidation : Consolidation}
    {span : Option FetchSpan} (cleanName : IsClean name) (cleanSource : IsClean source) :
    (fieldsOf (stored name path source consolidation span).text.toList =
        (storedFields name path source consolidation span).map String.toList ↔
      ¬ EndsInBackslash path.toList ∧ ∀ times ∈ span, SpanReadable times) ∧
    ∀ (job : ChartJob) (chart : Chart) (renderer : Renderer) (canvas : Canvas)
      (before : Transcript) (command : Command) (stop : String) (width depth : Nat),
      job.window = .overlay stop width depth →
      ((job.build chart renderer canvas).perform before).1 = .ok command →
      ∀ stretch < depth, ∀ (kind : String) (consolidation : Consolidation),
        (kind, consolidation) ∈ kinds →
        ∃ argument ∈ command.arguments,
          argument = (stored (rawName stretch kind) job.path chart.source consolidation
            (some (plainSpan stop width stretch))).text ∧
          (fieldsOf argument.toList =
              ["DEF", rawName stretch kind ++ "=" ++ job.path, chart.source, consolidation.token,
                "start=" ++ Window.earlier stop ((stretch + 1) * width),
                "end=" ++ Window.earlier stop (stretch * width)].map String.toList ↔
            ¬ EndsInBackslash job.path.toList ∧ ':' ∉ stop.toList) := by
  refine ⟨fieldsOf_stored_iff cleanName cleanSource, ?_⟩
  intro job chart renderer canvas before command stop width depth window built stretch bounded
    kind consolidation listed
  refine ⟨_, mem_arguments_of_overlay window built bounded listed, rfl, ?_⟩
  have named := isClean_rawName (List.mem_map_of_mem listed) stretch
  refine (fieldsOf_stored_iff named (isClean_source chart)).trans ?_
  simp only [Option.mem_some_iff, forall_eq', spanReadable_plainSpan_iff]

/-- A time of day is cut at its colon. -/
theorem stored_cut_at_noon :
    IsClean "r_avg" ∧ IsClean "freq" ∧
      fieldsOf (stored "r_avg" "/data/mains.rrd" "freq" .average
        (some ⟨"12:00-86400", "12:00-0"⟩)).text.toList =
        ["DEF", "r_avg=/data/mains.rrd", "freq", "AVERAGE", "start=12", "00-86400", "end=12",
          "00-0"].map String.toList ∧
      fieldsOf (stored "r_avg" "/data/mains.rrd" "freq" .average
        (some ⟨"12:00-86400", "12:00-0"⟩)).text.toList ≠
        ["DEF", "r_avg=/data/mains.rrd", "freq", "AVERAGE", "start=12:00-86400",
          "end=12:00-0"].map String.toList := by
  exact ⟨⟨by decide, by decide⟩, ⟨by decide, by decide⟩, by decide, by decide⟩

/-- A series without times, and the most recent average of two hours until now. -/
theorem stored_reads_twoHours :
    fieldsOf (stored "r" "/data/mains.rrd" "freq" .average none).text.toList =
        ["DEF", "r=/data/mains.rrd", "freq", "AVERAGE"].map String.toList ∧
      ∃ command, (((twoHours 49.9 50.1).build .overlap muteRenderer .standard).perform .empty).1 =
          .ok command ∧
        ∃ argument ∈ command.arguments, fieldsOf argument.toList =
          ["DEF", "r_i0_avg=/var/lib/mains.rrd", "freq", "AVERAGE", "start=now-3600",
            "end=now-0"].map String.toList := by
  have order : ¬ (50.1 : Float) ≤ 49.9 := by decide
  obtain ⟨drawing, _, built⟩ := build_twoHours order muteRenderer .standard .empty
  have cleanName : IsClean "r" := ⟨by decide, by decide⟩
  have cleanSource : IsClean "freq" := ⟨by decide, by decide⟩
  obtain ⟨plain, fetched⟩ := @stored_reads_iff "r" "/data/mains.rrd" "freq" .average none cleanName
    cleanSource
  obtain ⟨argument, member, _, reads⟩ := fetched _ _ _ _ _ _ "now" 3600 2 rfl built 0 (by decide)
    "avg" .average (by decide)
  exact ⟨plain.mpr ⟨by decide, nofun⟩, _, built, argument, member, reads.mpr ⟨by decide, by decide⟩⟩

end MainsCharts.ChartJob
