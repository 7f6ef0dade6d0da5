import MainsCharts.CommandLine.Run
import MainsCharts.Proofs.Dump.Composition
import MainsCharts.Proofs.FileStore.Creation

/-!
# Filtering files

The blacklist is read before anything is written, but the dump is read after the output
was made (`exists_of_filterDump`).  Where the output is the dump, nothing is left of the
dump by then.

So a filter that succeeds leaves the filtered dump in its output unless the two paths
lead to one file, or the output is the null device (`holdsFiltered_filterDump_iff`).
-/

namespace MainsCharts.CommandLine

set_option autoImplicit false

open Text

variable {store : FileStore} {dump blacklist output : String}

/-! ## Reading -/

theorem readFile_eq_ok_iff {path : String} {content : List UInt8} :
    readFile store path = .ok content ↔
      ∃ place, store.access path = .ok place ∧ store.contentAt place = .ok content := by
  unfold readFile
  cases store.access path with
  | error fault => simp
  | ok place => simp [mapError_eq_ok_iff]

section Made

variable {location : Location} {created : FileStore}
  (made : store.create output = .ok (location, created))
include made

/-- Once the output was made, a path to it reads as nothing. -/
theorem readFile_of_create_self (leads : store.access dump = .ok location) :
    readFile created dump = .ok [] :=
  readFile_eq_ok_iff.mpr ⟨location,
    (FileStore.changedAt_of_create made).access leads (FileStore.isSome_of_create made),
    FileStore.contentAt_of_create made⟩

/-- Once the output was made, a path to something else reads as before. -/
theorem readFile_of_create_of_ne (elsewhere : store.access dump ≠ .ok location)
    {content : List UInt8} (reads : readFile store dump = .ok content) :
    readFile created dump = .ok content := by
  obtain ⟨place, leads, contains⟩ := readFile_eq_ok_iff.mp reads
  have changed := FileStore.changedAt_of_create made
  have away : place ≠ location := by
    rintro rfl
    exact elsewhere leads
  rw [← changed.contentAt away] at contains
  exact readFile_eq_ok_iff.mpr
    ⟨place, changed.access leads (FileStore.isSome_of_contentAt contains), contains⟩

/-- What was written to the output is read from it, unless it is a device. -/
theorem readFile_write_of_create (content : List UInt8) :
    readFile (created.write location content) output =
      .ok (if store.node? location = some .device then [] else content) := by
  have plain := (FileStore.changedAt_of_create made).after
  have contains := FileStore.contentAt_write (FileStore.isSome_of_create made) plain content
  simp only [FileStore.device_iff_of_create made] at contains
  exact readFile_eq_ok_iff.mpr
    ⟨location, (FileStore.ChangedAt.write plain content).access
      (FileStore.access_of_create made) (FileStore.isSome_of_contentAt contains), contains⟩

end Made

/-! ## Runs -/

/-- A failure is told by the exit status. -/
theorem RunFailure.exitStatus_ne_zero (failure : RunFailure) : failure.exitStatus ≠ 0 := by
  unfold exitStatus
  split
  · split
    · omega
    · decide
  · decide

theorem exitStatus_eq_zero_iff {outcome : Outcome} :
    (ProgramResult.ofOutcome outcome).exitStatus = 0 ↔ outcome.verdict = .ok () := by
  unfold ProgramResult.ofOutcome
  cases verdict : outcome.verdict with
  | error failure => simpa using failure.exitStatus_ne_zero
  | ok done => simp

/-- What a filter does that succeeds. -/
theorem exists_of_filterDump (done : (filterDump store dump blacklist output).verdict = .ok ()) :
    ∃ listed ranges location created content rows,
      readFile store blacklist = .ok listed ∧ (Blacklist.read listed).outcome = .ok ranges ∧
      store.create output = .ok (location, created) ∧ readFile created dump = .ok content ∧
      (Dump.filter ranges content).outcome = .ok rows ∧
      (filterDump store dump blacklist output).store =
        created.write location (Dump.filter ranges content).written := by
  unfold filterDump at done ⊢
  cases listing : readFile store blacklist with
  | error failure => rw [listing] at done; exact nomatch done
  | ok listed =>
      rw [listing] at done
      dsimp only at done ⊢
      cases parsed : (Blacklist.read listed).outcome with
      | error fault => rw [parsed] at done; exact nomatch done
      | ok ranges =>
          rw [parsed] at done
          dsimp only at done ⊢
          cases made : store.create output with
          | error fault => rw [made] at done; exact nomatch done
          | ok opened =>
              obtain ⟨location, created⟩ := opened
              rw [made] at done
              dsimp only [filterInto] at done ⊢
              cases reads : readFile created dump with
              | error failure => rw [reads] at done; exact nomatch done
              | ok content =>
                  rw [reads] at done
                  dsimp only at done ⊢
                  cases filtered : (Dump.filter ranges content).outcome with
                  | error fault => rw [filtered] at done; exact nomatch done
                  | ok rows =>
                      exact ⟨listed, ranges, location, created, content, rows, rfl, parsed, rfl,
                        reads, filtered, rfl⟩

/-! ## The output -/

/-- The output holds the dump as it was, filtered with the ranges that were listed. -/
def HoldsFiltered (before after : FileStore) (dump blacklist output : String) : Prop :=
  ∃ listed ranges content rows,
    readFile before blacklist = .ok listed ∧ (Blacklist.read listed).outcome = .ok ranges ∧
    readFile before dump = .ok content ∧ (Dump.filter ranges content).outcome = .ok rows ∧
    readFile after output = .ok (Dump.filter ranges content).written

/-- Two paths of which the second does not lead where the first leads, nor to a device. -/
def Apart (store : FileStore) (dump output : String) : Prop :=
  ∀ place, store.access output = .ok place →
    store.access dump ≠ .ok place ∧ store.node? place ≠ some .device

/-- What a filter that succeeds leaves in its output: the filtered dump if the paths are
apart, and nothing otherwise. -/
theorem output_of_filterDump
    (done : (filterDump store dump blacklist output).verdict = .ok ()) :
    ∃ listed ranges,
      readFile store blacklist = .ok listed ∧ (Blacklist.read listed).outcome = .ok ranges ∧
      (∀ content, readFile store dump = .ok content → Apart store dump output →
        ∃ rows, (Dump.filter ranges content).outcome = .ok rows ∧
          readFile (filterDump store dump blacklist output).store output =
            .ok (Dump.filter ranges content).written) ∧
      (¬ Apart store dump output →
        readFile (filterDump store dump blacklist output).store output = .ok []) := by
  obtain ⟨listed, ranges, location, created, found, rows, listing, parsed, made, reading,
    filtered, after⟩ := exists_of_filterDump done
  rw [after, readFile_write_of_create made]
  refine ⟨listed, ranges, listing, parsed, ?_, ?_⟩
  · intro content reads apart
    have there : (store.node? location).isSome →
        store.access dump ≠ .ok location ∧ store.node? location ≠ some .device := fun there =>
      apart location ((FileStore.access_before_create made).mpr ⟨rfl, there⟩)
    -- What the dump is read from is there before the output is made.
    have elsewhere : store.access dump ≠ .ok location := by
      intro leads
      obtain ⟨place, leadsToo, contains⟩ := readFile_eq_ok_iff.mp reads
      obtain rfl := Except.ok.inj (leads.symm.trans leadsToo)
      exact (there (FileStore.isSome_of_contentAt contains)).1 leads
    have notDevice : store.node? location ≠ some .device := by
      intro device
      exact (there (by rw [device]; rfl)).2 device
    obtain rfl := Except.ok.inj (reading.symm.trans (readFile_of_create_of_ne made elsewhere reads))
    exact ⟨rows, filtered, by rw [if_neg notDevice]⟩
  · intro together
    simp only [Apart, not_forall] at together
    obtain ⟨place, leads, together⟩ := together
    obtain ⟨rfl, there⟩ := (FileStore.access_before_create made).mp leads
    by_cases device : store.node? place = some .device
    · rw [if_pos device]
    · have same : store.access dump = .ok place := by
        simpa [device] using together
      obtain rfl := Except.ok.inj (reading.symm.trans (readFile_of_create_self made same))
      rw [show (Dump.filter ranges []).written = [] from rfl, ite_self]

/-- The output of a filter that succeeds holds what it should unless the paths are
together and something was lost by that. -/
theorem holdsFiltered_filterDump_iff
    (done : (filterDump store dump blacklist output).verdict = .ok ()) :
    HoldsFiltered store (filterDump store dump blacklist output).store dump blacklist output ↔
      ∃ content, readFile store dump = .ok content ∧
        (content = [] ∨ Apart store dump output) := by
  obtain ⟨listed, ranges, listing, parsed, apartHolds, togetherHolds⟩ := output_of_filterDump done
  constructor
  · rintro ⟨listed', ranges', content, rows, listing', parsed', reads, filtered, holds⟩
    refine ⟨content, reads, or_iff_not_imp_right.mpr ?_⟩
    intro together
    rw [togetherHolds together, Except.ok.injEq] at holds
    by_contra nonempty
    exact Dump.written_ne_nil filtered nonempty holds.symm
  · rintro ⟨content, reads, possible⟩
    by_cases apart : Apart store dump output
    · obtain ⟨rows, filtered, holds⟩ := apartHolds content reads apart
      exact ⟨listed, ranges, content, rows, listing, parsed, reads, filtered, holds⟩
    · obtain rfl := possible.resolve_right apart
      exact ⟨listed, ranges, [], 0, listing, parsed, reads, rfl, togetherHolds apart⟩

/-! ## Command lines -/

variable {host : Host} {environment : Option String} {words : List String} {program : String}

/-- The filter is asked for by its name and three paths.  None of them may be empty or look
like an option. -/
theorem read_filter (store : FileStore) (environment : Option String)
    (given : ∀ path ∈ [dump, blacklist, output], path ≠ "" ∧ Word.of path.toList = .plain) :
    Request.read store environment ["filter-xml", dump, blacklist, output] =
      .ok ⟨environment.getD defaultProgram, .filter dump blacklist output⟩ := by
  obtain ⟨first, second, third⟩ :
      (dump ≠ "" ∧ Word.of dump.toList = .plain) ∧
        (blacklist ≠ "" ∧ Word.of blacklist.toList = .plain) ∧
        (output ≠ "" ∧ Word.of output.toList = .plain) := by
    simpa using given
  have named : Task.named? "filter-xml" = some .filter := by decide
  simp [Request.read, readOuter, readTask, named, helpCommand, Progress.start, Progress.next,
    Progress.plain, Progress.positional, Progress.expected?, Progress.settle, Grammar.ofTask,
    Settings.none, Settings.give, CommandLine.given, readPath, Settings.work, bind, Except.bind,
    pure, Except.pure, first, second, third]

theorem run_filter (asked : Request.read host.store environment words =
      .ok ⟨program, .filter dump blacklist output⟩) :
    run host environment words = .ofOutcome (filterDump host.store dump blacklist output) := by
  rw [run, asked]
  rfl

/-- **What a filter leaves that exits with success.**  Its output holds the dump as it was
before the run, filtered with the ranges that were listed before the run, exactly when the
dump was empty or the two paths are apart.  Otherwise nothing is left in the output. -/
theorem filtered_iff_apart
    (asked : Request.read host.store environment words =
      .ok ⟨program, .filter dump blacklist output⟩)
    (succeeded : (run host environment words).exitStatus = 0) :
    (HoldsFiltered host.store (run host environment words).store dump blacklist output ↔
      ∃ content, readFile host.store dump = .ok content ∧
        (content = [] ∨ Apart host.store dump output)) ∧
    (¬ Apart host.store dump output →
      readFile (run host environment words).store output = .ok []) := by
  rw [run_filter asked] at succeeded ⊢
  have done := exitStatus_eq_zero_iff.mp succeeded
  obtain ⟨listed, ranges, -, -, -, together⟩ := output_of_filterDump done
  exact ⟨holdsFiltered_filterDump_iff done, together⟩

/-- A host with a dump and a blacklist, and no renderer. -/
def desk : Host where
  store :=
    { nodes :=
        [(["dump.xml"], .file (Utf8.encode Dump.twoRows) false),
          (["list.txt"], .file (Utf8.encode "150:250 # outage\n".toList) false)]
      current := [] }
  programs := "/programs"
  behaviour := fun _ _ => ⟨[], [], .exited 0⟩

/-- The blacklist may be the output. -/
theorem filtered_iff_apart_desk :
    Request.read desk.store none ["filter-xml", "dump.xml", "list.txt", "list.txt"] =
      .ok ⟨"rrdtool", .filter "dump.xml" "list.txt" "list.txt"⟩ ∧
    (run desk none ["filter-xml", "dump.xml", "list.txt", "list.txt"]).exitStatus = 0 ∧
    HoldsFiltered desk.store
      (run desk none ["filter-xml", "dump.xml", "list.txt", "list.txt"]).store
      "dump.xml" "list.txt" "list.txt" := by
  have asked : Request.read desk.store none ["filter-xml", "dump.xml", "list.txt", "list.txt"] =
      .ok ⟨"rrdtool", .filter "dump.xml" "list.txt" "list.txt"⟩ :=
    read_filter _ _ (by decide)
  have succeeded :
      (run desk none ["filter-xml", "dump.xml", "list.txt", "list.txt"]).exitStatus = 0 := by
    decide +kernel
  have apart : Apart desk.store "dump.xml" "list.txt" := by
    intro place leads
    have output : desk.store.access "list.txt" = .ok ["list.txt"] := by decide +kernel
    obtain rfl := Except.ok.inj (output.symm.trans leads)
    exact ⟨by decide +kernel, by decide⟩
  have reads : readFile desk.store "dump.xml" = .ok (Utf8.encode Dump.twoRows) :=
    readFile_eq_ok_iff.mpr ⟨["dump.xml"], by decide +kernel, rfl⟩
  exact ⟨asked, succeeded, (filtered_iff_apart asked succeeded).1.mpr ⟨_, reads, .inr apart⟩⟩

/-- A dump that is its own output is lost. -/
theorem dump_lost_desk :
    Request.read desk.store none ["filter-xml", "dump.xml", "list.txt", "dump.xml"] =
      .ok ⟨"rrdtool", .filter "dump.xml" "list.txt" "dump.xml"⟩ ∧
    (run desk none ["filter-xml", "dump.xml", "list.txt", "dump.xml"]).exitStatus = 0 ∧
    ¬ HoldsFiltered desk.store
      (run desk none ["filter-xml", "dump.xml", "list.txt", "dump.xml"]).store
      "dump.xml" "list.txt" "dump.xml" := by
  have asked : Request.read desk.store none ["filter-xml", "dump.xml", "list.txt", "dump.xml"] =
      .ok ⟨"rrdtool", .filter "dump.xml" "list.txt" "dump.xml"⟩ :=
    read_filter _ _ (by decide)
  have succeeded :
      (run desk none ["filter-xml", "dump.xml", "list.txt", "dump.xml"]).exitStatus = 0 := by
    decide +kernel
  refine ⟨asked, succeeded, ?_⟩
  rw [run_filter asked] at succeeded ⊢
  have done := exitStatus_eq_zero_iff.mp succeeded
  intro holds
  obtain ⟨content, reads, possible⟩ := (holdsFiltered_filterDump_iff done).mp holds
  have leads : desk.store.access "dump.xml" = .ok ["dump.xml"] := by decide +kernel
  have before : readFile desk.store "dump.xml" = .ok (Utf8.encode Dump.twoRows) :=
    readFile_eq_ok_iff.mpr ⟨["dump.xml"], leads, rfl⟩
  obtain rfl := Except.ok.inj (before.symm.trans reads)
  rcases possible with empty | apart
  · exact Utf8.encode_ne_nil (by decide) empty
  · exact (apart _ leads).1 leads

end MainsCharts.CommandLine
