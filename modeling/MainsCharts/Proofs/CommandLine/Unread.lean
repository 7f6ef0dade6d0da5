import MainsCharts.Proofs.CommandLine.Filtering

/-!
# Filters that cannot read their sources

A filter reads two files and makes a third.  When the ranges cannot be read from the blacklist
the filter has touched nothing (`filterDump_of_unlisted`).  But the output is made before the
dump is opened, so a dump that cannot be opened leaves an empty output behind
(`filterDump_of_unopened`): one that was missing is there then, and one that was there has lost
what it held.

So such a filter leaves all files as they were exactly when it was the blacklist that could not
be read, or when there was nothing in the output to lose (`unread_kept_iff`).
-/

namespace MainsCharts

set_option autoImplicit false

namespace FileStore

/-- That the same stands at each location. -/
def Kept (earlier later : FileStore) : Prop :=
  ∀ place, later.node? place = earlier.node? place

theorem Kept.refl (store : FileStore) : Kept store store :=
  fun _ => rfl

/-- Making a file keeps the store exactly when the file was there and had nothing in it. -/
theorem kept_create_iff {store created : FileStore} {location : Location} {path : String}
    (made : store.create path = .ok (location, created)) :
    Kept store created ↔ store.contentAt location = .ok [] := by
  have changed := changedAt_of_create made
  have atLocation : Kept store created ↔ created.node? location = store.node? location := by
    constructor
    · intro kept
      exact kept location
    · intro same place
      by_cases here : place = location
      · rw [here, same]
      · exact changed.elsewhere place here
  rw [atLocation, contentAt]
  obtain ⟨parents, name, parent, -, -, -, -, -, rfl, plain, rfl⟩ := exists_of_create made
  cases found : store.node? (parent ++ [name]) with
  | none => simp [node?_put_self]
  | some node =>
      cases node with
      | directory => exact absurd found plain
      | file before executable => simp [node?_write_self, found, eq_comm]
      | device => simp [node?_write_self, found]

end FileStore

namespace CommandLine

open FileStore

variable {store : FileStore} {dump blacklist output : String}

/-! ## Sources -/

/-- That no ranges can be read from a path: it cannot be opened or read, or does not read as
text. -/
def Unlisted (store : FileStore) (blacklist : String) : Prop :=
  ∀ listed, readFile store blacklist = .ok listed →
    ∀ ranges, (Blacklist.read listed).outcome ≠ .ok ranges

/-- That a dump cannot be opened by the time that the output was made. -/
def Unopened (store : FileStore) (dump output : String) : Prop :=
  ∃ location created fault, store.create output = .ok (location, created) ∧
    created.access dump = .error fault

/-- Ranges are missing when the path is not read, or what it holds is not valid text. -/
theorem unlisted_iff : Unlisted store blacklist ↔
    (∃ failure, readFile store blacklist = .error failure) ∨
      ∃ listed fault, readFile store blacklist = .ok listed ∧
        (Blacklist.read listed).outcome = .error fault := by
  unfold Unlisted
  cases reads : readFile store blacklist with
  | error failure => simp
  | ok listed => cases parsed : (Blacklist.read listed).outcome <;> simp [parsed]

/-- A path that cannot be opened lists nothing. -/
theorem unlisted_of_access {fault : SystemFault} (closed : store.access blacklist = .error fault) :
    Unlisted store blacklist := by
  refine unlisted_iff.mpr (.inl ⟨.opening blacklist fault, ?_⟩)
  rw [readFile, closed]

/-! ## Runs -/

theorem code_of_readFile {failure : RunFailure} {path : String}
    (unread : readFile store path = .error failure) : failure.code = none := by
  unfold readFile at unread
  cases leads : store.access path with
  | error fault =>
      rw [leads] at unread
      cases unread
      rfl
  | ok place =>
      rw [leads] at unread
      dsimp only at unread
      cases contains : store.contentAt place with
      | error fault =>
          rw [contains] at unread
          cases unread
          rfl
      | ok content =>
          rw [contains] at unread
          exact nomatch unread

/-- A filter without ranges fails and touches nothing. -/
theorem filterDump_of_unlisted (unlisted : Unlisted store blacklist) :
    (∃ failure, (filterDump store dump blacklist output).verdict = .error failure ∧
      failure.code = none) ∧
    (filterDump store dump blacklist output).store = store := by
  unfold filterDump
  rcases unlisted_iff.mp unlisted with ⟨failure, reads⟩ | ⟨listed, fault, reads, parsed⟩
  · rw [reads]
    exact ⟨⟨failure, rfl, code_of_readFile reads⟩, rfl⟩
  · rw [reads]
    dsimp only
    rw [parsed]
    exact ⟨⟨.reading fault, rfl, rfl⟩, rfl⟩

/-- A filter whose dump cannot be opened has made its output by then. -/
theorem filterDump_of_unopened {listed : List UInt8} {ranges : Blacklist} {location : Location}
    {created : FileStore} {fault : SystemFault} (reads : readFile store blacklist = .ok listed)
    (parsed : (Blacklist.read listed).outcome = .ok ranges)
    (made : store.create output = .ok (location, created))
    (closed : created.access dump = .error fault) :
    (filterDump store dump blacklist output).verdict = .error (.opening dump fault) ∧
      (filterDump store dump blacklist output).store = created := by
  have unread : readFile created dump = .error (.opening dump fault) := by
    rw [readFile, closed]
  unfold filterDump
  rw [reads]
  dsimp only
  rw [parsed]
  dsimp only
  rw [made]
  dsimp only [filterInto]
  rw [unread]
  exact ⟨rfl, rfl⟩

/-- A failure that is not the renderer's own exits with one. -/
theorem exitStatus_of_code_eq_none {outcome : Outcome} {failure : RunFailure}
    (failed : outcome.verdict = .error failure) (unowned : failure.code = none) :
    (ProgramResult.ofOutcome outcome).exitStatus = 1 := by
  rw [ProgramResult.ofOutcome, failed]
  dsimp only
  rw [RunFailure.exitStatus, unowned]

/-! ## What is left -/

/-- Before the output was made it was read as nothing, if it was read at all. -/
theorem readFile_before_create {created : FileStore} {location : Location}
    (made : store.create output = .ok (location, created)) :
    readFile store output = .ok [] ↔ store.contentAt location = .ok [] := by
  rw [readFile_eq_ok_iff]
  constructor
  · rintro ⟨place, leads, contains⟩
    obtain ⟨rfl, -⟩ := (access_before_create made).mp leads
    exact contains
  · intro contains
    exact ⟨location, (access_before_create made).mpr ⟨rfl, isSome_of_contentAt contains⟩, contains⟩

variable {host : Host} {environment : Option String} {words : List String} {program : String}

/-- **What a filter leaves that cannot read its sources.**  It exits with one.  All files are as
they were exactly when the ranges could not be read, or when the output was there before and had
nothing in it.  Otherwise the output is there and empty, and only the output has changed. -/
theorem unread_kept_iff
    (asked : Request.read host.store environment words =
      .ok ⟨program, .filter dump blacklist output⟩)
    (unread : Unlisted host.store blacklist ∨ Unopened host.store dump output) :
    (run host environment words).exitStatus = 1 ∧
    (Kept host.store (run host environment words).store ↔
      Unlisted host.store blacklist ∨ readFile host.store output = .ok []) ∧
    (¬ Unlisted host.store blacklist → ∃ location,
      (run host environment words).store.access output = .ok location ∧
      (run host environment words).store.contentAt location = .ok [] ∧
      ∀ place, place ≠ location →
        (run host environment words).store.node? place = host.store.node? place) := by
  rw [run_filter asked]
  by_cases unlisted : Unlisted host.store blacklist
  · obtain ⟨⟨failure, failed, unowned⟩, same⟩ :=
      @filterDump_of_unlisted _ dump _ output unlisted
    refine ⟨exitStatus_of_code_eq_none failed unowned, ?_, fun listed => absurd unlisted listed⟩
    refine iff_of_true ?_ (.inl unlisted)
    rw [ProgramResult.ofOutcome, same]
    exact Kept.refl _
  · obtain ⟨location, created, fault, made, closed⟩ := unread.resolve_left unlisted
    simp only [Unlisted, not_forall, not_not] at unlisted
    obtain ⟨listed, reads, ranges, parsed⟩ := unlisted
    obtain ⟨failed, after⟩ := filterDump_of_unopened reads parsed made closed
    have listable : ¬ Unlisted host.store blacklist := fun none => none listed reads ranges parsed
    refine ⟨exitStatus_of_code_eq_none failed rfl, ?_, fun _ => ⟨location, ?_⟩⟩
    · rw [ProgramResult.ofOutcome, after, or_iff_right listable, readFile_before_create made]
      exact kept_create_iff made
    · rw [ProgramResult.ofOutcome, after]
      exact ⟨access_of_create made, contentAt_of_create made, (changedAt_of_create made).elsewhere⟩

/-- A blacklist that is missing costs nothing. -/
theorem unread_kept_iff_desk :
    Request.read desk.store none ["filter-xml", "dump.xml", "none.txt", "list.txt"] =
      .ok ⟨"rrdtool", .filter "dump.xml" "none.txt" "list.txt"⟩ ∧
    Unlisted desk.store "none.txt" ∧
    (run desk none ["filter-xml", "dump.xml", "none.txt", "list.txt"]).exitStatus = 1 ∧
    Kept desk.store (run desk none ["filter-xml", "dump.xml", "none.txt", "list.txt"]).store := by
  have asked : Request.read desk.store none ["filter-xml", "dump.xml", "none.txt", "list.txt"] =
      .ok ⟨"rrdtool", .filter "dump.xml" "none.txt" "list.txt"⟩ :=
    read_filter _ _ (by decide)
  have unlisted : Unlisted desk.store "none.txt" :=
    unlisted_of_access (show desk.store.access "none.txt" = .error .notFound by decide +kernel)
  obtain ⟨failed, kept, -⟩ := unread_kept_iff asked (.inl unlisted)
  exact ⟨asked, unlisted, failed, kept.mpr (.inl unlisted)⟩

/-- An output is lost when the dump is missing. -/
theorem output_lost_desk :
    Request.read desk.store none ["filter-xml", "none.xml", "list.txt", "dump.xml"] =
      .ok ⟨"rrdtool", .filter "none.xml" "list.txt" "dump.xml"⟩ ∧
    desk.store.access "none.xml" = .error .notFound ∧
    (run desk none ["filter-xml", "none.xml", "list.txt", "dump.xml"]).exitStatus = 1 ∧
    (run desk none ["filter-xml", "none.xml", "list.txt", "dump.xml"]).complaint =
      some "error: opening none.xml: No such file or directory (os error 2)" ∧
    readFile desk.store "dump.xml" = .ok (Text.Utf8.encode Dump.twoRows) ∧
    readFile (run desk none ["filter-xml", "none.xml", "list.txt", "dump.xml"]).store "dump.xml" =
      .ok [] ∧
    ¬ Kept desk.store (run desk none ["filter-xml", "none.xml", "list.txt", "dump.xml"]).store := by
  have asked : Request.read desk.store none ["filter-xml", "none.xml", "list.txt", "dump.xml"] =
      .ok ⟨"rrdtool", .filter "none.xml" "list.txt" "dump.xml"⟩ :=
    read_filter _ _ (by decide)
  have before : readFile desk.store "dump.xml" = .ok (Text.Utf8.encode Dump.twoRows) :=
    readFile_eq_ok_iff.mpr ⟨["dump.xml"], by decide +kernel, rfl⟩
  have after : readFile
      (run desk none ["filter-xml", "none.xml", "list.txt", "dump.xml"]).store "dump.xml" =
      .ok [] :=
    readFile_eq_ok_iff.mpr ⟨["dump.xml"], by decide +kernel, by decide +kernel⟩
  refine ⟨asked, by decide +kernel, by decide +kernel, by decide +kernel, before, after, ?_⟩
  intro kept
  have same := kept ["dump.xml"]
  revert same
  decide +kernel

end CommandLine

end MainsCharts
