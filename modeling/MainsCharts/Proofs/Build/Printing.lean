import MainsCharts.Proofs.Build.Overlay
import MainsCharts.Proofs.Text.Shell

/-!
# Printed commands

A command can be printed for a shell in place of being executed.  The two describe the
same invocation: the shell reads the program and the arguments back from the line, each
character standing for itself, and these are the arguments that the renderer is executed
with (`print_matches_execute`).
-/

namespace MainsCharts.Command

set_option autoImplicit false

open Text

variable (command : Command) (renderer : Renderer) (before : Transcript)

/-- The text of a command, with the end of its line and further text behind it. -/
theorem readShell_text (further : List Char) :
    readShell .between (command.text.toList ++ '\n' :: further) =
      some ⟨(command.program :: command.arguments).map literalWord, further⟩ :=
  readShell_shellLine further command.program command.arguments rfl

/-- The text of a command alone. -/
theorem readShell_text_alone :
    readShell .between command.text.toList =
      some ⟨(command.program :: command.arguments).map literalWord, []⟩ := by
  have ends : readShell .inside [] = some (ShellReading.close .inside ⟨[], []⟩) := rfl
  have reads := readShell_shellLine [] command.program command.arguments ends
  rwa [List.append_nil] at reads

/-- Printing a command asks nothing. -/
theorem perform_print :
    (command.run .print renderer).perform before =
      (.ok (), { before with
        printed := before.printed ++ Utf8.encode (command.text.toList ++ ['\n']) }) :=
  rfl

/-- Executing a command asks the renderer once. -/
theorem calls_execute :
    ((command.run .execute renderer).perform before).2.calls =
      before.calls ++ [⟨.execute, command.arguments⟩] := by
  have asks := (Session.runs_note before.calls
    (.rendering command.program command.arguments.length)).silent_bind fun _ =>
      (Session.runs_ask before.calls renderer .execute command.arguments).bind_silent fun _ =>
        Session.runs_pure _ ()
  exact (asks before rfl).2

/-- **A printed command matches the executed one.**  Every command reads back from its text as
its program and its arguments, with nothing in them for the shell to expand.  Of a command that
was built, what is printed is a line that reads back as the renderer's program with the arguments
that the renderer is executed with, and the renderer is not asked for it. -/
theorem print_matches_execute :
    (∀ command : Command, readShell .between command.text.toList =
      some ⟨(command.program :: command.arguments).map literalWord, []⟩) ∧
    ∀ (job : ChartJob) (chart : Chart) (renderer : Renderer) (canvas : Canvas)
      (before : Transcript) (command : Command),
      ((job.build chart renderer canvas).perform before).1 = .ok command →
      ∀ session : Transcript, ∃ line : String,
        (command.run .print renderer).perform session =
          (.ok (), { session with
            printed := session.printed ++ Utf8.encode (line.toList ++ ['\n']) }) ∧
        (∀ further, readShell .between (line.toList ++ '\n' :: further) =
          some ⟨(renderer.program :: command.arguments).map literalWord, further⟩) ∧
        ((command.run .execute renderer).perform session).2.calls =
          session.calls ++ [⟨.execute, command.arguments⟩] := by
  refine ⟨readShell_text_alone, ?_⟩
  intro job chart renderer canvas before command built session
  obtain ⟨_, _, _, _, _, _, rfl⟩ := ChartJob.of_build_eq_ok built
  exact ⟨_, perform_print _ renderer session, readShell_text _, calls_execute _ renderer session⟩

/-- The command for two hours, with the limits 49.9 and 50.1, at the start of a session. -/
theorem print_matches_execute_twoHours :
    ∃ (command : Command) (line : String),
      ((command.run .print ChartJob.muteRenderer).perform .empty).2.printed =
        Utf8.encode (line.toList ++ ['\n']) ∧
      readShell .between (line.toList ++ ['\n']) =
        some ⟨("rrdtool" :: command.arguments).map literalWord, []⟩ := by
  have order : ¬ (50.1 : Float) ≤ 49.9 := by decide
  obtain ⟨drawing, _, built⟩ := ChartJob.build_twoHours order ChartJob.muteRenderer .standard .empty
  obtain ⟨line, printed, reads, _⟩ := print_matches_execute.2 _ _ _ _ _ _ built .empty
  refine ⟨_, line, ?_, reads []⟩
  rw [printed]
  rfl

end MainsCharts.Command
