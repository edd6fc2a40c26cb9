import SourceAtlas.CommandLine.Execution
import SourceAtlas.Proofs.ActWork

/-!
How a command ends, part by part. An index that is printed ends as its making does, and no failure
after the settings have been read is left without a message.
-/
namespace SourceAtlas.CommandLine

open Text

theorem run_of_read {arguments : List String} {invocation : Invocation}
    (read : Invocation.read arguments = .ok invocation) (registry : Registry)
    (outside : Surroundings) (key : Option Points) (site : Site) :
    (run registry outside key site arguments).ending =
        ((invocation.run registry outside key).outcome site).1 ∧
      (run registry outside key site arguments).site =
        ((invocation.run registry outside key).outcome site).2.site := by
  rw [run, read]
  exact ⟨rfl, rfl⟩

theorem ending_of_stop {arguments : List String} {stop : Stop}
    (stopped : Invocation.read arguments = .error stop) (registry : Registry)
    (outside : Surroundings) (key : Option Points) (site : Site) :
    (run registry outside key site arguments).ending = .ok (.ofStop stop) := by
  rw [run, stopped]

theorem makeIndex_ok (registry : Registry) (outside : Surroundings) (toStdout : Bool)
    (settings : Settings) (site : Site) :
    ∃ ending, ((makeIndex registry outside toStdout settings).outcome site).1 = .ok ending := by
  unfold makeIndex Act.outcome
  dsimp only
  rw [run_tryCatch]
  split
  · exact ⟨_, rfl⟩
  · exact ⟨_, rfl⟩

def printingOf : Except Failure IndexResult → Ending
  | .ok index => .printed (withLineEnd index.content)
  | .error failure => refusalOf failure

theorem makeIndex_printing {registry : Registry} {outside : Surroundings} {settings : Settings}
    {site : Site} {result : Except Failure IndexResult}
    (given : (Indexing.generate registry site settings (outside.room - callsAbove)
      outside.now).Gives result) :
    (makeIndex registry outside true settings).Does site (.ok (printingOf result)) site := by
  unfold makeIndex
  simp only [if_true]
  have made : (Act.ofNoted (Indexing.generate registry site settings (outside.room - callsAbove)
      outside.now)).Does site result site :=
    Act.does_ofNoted given
  cases result with
  | ok index =>
      refine Act.Does.kept ?_ _
      refine Act.does_site.seq (made.seq ?_)
      exact Act.does_pure _
  | error failure =>
      exact (Act.does_site.seq (made.stop _)).caught (Act.does_pure _)

theorem generate_outcome (registry : Registry) (outside : Surroundings) (key : Option Points)
    (verbose : Bool) (options : GenerateOptions) (site : Site) :
    (generate registry outside key verbose options).outcome site =
      match site.expandHome (.ofText options.path) with
      | .error fault => (.error (.path fault), ⟨site, []⟩)
      | .ok directory =>
          match site.isDirectory? directory with
          | .error error => (.error (.os error), ⟨site, []⟩)
          | .ok false =>
              (.ok (.refused ("Repository path not found or not a directory: " ++ options.path)),
                ⟨site, []⟩)
          | .ok true =>
              match Settings.load site (.ofText options.path) with
              | .error fault =>
                  (if fault.kind == .configuration then .ok (.refused fault.message)
                    else .error (.settings fault), ⟨site, []⟩)
              | .ok settings =>
                  let settings := options.applyTo verbose (key.filter (!·.isEmpty)) settings
                  if settings.encrypt && settings.encryptionKey.isNone && !options.toStdout then
                    (.ok (.refused ("Encryption requested but $" ++ keyVariable ++ " is not set")),
                      ⟨site, []⟩)
                  else (makeIndex registry outside options.toStdout settings).outcome site := by
  have here : Act.site.outcome site = (.ok site, ⟨site, []⟩) := rfl
  unfold generate
  rw [Act.outcome_of_ok here]
  cases site.expandHome (.ofText options.path) with
  | error fault =>
      have lost : (Store.ofPath (.error fault) : Act Path).outcome site =
        (.error (.path fault), ⟨site, []⟩) := rfl
      rw [Act.outcome_of_error lost]
  | ok directory =>
      have expanded : (Store.ofPath (.ok directory)).outcome site =
        (.ok directory, ⟨site, []⟩) := rfl
      rw [Act.outcome_of_ok expanded]
      dsimp only
      cases site.isDirectory? directory with
      | error error =>
          have unknown : (Act.ofNoted (Noted.ofOs (.error error)) : Act Bool).outcome site =
            (.error (.os error), ⟨site, []⟩) := rfl
          rw [Act.outcome_of_error unknown]
      | ok there =>
          have known : (Act.ofNoted (Noted.ofOs (.ok there))).outcome site =
            (.ok there, ⟨site, []⟩) := rfl
          rw [Act.outcome_of_ok known]
          cases there with
          | false => rfl
          | true =>
              simp only [Bool.not_true, Bool.false_eq_true, if_false]
              cases Settings.load site (.ofText options.path) with
              | error fault =>
                  dsimp only
                  split
                  · rfl
                  · rfl
              | ok settings =>
                  dsimp only
                  split
                  · rfl
                  · rfl

/-- A fixed time, and nothing to seal with. -/
def stillSurroundings : Surroundings where
  room := 990
  now := ⟨2024, 5, 17, 12, 0, 0, none⟩
  entropy := ⟨[], []⟩

end SourceAtlas.CommandLine
