import SourceAtlas.Journal
import SourceAtlas.Proofs.PathNames

/-!
Where records go after any history of set-ups. Each set-up takes the sinks of the ones before away,
and the channel of the program keeps its records, so that a record reaches the console once, the log
file that the latest set-up opened once, and nothing else. A set-up whose log file cannot be opened
ends with the failure of that, and leaves the console alone.
-/
namespace SourceAtlas

open Text

/-- What is done to a journal: it is set up, where opening the log file may fail, or a part of the
program writes a record. -/
inductive JournalStep
  | configure (verbose : Bool) (path : Option String) (opening : Except OsFault Unit)
  | log (part : Option String) (severity : Severity) (message : String)

def partRecord (part : Option String) (severity : Severity) (message : String) : Record :=
  ⟨severity, sourceName part, message⟩

def openedFile (path : Option String) : Except OsFault Unit → Option String
  | .ok () => path
  | .error _ => none

def JournalStep.setUp? (latest : Option (Bool × Option String)) :
    JournalStep → Option (Bool × Option String)
  | .configure verbose path opening => some (verbose, openedFile path opening)
  | .log _ _ _ => latest

/-- The latest set-up of a history: whether it is verbose, and the path of its log file if it has
opened one. -/
def latestSetUp (steps : List JournalStep) : Option (Bool × Option String) :=
  steps.foldl JournalStep.setUp? none

namespace LogState

def perform (state : LogState) : JournalStep → LogState
  | .configure verbose path opening => (state.configureTo verbose path opening).1
  | .log part severity message => state.log (partRecord part severity message)

def after (state : LogState) (steps : List JournalStep) : LogState := steps.foldl perform state

def PartsPlain (state : LogState) : Prop :=
  ∀ name, name ≠ programChannel → name ≠ "" → state.channels name = {}

end LogState

def setUpLevel (verbose : Bool) : Severity := if verbose then .debug else .info

def setUpSinks (verbose : Bool) (path : Option String) : List Sink :=
  ⟨.console, setUpLevel verbose, .tagged⟩ ::
    path.toList.map fun path => ⟨.file path, setUpLevel verbose, .dated⟩

def withLines (files : String → Option (List String)) (path : Option String) (lines : List String) :
    String → Option (List String) := fun other =>
  if path = some other then some ((files other).getD [] ++ lines) else files other

theorem withLines_withLines (files : String → Option (List String)) (path : Option String)
    (lines later : List String) :
    withLines (withLines files path lines) path later = withLines files path (lines ++ later) := by
  funext other
  unfold withLines
  split <;> simp

theorem foldl_erase_self (sinks : List Sink) : sinks.foldl List.erase sinks = [] := by
  induction sinks with
  | nil => rfl
  | cons sink rest ih => rw [List.foldl_cons, List.erase_cons_head, ih]

theorem join_parts_ne (part : String) (parts : List String) :
    join "." (programChannel :: part :: parts) ≠ programChannel ∧
      join "." (programChannel :: part :: parts) ≠ "" := by
  have text : join "." (programChannel :: part :: parts) =
      programChannel ++ ("." ++ join "." (part :: parts)) := by
    rw [join, String.intercalate_cons_cons, String.append_assoc]
    rfl
  have size : (join "." (programChannel :: part :: parts)).length ≥ 10 := by
    rw [text, String.length_append, String.length_append]
    change 9 + (1 + _) ≥ 10
    omega
  constructor <;> intro same <;> rw [same] at size <;> exact absurd size (by decide)

theorem channelsFrom_parts (parts : List String) :
    ∃ below, channelsFrom (parts ++ [programChannel]) = below ++ [programChannel, ""] ∧
      ∀ name ∈ below, name ≠ programChannel ∧ name ≠ "" := by
  induction parts with
  | nil => exact ⟨[], rfl, by simp⟩
  | cons part parts ih =>
      obtain ⟨below, above, proper⟩ := ih
      refine ⟨join "." (part :: (parts ++ [programChannel])).reverse :: below, ?_, ?_⟩
      · rw [List.cons_append, channelsFrom, above, List.cons_append]
      · refine List.forall_mem_cons.mpr ⟨?_, proper⟩
        have whole : (part :: (parts ++ [programChannel])).reverse =
            programChannel :: (parts.reverse ++ [part]) := by simp
        obtain ⟨next, more, filled⟩ := List.exists_cons_of_ne_nil
          (List.append_ne_nil_of_right_ne_nil parts.reverse (List.cons_ne_nil part []))
        rw [whole, filled]
        exact join_parts_ne next more

theorem channelsOf_sourceName (part : Option String) :
    ∃ below, channelsOf (sourceName part) = below ++ [programChannel, ""] ∧
      ∀ name ∈ below, name ≠ programChannel ∧ name ≠ "" := by
  have plain : ∃ below, channelsOf programChannel = below ++ [programChannel, ""] ∧
      ∀ name ∈ below, name ≠ programChannel ∧ name ≠ "" := ⟨[], by decide, by simp⟩
  cases part with
  | none => exact plain
  | some name =>
      by_cases empty : name.isEmpty = true
      · rw [sourceName, if_pos empty]
        exact plain
      · have parts : split '.' ("codeindex." ++ name) = programChannel :: split '.' name := by
          have whole : "codeindex." ++ name = join "." [programChannel, name] := by
            rw [join, String.intercalate_cons_cons, String.intercalate_singleton]
            rfl
          rw [whole, split_join rfl (List.cons_ne_nil _ _), List.flatMap_cons,
            split_of_free (by decide)]
          simp
        have filled : ("codeindex." ++ name).isEmpty = false := by
          rw [Bool.eq_false_iff, ne_eq, String.isEmpty_iff, String.append_eq_empty_iff]
          exact fun none => absurd none.1 (by decide)
        rw [sourceName, if_neg empty, channelsOf, filled, if_neg Bool.false_ne_true, parts,
          List.reverse_cons]
        exact channelsFrom_parts _

namespace LogState

variable {state : LogState} {verbose : Bool} {path : Option String}

/-- What a set-up leaves in force, whatever is logged after it. -/
structure SetUp (state : LogState) (verbose : Bool) (path : Option String) : Prop where
  program : state.channels programChannel =
    { least := some (setUpLevel verbose), sinks := setUpSinks verbose path, passesOn := false }
  parts : state.PartsPlain
  opened : ∀ named, path = some named → (state.files named).isSome = true

theorem channels_configureTo (state : LogState) (verbose : Bool) (path : Option String)
    (opening : Except OsFault Unit) (name : String) :
    (state.configureTo verbose path opening).1.channels name = if name = programChannel then
      { least := some (setUpLevel verbose)
        sinks := setUpSinks verbose (openedFile path opening)
        passesOn := false }
      else state.channels name := by
  have cleared (channel : Channel) : channel.clear.sinks = [] := foldl_erase_self channel.sinks
  cases path <;> cases opening <;>
    simp [configureTo, setChannel, setFile, Channel.add, cleared, setUpLevel, setUpSinks,
      openedFile]

theorem PartsPlain.configureTo (plain : state.PartsPlain) (verbose : Bool) (path : Option String)
    (opening : Except OsFault Unit) :
    (state.configureTo verbose path opening).1.SetUp verbose (openedFile path opening) where
  program := by rw [channels_configureTo, if_pos rfl]
  parts name part filled := by rw [channels_configureTo, if_neg part, plain name part filled]
  opened named asked := by
    cases opening with
    | error fault => cases asked
    | ok =>
        rw [show path = some named from asked, LogState.configureTo]
        dsimp only [setChannel, setFile]
        rw [if_pos rfl]
        rfl

theorem configureTo_outcome (state : LogState) (verbose : Bool) (path : Option String)
    (opening : Except OsFault Unit) :
    (state.configureTo verbose path opening).2 = if path.isSome then opening else .ok () := by
  cases path <;> cases opening <;> rfl

theorem SetUp.leastOn (setUp : state.SetUp verbose path) (part : Option String) :
    state.leastOn (channelsOf (sourceName part)) = setUpLevel verbose := by
  obtain ⟨below, above, proper⟩ := channelsOf_sourceName part
  have silent : below.findSome? (fun name => (state.channels name).least) = none := by
    rw [List.findSome?_eq_none_iff]
    intro name member
    rw [setUp.parts name (proper name member).1 (proper name member).2]
  rw [LogState.leastOn, above, List.findSome?_append, silent, Option.none_or,
    List.findSome?_cons, setUp.program]
  rfl

theorem SetUp.reached (setUp : state.SetUp verbose path) (part : Option String) :
    state.reached (channelsOf (sourceName part)) = setUpSinks verbose path := by
  obtain ⟨below, above, proper⟩ := channelsOf_sourceName part
  rw [above]
  clear above
  induction below with
  | nil => simp [LogState.reached, setUp.program]
  | cons name below ih =>
      rw [List.forall_mem_cons] at proper
      rw [List.cons_append, LogState.reached, setUp.parts name proper.1.1 proper.1.2, ih proper.2]
      rfl

theorem append_file (state : LogState) (text path : String) : state.append text (.file path) =
    { state with files := withLines state.files (some path) [text] } := by
  have files : (state.append text (.file path)).files =
      withLines state.files (some path) [text] := by
    funext other
    by_cases same : other = path
    · rw [same]
      simp only [append, setFile, withLines, if_true]
    · simp only [append, setFile, withLines, if_neg same, Option.some.injEq, if_neg (Ne.symm same)]
  rw [← files]
  rfl

/-- A record that is serious enough goes to the sinks of the set-up, once to each; any other goes
nowhere. -/
theorem SetUp.log (setUp : state.SetUp verbose path) {record : Record} {part : Option String}
    (source : record.source = sourceName part) :
    state.log record = if record.isAtLeast (setUpLevel verbose) then
      { state with
        console := state.console ++ [record.console]
        files := withLines state.files path [record.line] }
      else state := by
  have taken (state : LogState) (outlet : Outlet) (layout : Layout)
      (serious : record.isAtLeast (setUpLevel verbose) = true) :
      state.write record ⟨outlet, setUpLevel verbose, layout⟩ =
        state.append (layout.text record) outlet := if_pos serious
  unfold LogState.log
  dsimp only
  rw [source, setUp.leastOn, setUp.reached]
  split
  case isFalse => rfl
  case isTrue serious =>
    change (setUpSinks verbose path).foldl (fun state sink => state.write record sink) state = _
    rw [setUpSinks, List.foldl_cons, taken _ _ _ serious]
    cases path with
    | none => rfl
    | some path =>
        rw [Option.toList_some, List.map_singleton, List.foldl_cons, taken _ _ _ serious,
          append_file]
        rfl

theorem SetUp.kept (setUp : state.SetUp verbose path) {record : Record} {part : Option String}
    (source : record.source = sourceName part) : (state.log record).SetUp verbose path := by
  rw [setUp.log source]
  split
  · refine ⟨setUp.program, setUp.parts, fun named asked => ?_⟩
    simp only [withLines, if_pos asked]
    rfl
  · exact setUp

structure InForce (state : LogState) (latest : Option (Bool × Option String)) : Prop where
  parts : state.PartsPlain
  setUp : ∀ verbose path, latest = some (verbose, path) → state.SetUp verbose path

theorem channels_log (state : LogState) (record : Record) :
    (state.log record).channels = state.channels := by
  have written (state : LogState) (sink : Sink) :
      (state.write record sink).channels = state.channels := by
    unfold write
    split
    · cases sink.outlet <;> rfl
    · rfl
  have all (sinks : List Sink) (state : LogState) :
      (sinks.foldl (fun state sink => state.write record sink) state).channels =
        state.channels := by
    induction sinks generalizing state with
    | nil => rfl
    | cons sink rest ih => rw [List.foldl_cons, ih, written]
  unfold log
  dsimp only
  split
  · split
    · exact written state _
    · exact all _ state
  · rfl

theorem InForce.perform {latest : Option (Bool × Option String)} (inForce : state.InForce latest)
    (step : JournalStep) : (state.perform step).InForce (step.setUp? latest) := by
  cases step with
  | configure verbose path opening =>
      have setUp := inForce.parts.configureTo verbose path opening
      refine ⟨setUp.parts, fun _ _ same => ?_⟩
      cases same
      exact setUp
  | log part severity message =>
      refine ⟨fun name part filled => ?_, fun verbose path same => ?_⟩
      · rw [LogState.perform, channels_log]
        exact inForce.parts name part filled
      · exact (inForce.setUp verbose path same).kept rfl

theorem InForce.after {latest : Option (Bool × Option String)} (inForce : state.InForce latest)
    (steps : List JournalStep) :
    (state.after steps).InForce (steps.foldl JournalStep.setUp? latest) := by
  induction steps generalizing state latest with
  | nil => exact inForce
  | cons step rest ih => exact ih (inForce.perform step)

/-- What is written while a set-up is in force: the records that are serious enough, one after the
other, to the console and to the log file if there is one. -/
theorem SetUp.logAll (setUp : state.SetUp verbose path) {records : List Record}
    (sources : ∀ record ∈ records, ∃ part, record.source = sourceName part) :
    let serious := records.filter (·.isAtLeast (setUpLevel verbose))
    records.foldl LogState.log state =
      { state with
        console := state.console ++ serious.map Record.console
        files := withLines state.files path (serious.map Record.line) } := by
  induction records generalizing state with
  | nil =>
      have kept : withLines state.files path [] = state.files := by
        funext other
        unfold withLines
        split
        case isFalse => rfl
        case isTrue asked =>
          obtain ⟨lines, opened⟩ := Option.isSome_iff_exists.mp (setUp.opened other asked)
          rw [opened, List.append_nil]
          rfl
      simp only [List.filter_nil, List.map_nil, List.foldl_nil]
      rw [kept, List.append_nil]
  | cons record rest ih =>
      rw [List.forall_mem_cons] at sources
      obtain ⟨part, source⟩ := sources.1
      rw [List.foldl_cons, ih (setUp.kept source) sources.2, setUp.log source]
      by_cases serious : record.isAtLeast (setUpLevel verbose) = true
      · rw [if_pos serious, List.filter_cons_of_pos serious]
        dsimp only
        rw [withLines_withLines, List.append_assoc, List.map_cons, List.map_cons,
          List.singleton_append, List.singleton_append]
      · rw [if_neg serious, List.filter_cons_of_neg serious]

/-- A journal whose sinks are those of one set-up: the console once, and the log file once if it has
a path. What is logged reaches each of them once if it is serious enough, and nothing else. -/
structure WritesOnce (state : LogState) (verbose : Bool) (path : Option String) : Prop where
  oneConsole : (state.channels programChannel).sinks.countP (·.outlet = .console) = 1
  fileAsAsked : ∀ named, (state.channels programChannel).sinks.countP (·.outlet = .file named) =
    if path = some named then 1 else 0
  nothingElse : ∀ sink ∈ (state.channels programChannel).sinks, sink.outlet ≠ .elsewhere
  records : ∀ written : List (Option String × Severity × String),
    let records := written.map fun (part, severity, message) => partRecord part severity message
    let serious := records.filter (·.isAtLeast (if verbose then .debug else .info))
    let next := records.foldl log state
    next.console = state.console ++ serious.map Record.console ∧
      (∀ named, next.files named = if path = some named then
        some ((state.files named).getD [] ++ serious.map Record.line) else state.files named) ∧
      next.elsewhere = state.elsewhere

theorem SetUp.writesOnce (setUp : state.SetUp verbose path) : state.WritesOnce verbose path where
  oneConsole := by rw [setUp.program]; cases path <;> rfl
  fileAsAsked named := by
    rw [setUp.program]
    cases path <;> simp [setUpSinks]
  nothingElse := by
    rw [setUp.program]
    cases path <;> simp [setUpSinks]
  records written := by
    have sources : ∀ record ∈ written.map fun (part, severity, message) =>
        partRecord part severity message, ∃ part, record.source = sourceName part := by
      intro record member
      obtain ⟨⟨part, severity, message⟩, -, rfl⟩ := List.mem_map.mp member
      exact ⟨part, rfl⟩
    intro records serious next
    have whole : next = _ := setUp.logAll sources
    rw [whole]
    exact ⟨rfl, fun _ => rfl, rfl⟩

/-- After any history with a set-up in it a journal writes to the sinks of the latest set-up, and to
each of them once, whatever sinks the root has and the program had before. -/
theorem writes_once_after (start : LogState) (plain : start.PartsPlain) (steps : List JournalStep)
    (verbose : Bool) (path : Option String) (latest : latestSetUp steps = some (verbose, path)) :
    (start.after steps).WritesOnce verbose path := by
  have before : start.InForce none := ⟨plain, fun _ _ none => nomatch none⟩
  exact ((before.after steps).setUp verbose path latest).writesOnce

def hostedJournal : LogState where
  channels name :=
    if name = "" then { least := some .warning, sinks := [⟨.console, .debug, .bare⟩] }
    else if name = programChannel then { sinks := [⟨.elsewhere, .debug, .bare⟩] }
    else {}

/-- A history with one log file, another that does not open and the first again, and with records
before, between and after. -/
def reopenedSteps : List JournalStep :=
  [.log (some "cli") .error "early", .configure true (some "a") (.ok ()),
    .log (some "scanner") .debug "walk", .configure true (some "b") (.error .denied),
    .log none .info "again", .configure false (some "a") (.ok ()),
    .log (some "stores.output") .debug "quiet"]

theorem hostedJournal_writes_once :
    hostedJournal.PartsPlain ∧ latestSetUp reopenedSteps = some (false, some "a") ∧
      (hostedJournal.after reopenedSteps).WritesOnce false (some "a") := by
  have plain : hostedJournal.PartsPlain := by
    intro name part filled
    simp only [hostedJournal, if_neg filled, if_neg part]
  exact ⟨plain, rfl, writes_once_after hostedJournal plain reopenedSteps false (some "a") rfl⟩

example : (hostedJournal.after reopenedSteps).files "a" =
    some ["DEBUG codeindex.scanner: walk"] := by decide

end LogState

end SourceAtlas
