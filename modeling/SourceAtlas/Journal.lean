import SourceAtlas.FileTree

/-!
The journal of a run, and the sinks it is written to: a console, which is always there once the
journal is set up, and log files. The parts of the program have channels of their own, and all that
they write goes through the channel of the program.
-/
namespace SourceAtlas

/-- How serious a record is. -/
inductive Severity
  | debug
  | info
  | warning
  | error
  | critical
  deriving BEq, DecidableEq, Repr

def Severity.rank : Severity → Nat
  | .debug => 10
  | .info => 20
  | .warning => 30
  | .error => 40
  | .critical => 50

def Severity.label : Severity → String
  | .debug => "DEBUG"
  | .info => "INFO"
  | .warning => "WARNING"
  | .error => "ERROR"
  | .critical => "CRITICAL"

def Severity.ofLabel? (label : String) : Option Severity :=
  [Severity.debug, .info, .warning, .error, .critical].find? (·.label == label)

/-- One record of a journal: how serious it is, which part of the program wrote it, and its text. -/
structure Record where
  severity : Severity
  source : String
  message : String
  deriving BEq, DecidableEq, Repr

/-- The full name of a part of the program; the program itself has none further. -/
def sourceName (part : Option String) : String :=
  match part with
  | some name => if name.isEmpty then "codeindex" else "codeindex." ++ name
  | none => "codeindex"

namespace Record

def debug (part message : String) : Record := ⟨.debug, sourceName (some part), message⟩

def info (part message : String) : Record := ⟨.info, sourceName (some part), message⟩

def warning (part message : String) : Record := ⟨.warning, sourceName (some part), message⟩

def error (part message : String) : Record := ⟨.error, sourceName (some part), message⟩

/-- A record as a log file keeps it, the time aside. -/
def line (record : Record) : String :=
  record.severity.label ++ " " ++ record.source ++ ": " ++ record.message

def console (record : Record) : String :=
  "[codeindex] " ++ record.severity.label ++ " " ++ record.message

def isAtLeast (least : Severity) (record : Record) : Bool := least.rank ≤ record.severity.rank

end Record

abbrev Journal := List Record

def Journal.warnings (journal : Journal) : Journal := journal.filter (·.isAtLeast .warning)

/-- Where a sink writes to: the console, the log file at a path, or what the program around has put
up. -/
inductive Outlet
  | console
  | file (path : String)
  | elsewhere
  deriving DecidableEq, Repr

/-- How a sink writes a record: its message alone, as the console shows it, or as a log file keeps
it. -/
inductive Layout
  | bare
  | tagged
  | dated
  deriving DecidableEq, Repr

def Layout.text : Layout → Record → String
  | .bare, record => record.message
  | .tagged, record => record.console
  | .dated, record => record.line

/-- A sink takes the records that are serious enough. -/
structure Sink where
  outlet : Outlet
  least : Severity
  layout : Layout
  deriving DecidableEq, Repr

/-- A named part of a journal. Without a level of its own it goes by the next channel above that has
one; its records go to the sinks of all channels above, unless it keeps them. -/
structure Channel where
  least : Option Severity := none
  sinks : List Sink := []
  passesOn : Bool := true

def Channel.clear (channel : Channel) : Channel :=
  { channel with sinks := channel.sinks.foldl List.erase channel.sinks }

def Channel.add (channel : Channel) (sink : Sink) : Channel :=
  { channel with sinks := channel.sinks ++ [sink] }

/-- The channels from one up to the root, by the parts of its name, the last part first. -/
def channelsFrom : List String → List String
  | [] => [""]
  | part :: above => Text.join "." (part :: above).reverse :: channelsFrom above

def channelsOf (name : String) : List String :=
  channelsFrom (if name.isEmpty then [] else (Text.split '.' name).reverse)

def programChannel : String := sourceName none

def lastSink : Sink := ⟨.console, .warning, .bare⟩

/-- The channels, and what has been written so far. A log file that was never opened is none, and
what a log file held before it was opened is left out. -/
structure LogState where
  channels : String → Channel := fun name =>
    if name.isEmpty then { least := some .warning } else {}
  console : List String := []
  files : String → Option (List String) := fun _ => none
  elsewhere : List String := []

namespace LogState

def setChannel (state : LogState) (name : String) (channel : Channel) : LogState :=
  { state with channels := fun other => if other = name then channel else state.channels other }

def setFile (state : LogState) (path : String) (lines : List String) : LogState :=
  { state with files := fun other => if other = path then some lines else state.files other }

/-- Sets the journal up anew: the sinks there are go, and the log file at a path, if one is asked
for, is appended to. `opening` is what opening it comes to; the console is in place before that. -/
def configureTo (state : LogState) (verbose : Bool) (path : Option String)
    (opening : Except OsFault Unit) : LogState × Except OsFault Unit :=
  let least := if verbose then .debug else .info
  let cleared := (state.channels programChannel).clear
  let console := { cleared with least := some least, passesOn := false }.add
    ⟨.console, least, .tagged⟩
  match path with
  | none => (state.setChannel programChannel console, .ok ())
  | some path =>
      match opening with
      | .error fault => (state.setChannel programChannel console, .error fault)
      | .ok () =>
          ((state.setFile path ((state.files path).getD [])).setChannel programChannel
            (console.add ⟨.file path, least, .dated⟩), .ok ())

def runFile : String := "codeindex.log"

def configure (state : LogState) (verbose toFile : Bool) (opening : Except OsFault Unit) :
    LogState × Except OsFault Unit :=
  state.configureTo verbose (if toFile then some runFile else none) opening

def file (state : LogState) : Option (List String) := state.files runFile

/-- The level that records on a channel must have; `names` are those from the channel upwards. -/
def leastOn (state : LogState) (names : List String) : Severity :=
  (names.findSome? fun name => (state.channels name).least).getD .debug

def reached (state : LogState) : List String → List Sink
  | [] => []
  | name :: above =>
      let channel := state.channels name
      channel.sinks ++ if channel.passesOn then state.reached above else []

def append (state : LogState) (text : String) : Outlet → LogState
  | .console => { state with console := state.console ++ [text] }
  | .file path => state.setFile path ((state.files path).getD [] ++ [text])
  | .elsewhere => { state with elsewhere := state.elsewhere ++ [text] }

def write (state : LogState) (record : Record) (sink : Sink) : LogState :=
  if record.isAtLeast sink.least then state.append (sink.layout.text record) sink.outlet else state

def log (state : LogState) (record : Record) : LogState :=
  let names := channelsOf record.source
  if record.isAtLeast (state.leastOn names) then
    match state.reached names with
    | [] => state.write record lastSink
    | sinks => sinks.foldl (fun state sink => state.write record sink) state
  else state

def sinkCount (state : LogState) : Nat := (state.channels programChannel).sinks.length

end LogState

end SourceAtlas
