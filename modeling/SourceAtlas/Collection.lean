import SourceAtlas.Journal
import SourceAtlas.Path

/-!
Registration of an index with a search collection, through an outside program. The program is asked
whether the collection exists, which is then updated or created; a context and embeddings may
follow. Only a collection that cannot be created is a failure.
-/
namespace SourceAtlas

open Text

structure CollectionSettings where
  collection : Option String := none
  embed : Bool := false
  context : Option String := none
  mask : Option String := none
  deriving BEq, DecidableEq, Repr

namespace Collection

/-- One call of the outside program with the seconds it may take. -/
structure Call where
  args : List String
  timeout : Nat
  deriving BEq, DecidableEq, Repr

/-- How a call ends: with output, with a bad exit, too late, not started, or with a fault that is
not the program's. -/
inductive Outcome
  | output (text : String)
  | exit (command : String) (code : Int) (stdout stderr : String)
  | late
  | notStarted (reason : String)
  | fault (reason : String)
  deriving BEq, DecidableEq, Repr

inductive Failure
  | notInstalled
  | creationLate
  | creation (reason : String)
  | fault (reason : String)
  deriving BEq, DecidableEq, Repr

def statusTimeout : Nat := 10

def updateTimeout : Nat := 60

def creationTimeout : Nat := 60

def contextTimeout : Nat := 10

def embedTimeout : Nat := 600

def Failure.message : Failure → String
  | .notInstalled => "qmd not found in PATH"
  | .creationLate => s!"qmd collection add timed out after {creationTimeout}s"
  | .creation reason => s!"Failed to create qmd collection: {reason}"
  | .fault reason => reason

def signalNames : List String :=
  ["HUP", "INT", "QUIT", "ILL", "TRAP", "ABRT", "BUS", "FPE", "KILL", "USR1", "SEGV", "USR2",
    "PIPE",
    "ALRM", "TERM", "STKFLT", "CHLD", "CONT", "STOP", "TSTP", "TTIN", "TTOU", "URG", "XCPU", "XFSZ",
    "VTALRM", "PROF", "WINCH", "IO", "PWR", "SYS"]

def signalName? (number : Nat) : Option String :=
  if number = 34 then some "RTMIN"
  else if number = 64 then some "RTMAX"
  else if number = 0 then none
  else signalNames[number - 1]?

/-- What a bad exit is called when the program said nothing: a negative code is a signal. -/
def exitText (command : String) (code : Int) : String :=
  if code < 0 then
    match signalName? code.natAbs with
    | some name => s!"Command '{command}' died with <Signals.SIG{name}: {code.natAbs}>."
    | none => s!"Command '{command}' died with unknown signal {code.natAbs}."
  else s!"Command '{command}' returned non-zero exit status {code}."

/-- What a bad exit is reported with: what the program said, its error channel first. -/
def exitReport (command : String) (code : Int) (stdout stderr : String) : String :=
  let said := strip (if stderr.isEmpty then stdout else stderr)
  if said.isEmpty then exitText command code else said

/-- What has been called and noted so far. -/
structure Trace where
  calls : List Call := []
  journal : Journal := []

abbrev Registering (α : Type) := ExceptT Failure (StateM Trace) α

def note (record : Record) : Registering Unit :=
  modify fun trace => { trace with journal := trace.journal ++ [record] }

abbrev Program := Call → Outcome

def call (program : Program) (args : List String) (timeout : Nat) : Registering Outcome := do
  let made : Call := ⟨args, timeout⟩
  modify fun trace => { trace with calls := trace.calls ++ [made] }
  match program made with
  | .fault reason => throw (.fault reason)
  | outcome => return outcome

/-- Whether a text goes on with white space and then the given piece. -/
def blanksThen (piece : List Char) (text : List Char) : Option (List Char) :=
  dropFront? piece (text.dropWhile isBlank)

/-- Whether a listing names a collection: the key, a colon and the quoted name, white space
aside. -/
def isListed (collection : String) : List Char → Bool
  | [] => false
  | c :: rest =>
      (((dropFront? "\"name\"".toList (c :: rest)).bind (blanksThen [':'])).bind
        (blanksThen ('"' :: collection.toList ++ ['"']))).isSome || isListed collection rest

def exists_ (program : Program) (qmd collection : String) : Registering Bool := do
  match ← call program [qmd, "status", "--json"] statusTimeout with
  | .output text => return isListed collection text.toList
  | _ => return false

def attempt (program : Program) (args : List String) (timeout : Nat) (complaint : String) :
    Registering Unit := do
  match ← call program args timeout with
  | .late => note (.warning "qmd" s!"{complaint}: timed out after {timeout}s")
  | .exit command code stdout stderr =>
      note (.warning "qmd" (complaint ++ ": " ++ exitReport command code stdout stderr))
  | .notStarted reason => note (.warning "qmd" (complaint ++ ": " ++ reason))
  | _ => return

def create (program : Program) (qmd collection directory mask : String) : Registering Unit := do
  let args := [qmd, "collection", "add", directory, "--name", collection] ++
    if mask.isEmpty then [] else ["--mask", mask]
  match ← call program args creationTimeout with
  | .late => throw .creationLate
  | .exit command code stdout stderr =>
      throw (.creation (exitReport command code stdout stderr))
  | .notStarted reason => throw (.creation reason)
  | _ => return

def maskFor (settings : CollectionSettings) (index : Path) : String :=
  match settings.mask with
  | some mask => if mask.isEmpty then defaultMask else mask
  | none => defaultMask
where
  defaultMask := if index.ending == ".md" then index.name else "**/*.md"

/-- Registers an index; without a collection there is nothing to do. `qmd` is where the outside
program was found. -/
def register (settings : Option CollectionSettings) (qmd : Option String) (program : Program)
    (index : Path) : Registering Bool := do
  match settings with
  | none => return false
  | some settings =>
      let collection := settings.collection.getD ""
      if collection.isEmpty then return false
      let qmd := qmd.getD ""
      if qmd.isEmpty then throw .notInstalled
      let directory := index.parent.toText
      let mask := maskFor settings index
      note (.info "qmd"
        s!"Registering with qmd: collection={collection} path={directory} mask={mask}")
      if ← exists_ program qmd collection then
        note (.info "qmd" s!"Collection '{collection}' exists, updating")
        attempt program [qmd, "update", "-c", collection] updateTimeout "qmd update failed"
      else create program qmd collection directory mask
      let context := settings.context.getD ""
      if !context.isEmpty then
        attempt program [qmd, "context", "add", "qmd://" ++ collection, context] contextTimeout
          "Failed to add qmd context"
      if settings.embed then
        note (.info "qmd" "Running qmd embed (this may take a while)")
        attempt program [qmd, "embed", "-c", collection] embedTimeout "qmd embed failed"
      note (.info "qmd" s!"Registered with qmd as collection '{collection}'")
      return true

end Collection

end SourceAtlas
