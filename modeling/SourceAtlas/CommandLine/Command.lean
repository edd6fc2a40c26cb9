import SourceAtlas.CommandLine.Arguments
import SourceAtlas.Decimal.Numeral
import SourceAtlas.Settings

/-!
The commands of the program and the arguments they take. An index is made of a directory, or a
sealed index is opened again.
-/
namespace SourceAtlas.CommandLine

open Text

/-- What an index is asked to be; what is left out stands in the settings of the directory. -/
structure GenerateOptions where
  path : String := "."
  tier : Option String := none
  hashAlgorithm : Option String := none
  maxCandidates : Option Int := none
  maxOutputKb : Option Int := none
  output : Option String := none
  store : Option String := none
  encrypt : Bool := false
  languages : Option String := none
  toStdout : Bool := false

inductive Command
  | generate (options : GenerateOptions)
  | decrypt (file : String) (output : Option String)

/-- A command with how much of the journal is shown. -/
structure Invocation where
  verbose : Bool
  command : Command

def keyVariable : String := "CODEINDEX_ENCRYPTION_KEY"

def positive (value : String) : Except String Int :=
  match Decimal.readInteger 10 value with
  | .error _ => .error ("expected an integer, got '" ++ value ++ "'")
  | .ok n => if n ≤ 0 then .error "value must be greater than zero" else .ok n

def anyValue : Effect := .value fun _ => .ok ()

def positiveValue : Effect := .value fun value => (positive value).map fun _ => ()

def oneOf (choices : List String) : Effect :=
  .value fun value =>
    if choices.contains value then .ok () else .error (invalidChoice value choices)

def commonRows : List OptionRow := [⟨["-h", "--help"], .help⟩, ⟨["-v", "--verbose"], .flag⟩]

def mainTable : Table where
  program := "codeindex"
  rows := commonRows
  positional := .command "command" ["generate", "decrypt"]

def generateTable : Table where
  program := "codeindex generate"
  rows := commonRows ++ [
    ⟨["--format"], oneOf tierNames⟩,
    ⟨["--hash"], oneOf hashNames⟩,
    ⟨["--max-candidates"], positiveValue⟩,
    ⟨["--max-output-kb"], positiveValue⟩,
    ⟨["--output"], anyValue⟩,
    ⟨["--store"], oneOf storeNames⟩,
    ⟨["--encrypt"], .flag⟩,
    ⟨["--languages"], anyValue⟩,
    ⟨["--stdout"], .flag⟩]
  positional := .optional "path"

def decryptTable : Table where
  program := "codeindex decrypt"
  rows := commonRows ++ [⟨["--output"], anyValue⟩]
  positional := .required "file"

/-- The value of an option, an empty one counting as absent. -/
def Reading.nonEmpty? (reading : Reading) (key : String) : Option String :=
  (reading.get? key).filter (!·.isEmpty)

/-- The first positional argument. -/
def Reading.first (reading : Reading) (standard : String) : String :=
  (reading.positional.getD []).headD standard

def GenerateOptions.ofReading (reading : Reading) : GenerateOptions where
  path := reading.first "."
  tier := reading.get? "--format"
  hashAlgorithm := reading.get? "--hash"
  maxCandidates := (reading.get? "--max-candidates").bind fun value => (positive value).toOption
  maxOutputKb := (reading.get? "--max-output-kb").bind fun value => (positive value).toOption
  output := reading.nonEmpty? "--output"
  store := reading.get? "--store"
  encrypt := reading.has "--encrypt"
  languages := reading.nonEmpty? "--languages"
  toStdout := reading.has "--stdout"

/-- What the arguments of the whole program ask for. Arguments that neither the program nor its
command understands are refused last. -/
def Invocation.read (arguments : List String) : Except Stop Invocation := do
  let outer ← mainTable.read arguments
  let (name, rest) := match outer.positional with
    | some (name :: rest) => (name, rest)
    | _ => ("", [])
  let decrypts := name == "decrypt"
  let inner ← (if decrypts then decryptTable else generateTable).read rest
  match outer.extras ++ inner.extras with
  | [] =>
      return {
        verbose := outer.has "--verbose" || inner.has "--verbose"
        command := if decrypts then .decrypt (inner.first "") (inner.nonEmpty? "--output")
          else .generate (.ofReading inner) }
  | extras => mainTable.misuse ("unrecognized arguments: " ++ join " " extras)

end SourceAtlas.CommandLine
