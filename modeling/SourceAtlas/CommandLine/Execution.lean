import SourceAtlas.CommandLine.Command
import SourceAtlas.Indexing

/-!
Running a command. A command ends by printing a text, by a refusal with a message, or before it
starts because its arguments are misused; a failure that no message is laid down for stays a
failure.
-/
namespace SourceAtlas.CommandLine

open Text

/-- How a command ends. -/
inductive Ending
  | printed (text : String)
  | refused (message : String)
  | helped (program : String)
  | misused (program message : String)
  deriving BEq, DecidableEq, Repr

namespace Ending

def exitCode : Ending → Nat
  | .printed _ => 0
  | .refused _ => 1
  | .helped _ => 0
  | .misused .. => 2

def output : Ending → String
  | .printed text => text
  | .helped program => "usage: " ++ program ++ "\n"
  | _ => ""

/-- What is written to the standard error after the journal. -/
def complaint : Ending → String
  | .refused message => message ++ "\n"
  | .misused program message => program ++ ": error: " ++ message ++ "\n"
  | _ => ""

def ofStop : Stop → Ending
  | .help program => .helped program
  | .misuse program message => .misused program message

end Ending

def shownPath (site : Site) (path : Path) : String :=
  ((path.relativeTo? site.workingPath).getD path).toText

/-- The names in a text with commas, in small letters; blank ones drop out. -/
def languageNames (text : String) : List String :=
  (((split ',' text).map strip).filter (!·.isEmpty)).map lower

/-- The settings of a directory with what the options ask for in their place. -/
def GenerateOptions.applyTo (options : GenerateOptions) (verbose : Bool) (key : Option Points)
    (settings : Settings) : Settings :=
  { settings with
    tier := options.tier.getD settings.tier
    hashAlgorithm := options.hashAlgorithm.getD settings.hashAlgorithm
    maxCandidates := options.maxCandidates.getD settings.maxCandidates
    maxOutputKb := options.maxOutputKb.getD settings.maxOutputKb
    outputPath := options.output.orElse fun _ => settings.outputPath
    store := options.store.getD settings.store
    encrypt := options.encrypt || settings.encrypt
    languages := (options.languages.map languageNames).getD settings.languages
    verbose := verbose || settings.verbose
    encryptionKey := key }

def refusalOf (failure : Failure) : Ending :=
  if [FailureKind.noAdapters, .missing, .notDirectory].contains failure.kind then
    .refused failure.message
  else .refused ("codeindex generate failed: " ++ failure.message ++
    "\nRun with --verbose for more details.")

def withLineEnd (text : String) : String := if endsWith text "\n" then text else text ++ "\n"

def writtenNotice (site : Site) (result : IndexResult) : String :=
  "Index written to " ++ shownPath site (.ofText (result.outputPath.getD "")) ++ " (" ++
    toString result.fileCount ++ " files, " ++ join ", " result.languages ++ ")\n"

/-- The calls that lead to the making of an index. -/
def callsAbove : Nat := 3

/-- Makes an index by settings that are complete; every failure becomes a refusal. -/
def makeIndex (registry : Registry) (outside : Surroundings) (toStdout : Bool)
    (settings : Settings) : Act Ending :=
  let outside := { outside with room := outside.room - callsAbove }
  let work : Act Ending := do
    let site ← Act.site
    if toStdout then
      let result ← Act.ofNoted (Indexing.generate registry site settings outside.room outside.now)
      return .printed (withLineEnd result.content)
    else
      let (result, _) ← Indexing.run registry settings outside
      return .printed (writtenNotice site result)
  tryCatch work fun failure => return refusalOf failure

def generate (registry : Registry) (outside : Surroundings) (key : Option Points) (verbose : Bool)
    (options : GenerateOptions) : Act Ending := do
  let site ← Act.site
  let root ← Store.ofPath (site.expandHome (.ofText options.path))
  if !(← Act.ofNoted (Noted.ofOs (site.isDirectory? root))) then
    return .refused ("Repository path not found or not a directory: " ++ options.path)
  match Settings.load site (.ofText options.path) with
  | .error fault =>
      if fault.kind == .configuration then return .refused fault.message
      else Act.fail (.settings fault)
  | .ok settings =>
      let settings := options.applyTo verbose (key.filter (!·.isEmpty)) settings
      if settings.encrypt && settings.encryptionKey.isNone && !options.toStdout then
        return .refused ("Encryption requested but $" ++ keyVariable ++ " is not set")
      makeIndex registry outside options.toStdout settings

/-- The content of a sealed file, or a refusal if it is missing or does not open. -/
def openSealed (site : Site) (key : Points) (file : Path) : Except Failure (Except String Bytes) :=
  if hasNul file then .error (.path .embeddedNul)
  else match site.read file with
    | .error error =>
        if error.fault == .missing then .ok (.error error.message) else .error (.os error)
    | .ok data =>
        match Envelope.revealBytes key data with
        | .ok content => .ok (.ok content)
        | .error (.passphrase fault) => .error (.passphrase fault)
        | .error fault => .ok (.error fault.message)

def writeOpened (output : String) (content : Bytes) : Act Ending := do
  let target ← Store.ofPath ((← Act.site).expandHome (.ofText output))
  let (site, result) := Store.writeFile (← Act.site) target content
  Act.setSite site
  match result with
  | .ok () => return .printed ("Decrypted index written to " ++ shownPath site target ++ "\n")
  | .error fault => Act.fail (.ofWrite fault)

def decrypt (key : Option Points) (file : String) (output : Option String) : Act Ending := do
  match key.filter (!·.isEmpty) with
  | none => return .refused ("$" ++ keyVariable ++ " must be set to decrypt")
  | some key =>
      match openSealed (← Act.site) key (.ofText file) with
      | .error failure => Act.fail failure
      | .ok (.error message) => return .refused message
      | .ok (.ok content) =>
          match output with
          | some output => writeOpened output content
          | none =>
              match Utf8.decode content with
              | .ok text => return .printed text
              | .error fault => Act.fail (.notText fault)

def Invocation.run (invocation : Invocation) (registry : Registry) (outside : Surroundings)
    (key : Option Points) : Act Ending :=
  match invocation.command with
  | .generate options => generate registry outside key invocation.verbose options
  | .decrypt file output => decrypt key file output

/-- What a finished command leaves: its ending, what the console shows of the journal, and the
site. -/
structure Finished where
  ending : Except Failure Ending
  shown : Journal
  site : Site

def Finished.errors (finished : Finished) : String :=
  join "" (finished.shown.map fun record => record.console ++ "\n") ++
    match finished.ending with
    | .ok ending => ending.complaint
    | .error _ => ""

def run (registry : Registry) (outside : Surroundings) (key : Option Points) (site : Site)
    (arguments : List String) : Finished :=
  match Invocation.read arguments with
  | .error stop => ⟨.ok (.ofStop stop), [], site⟩
  | .ok invocation =>
      let (ending, progress) := (invocation.run registry outside key).outcome site
      let least := if invocation.verbose then Severity.debug else .info
      ⟨ending, progress.journal.filter (·.isAtLeast least), progress.site⟩

end SourceAtlas.CommandLine
