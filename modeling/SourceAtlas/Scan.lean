import SourceAtlas.Digest.Hex
import SourceAtlas.Noted
import SourceAtlas.Ranking
import SourceAtlas.Walk

/-!
A scan: the walk, the entries of the files that can be read and weighed, and the candidates among
them. Files that cannot are left out of the entries only.
-/
namespace SourceAtlas

open Text

/-- How many bytes from the start of a file its digest covers. -/
def digestWindow : Nat := 1024 * 1024

/-- What a scan is asked for, and how many calls it may nest. -/
structure ScanRequest where
  room : Nat
  adapters : List Adapter
  overrides : Overrides := []
  hashAlgorithm : String := "xxhash"
  maxCandidates : Int := 100

inductive EntryFault
  | os (error : OsError)
  | unweighed (reason : String)

namespace Scan

/-- The entry of a file by its path and content, not yet weighed. -/
def entryOf (adapters : List Adapter) (hashAlgorithm : String) (item : WorkItem) (content : Bytes) :
    Entry :=
  let name := baseName item.path
  let head := content.take digestWindow
  let adapter := adapterFor? name adapters
  { path := item.path
    size := content.length
    hash := Digest.contentHash hashAlgorithm head
    depth := item.depth
    tokens := content.length / bytesPerToken
    language := adapter.map (·.name)
    isEntrypoint := (adapter.map fun a => matchesAny item.path a.entrypoints).getD false
    isConfig := adapters.any fun a => matchesAny item.path a.configs
    isGenerated := isGenerated name head }

def process (walk : Walk) (adapters : List Adapter) (priority : List Rule) (hashAlgorithm : String)
    (item : WorkItem) : Except EntryFault Entry :=
  let place := walk.placeOf item.path
  let path := Path.ofPlace place
  match walk.site.read path with
  | .error error => .error (.os error)
  | .ok content =>
      if walk.site.isLocked place then .error (.os ⟨.denied, path.toText⟩)
      else
        let entry := entryOf adapters hashAlgorithm item content
        match scoreOf entry (adapterFor? (baseName item.path) adapters) priority with
        | .ok score => .ok { entry with score := score }
        | .error reason => .error (.unweighed reason)

def faultNote (item : WorkItem) : EntryFault → Record
  | .os error => .debug "scanner" ("Skipping " ++ item.path ++ ": " ++ error.message)
  | .unweighed _ => .error "scanner" ("Unexpected error while scanning " ++ item.path)

def processAll (process : WorkItem → Except EntryFault Entry) (work : List WorkItem) :
    List Entry × Journal :=
  let done := work.map fun item => (item, process item)
  (done.filterMap fun (_, result) => result.toOption,
    done.filterMap fun (item, result) => match result with
      | .ok _ => none
      | .error fault => some (faultNote item fault))

/-- The result of a scan from the findings of the walk and the entries, in whatever order they
came. -/
def assemble (found : Findings) (entries : List Entry) (maxCandidates : Int) : ScanResult :=
  let files := entries.mergeSort fun a b => precedes a.path b.path
  { files := files
    candidates := selectCandidates files maxCandidates
    tree := .mk "." "" 0 found.files found.children
    otherFiles := sortTexts found.others
    totalFiles := found.totalFiles
    totalDirs := found.totalDirs
    ignoredFiles := found.ignoredFiles
    ignoredDirs := found.ignoredDirs
    totalBytes := files.foldl (fun sum entry => sum + entry.size) 0 }

def ignoreFile (site : Site) (root : Path) : List Rule × Journal :=
  let path := root.child ".gitignore"
  match site.read path with
  | .ok content => (Rule.ofText (universalLines (Utf8.decodeReplacing content)), [])
  | .error error =>
      if error.fault == .missing then ([], [])
      else ([], [.warning "ignore" ("Could not read " ++ path.toText ++ ": " ++ error.message)])

/-- How many calls the scan of a tree with so many levels of directories nests: two for each of them
when the tree is pruned in the end, and six at least, which the resolving of its root takes. -/
def callsFor (levels : Nat) : Nat := max 6 (2 * levels + 3)

def seconds (result : ScanResult) : String := Decimal.twoPlaces result.elapsed ++ "s"

def summaryNote (result : ScanResult) : Record :=
  .info "scanner" ("Scanned " ++ toString result.totalFiles ++ " files (" ++
    toString result.files.length ++ " eligible, " ++ toString result.candidates.length ++
    " candidates) in " ++ seconds result)

def run (site : Site) (shown : String) (request : ScanRequest) : Noted ScanResult := do
  let root ← Noted.ofPath (do site.resolve (← site.expandHome (.ofText shown)))
  if !(← Noted.ofOs (site.exists? root)) then Noted.fail (.rootMissing shown)
  if !(← Noted.ofOs (site.isDirectory? root)) then Noted.fail (.rootNotDirectory shown)
  let adapters := byName request.adapters
  Noted.noteAll (ScanRules.inactiveNote adapters request.overrides)
  let (ignored, notes) := ignoreFile site root
  Noted.noteAll notes
  let walk : Walk :=
    { site := site, root := root.names
      rules := .compile adapters request.overrides ignored }
  let found := walk.all (← Noted.ofOs (site.list root))
  Noted.noteAll found.notes
  let priority := ScanRules.priority adapters request.overrides
  let (entries, notes) :=
    processAll (process walk adapters priority request.hashAlgorithm) found.work
  Noted.noteAll notes
  if callsFor found.levels > request.room then Noted.fail .tooNested
  let result := assemble found entries request.maxCandidates
  Noted.note (summaryNote result)
  return result

end Scan

end SourceAtlas
