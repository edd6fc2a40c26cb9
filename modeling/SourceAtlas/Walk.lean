import SourceAtlas.Classification
import SourceAtlas.Entry
import SourceAtlas.Site

/-!
The walk over a directory tree: which files are to be read, which are only counted, and which are
left out. Links to directories are not followed, and a directory that cannot be listed counts as
empty. The levels of the directories that are entered are counted, since a scan may run out of calls
for them.
-/
namespace SourceAtlas

open Text

/-- A file that is to be read, by its path from the root of the walk. -/
structure WorkItem where
  path : String
  depth : Nat
  deriving BEq, DecidableEq, Repr

/-- What a walk has found. The names of files and the children are those of one directory, and the
levels are those of the directories below it. -/
structure Findings where
  work : List WorkItem := []
  others : List String := []
  files : List String := []
  children : List DirNode := []
  totalFiles : Nat := 0
  totalDirs : Nat := 0
  ignoredFiles : Nat := 0
  ignoredDirs : Nat := 0
  levels : Nat := 0
  notes : Journal := []

namespace Findings

def append (a b : Findings) : Findings where
  work := a.work ++ b.work
  others := a.others ++ b.others
  files := a.files ++ b.files
  children := a.children ++ b.children
  totalFiles := a.totalFiles + b.totalFiles
  totalDirs := a.totalDirs + b.totalDirs
  ignoredFiles := a.ignoredFiles + b.ignoredFiles
  ignoredDirs := a.ignoredDirs + b.ignoredDirs
  levels := max a.levels b.levels
  notes := a.notes ++ b.notes

instance : Append Findings := ⟨append⟩

/-- The findings of entries in the order of their names. -/
def gather (found : List (String × Findings)) : Findings :=
  (found.mergeSort fun a b => precedes a.1 b.1).foldl (fun all (_, one) => all ++ one) {}

/-- The findings of a directory as one entry of the directory above it. A directory without files
below it has no node. -/
def asEntry (found : Findings) (name path : String) (depth : Nat) : Findings :=
  { found with
    files := []
    children :=
      if found.files.isEmpty && found.children.isEmpty then []
      else [.mk name path depth found.files found.children]
    totalDirs := found.totalDirs + 1
    levels := found.levels + 1 }

end Findings

/-- The surroundings of a walk: the site, the place of its root, and the rules. -/
structure Walk where
  site : Site
  root : Place
  rules : ScanRules

namespace Walk

def childPath (directory name : String) : String :=
  if directory.isEmpty then name else directory ++ "/" ++ name

def placeOf (walk : Walk) (path : String) : Place := walk.root ++ (Path.ofText path).names

def leadsToFile (walk : Walk) (path : String) : Bool :=
  match walk.site.item (.ofPlace (walk.placeOf path)) with
  | .ok (.file _) => true
  | _ => false

def slashes (path : String) : Nat := (path.toList.filter (· == '/')).length

def fileFindings (walk : Walk) (name path : String) : Findings :=
  if walk.rules.ignoresFile path then { ignoredFiles := 1 }
  else if walk.rules.isEligible name then
    { work := [⟨path, slashes path⟩], files := [name], totalFiles := 1 }
  else { others := [path], totalFiles := 1 }

def unlisted (walk : Walk) (path : String) (fault : OsFault) : Record :=
  let error : OsError := ⟨fault, (Path.ofPlace (walk.placeOf path)).toText⟩
  .warning "scanner" ("Skipping unreadable directory " ++ path ++ ": " ++ error.message)

mutual

def item (walk : Walk) (name path : String) (depth : Nat) : Item → Findings
  | .file _ => walk.fileFindings name path
  | .link _ => if walk.leadsToFile path then walk.fileFindings name path else {}
  | .directory entries =>
      if walk.rules.ignoresDirectory name path then { ignoredDirs := 1 }
      else match walk.site.listFault? (walk.placeOf path) with
        | some fault =>
            ({ notes := [walk.unlisted path fault] } : Findings).asEntry name path depth
        | none =>
            (Findings.gather (walk.entries path (depth + 1) entries)).asEntry name path depth

def entries (walk : Walk) (directory : String) (depth : Nat) :
    List (String × Item) → List (String × Findings)
  | [] => []
  | entry :: rest => walk.entry directory depth entry :: walk.entries directory depth rest

def entry (walk : Walk) (directory : String) (depth : Nat) : String × Item → String × Findings
  | (name, content) => (name, walk.item name (childPath directory name) depth content)

end

def all (walk : Walk) (found : List (String × Item)) : Findings :=
  .gather (walk.entries "" 1 found)

end Walk

end SourceAtlas
