import SourceAtlas.Registry
import SourceAtlas.Site

/-!
Which languages a directory holds: those with a detection file in it or in one of its visible
subdirectories.
-/
namespace SourceAtlas

open Text

namespace Detection

def isDirectory (site : Site) (directory : Path) (entry : String × Item) : Except OsFault Bool :=
  match entry.2 with
  | .directory _ => .ok true
  | .file _ => .ok false
  | .link _ =>
      match site.item (directory.child entry.1) with
      | .ok item => .ok item.isDirectory
      | .error error => if error.fault == .missing then .ok false else .error error.fault

/-- The visible subdirectories; none if one entry cannot be told. -/
def subdirectories (site : Site) (root : Path) : List Path :=
  match site.list root with
  | .error _ => []
  | .ok entries =>
      let visible := entries.filter fun entry => !startsWith entry.1 "."
      match visible.filterM (isDirectory site root) with
      | .error _ => []
      | .ok found => found.map fun entry => root.child entry.1

def exists? (site : Site) (path : Path) : Bool := (site.exists? path).toOption.getD false

def applies (site : Site) (root : Path) (subdirectories : List Path) (adapter : Adapter) : Bool :=
  adapter.detectionFiles.any fun file =>
    (root :: subdirectories).any fun directory => exists? site (directory.child file)

end Detection

/-- The adapters of a registry that apply to a directory, in the order of their names. -/
def Registry.detect (registry : Registry) (site : Site) (root : Path) : List Adapter :=
  let below := Detection.subdirectories site root
  byName (registry.adapters.filter (Detection.applies site root below))

end SourceAtlas
