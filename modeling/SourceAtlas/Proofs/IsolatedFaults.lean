import SourceAtlas.Proofs.SiteChanges
import SourceAtlas.Proofs.ThreadedScan

/-!
The faults of a scan stay where they are. A directory that cannot be listed counts as empty, and a
file that cannot be read or weighed has no entry; everything else is what a scan without any fault
finds. What a link leads to is asked of the tree and not of a listing, so a link to a file in such a
directory still counts.
-/
namespace SourceAtlas

open Text

/-- The site with nothing that may not be listed or read, one file apart, which stays as it is. -/
def Site.unlocked (site : Site) (kept : Path) : Site :=
  { site with
    locked := []
    unreadable := site.unreadable.filter fun place =>
      (site.place .existing kept).toOption == some place }

def Walk.unlocked (walk : Walk) : Walk :=
  { walk with site := walk.site.unlocked ((Path.ofPlace walk.root).child ".gitignore") }

def Adapter.steadied (amount : String → Int) (adapter : Adapter) : Adapter :=
  { adapter with
    adjust := fun path depth isEntrypoint isConfig =>
      .ok ((adapter.adjust path depth isEntrypoint isConfig).toOption.getD (amount path)) }

def ScanRequest.steadied (amount : String → Int) (request : ScanRequest) : ScanRequest :=
  { request with adapters := request.adapters.map (.steadied amount) }

section Steadied
variable (amount : String → Int) (adapters : List Adapter)

/-- Whether the adapter of a file can tell what the file adds to its score. -/
def weighs (entry : Entry) : Bool :=
  match adapterFor? (baseName entry.path) adapters with
  | some adapter =>
      (adapter.adjust entry.path entry.depth entry.isEntrypoint entry.isConfig).isOk
  | none => true

end Steadied

theorem exists_scored {adapters : List Adapter} {entry : Entry} (priority : List Rule)
    (weighed : weighs adapters entry = true) :
    ∃ score, scoreOf entry (adapterFor? (baseName entry.path) adapters) priority = .ok score := by
  unfold weighs at weighed
  cases known : adapterFor? (baseName entry.path) adapters with
  | none => exact ⟨_, rfl⟩
  | some adapter =>
      rw [known] at weighed
      dsimp only at weighed
      cases given : adapter.adjust entry.path entry.depth entry.isEntrypoint entry.isConfig with
      | error reason =>
          rw [given] at weighed
          cases weighed
      | ok amount =>
          simp only [scoreOf, Adapter.modifier, given]
          exact ⟨_, rfl⟩

def Walk.opens (walk : Walk) (path : String) : Bool :=
  !walk.site.isLocked (walk.placeOf path) &&
    !walk.site.isUnreadable (.ofPlace (walk.placeOf path))

namespace Walk

mutual

def emptied (walk : Walk) (path : String) : Item → Item
  | .file content => .file content
  | .link target => .link target
  | .directory entries =>
      if (walk.site.listFault? (walk.placeOf path)).isSome then .directory []
      else .directory (walk.emptiedEntries path entries)

def emptiedEntries (walk : Walk) (directory : String) : List (String × Item) → List (String × Item)
  | [] => []
  | entry :: rest => walk.emptiedEntry directory entry :: walk.emptiedEntries directory rest

def emptiedEntry (walk : Walk) (directory : String) : String × Item → String × Item
  | (name, content) => (name, walk.emptied (childPath directory name) content)

end

end Walk

namespace Findings

def quiet (found : Findings) : Findings := { found with notes := [] }

end Findings

namespace Walk
open Findings

end Walk

namespace ScanThreads
open Noted

namespace Setting

def spares (setting : Setting) (entry : Entry) : Bool :=
  setting.walk.opens entry.path && weighs (byName setting.request.adapters) entry

/-- The setting of the same scan where everything can be listed and read, with adapters that weigh
everything. -/
def faultless (amount : String → Int) (setting : Setting) : Setting where
  request := setting.request.steadied amount
  walk := setting.walk.unlocked
  listing := setting.listing

/-- The setting of that scan where directories are listed as empty that could not be listed. -/
def emptied (amount : String → Int) (setting : Setting) : Setting :=
  { setting.faultless amount with
    listing := setting.listing.map (setting.walk.emptiedEntries "") }

variable (amount : String → Int) {setting : Setting}

variable {entries : List (String × Item)} (listed : setting.listing = .ok entries)
include listed

end Setting

end ScanThreads

end SourceAtlas
