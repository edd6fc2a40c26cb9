import SourceAtlas.FileTree

/-!
Where the program runs: a file tree, the working directory, the home directories of its users, and
what the system refuses at which places. Paths are taken as they were written, and every failure of
a path names it in that form.
-/
namespace SourceAtlas

open Text

/-- What becomes of a file that is written: it is written as a whole, it cannot be opened, or it is
opened, which empties it, and the writing breaks off after so many bytes. -/
inductive Writing
  | whole
  | refused (fault : OsFault)
  | cut (kept : Nat) (fault : OsFault)
  deriving BEq, DecidableEq, Repr

/-- A scan may neither list nor open what is locked; what is unreadable nobody can open. The
accounts are the home directories of users by their names. -/
structure Site where
  root : Item
  workingPlace : Place := []
  home : String := "/"
  accounts : String → Option String := fun _ => none
  locked : List Place := []
  unreadable : List Place := []
  writing : Place → Writing := fun _ => .whole

/-- Why a written path cannot be used at all. -/
inductive PathFault
  | noHome
  | linkLoop (path : String)
  | embeddedNul
  | emptyName (path : String)
  deriving BEq, DecidableEq, Repr

/-- Why a file could not be written. -/
inductive WriteFault
  | path (fault : PathFault)
  | os (error : OsError)
  | cut (fault : OsFault)
  deriving BEq, DecidableEq, Repr

def PathFault.message : PathFault → String
  | .noHome => "Could not determine home directory."
  | .linkLoop path => "Symlink loop from " ++ quotedText path
  | .embeddedNul => "embedded null byte"
  | .emptyName path => "PosixPath(" ++ quotedText path ++ ") has an empty name"

def hasNul (path : Path) : Bool := path.names.any (·.toList.contains (Char.ofNat 0))

def Path.ofPlace (place : Place) : Path := ⟨"/", place⟩

namespace Site

def namesOf (site : Site) (path : Path) : List String :=
  if path.isAbsolute then path.names else site.workingPlace ++ path.names

def workingPath (site : Site) : Path := .ofPlace site.workingPlace

/-- The home directory that a name with a tilde before it stands for; a tilde alone stands for the
user's own. -/
def homeOf? (site : Site) (user : String) : Option String :=
  if user.isEmpty then some site.home else site.accounts user

/-- The path with a tilde at its front, and the name behind it, replaced by a home directory. -/
def expandHome (site : Site) (path : Path) : Except PathFault Path :=
  if path.isAbsolute then .ok path
  else match path.names with
    | name :: rest =>
        match dropFront? ['~'] name.toList with
        | none => .ok path
        | some user =>
            match site.homeOf? (.ofList user) with
            | some home => .ok ((Path.ofText home).append ⟨"", rest⟩)
            | none => .error .noHome
    | [] => .ok path

/-- A path of so many bytes is too long. -/
abbrev pathLimit : Nat := 4096

def place (site : Site) (reach : Reach) (path : Path) : Except OsError Place :=
  let text := path.toText
  if text.utf8ByteSize ≥ pathLimit then .error ⟨.nameTooLong, text⟩
  else match locate site.root reach linkLimit [] (site.namesOf path) with
    | .ok place => .ok place
    | .error fault => .error ⟨fault, text⟩

def item (site : Site) (path : Path) : Except OsError Item := do
  let place ← site.place .existing path
  match site.root.get? place with
  | some item => .ok item
  | none => .error ⟨.missing, path.toText⟩

/-- The item a path leads to; `none` where nothing is there. Other failures stay failures. -/
def probe (site : Site) (path : Path) : Except OsError (Option Item) :=
  if hasNul path then .ok none
  else match site.item path with
    | .ok item => .ok (some item)
    | .error e =>
        if e.fault == .nameTooLong || e.fault == .denied then .error e else .ok none

def exists? (site : Site) (path : Path) : Except OsError Bool :=
  (site.probe path).map Option.isSome

def isDirectory? (site : Site) (path : Path) : Except OsError Bool :=
  (site.probe path).map fun item => (item.map Item.isDirectory).getD false

def resolve (site : Site) (path : Path) : Except PathFault Path :=
  if hasNul path then .error .embeddedNul
  else
    let names := site.namesOf path
    let fuel := names.length + site.root.linkSteps + 1
    let (place, _) := resolveFrom site.root fuel [] [] (names.map .name)
    match locate site.root .existing linkLimit [] place with
    | .error .linkLoop => .error (.linkLoop (Path.ofPlace place).toText)
    | _ => .ok (.ofPlace place)

def isLocked (site : Site) (place : Place) : Bool := site.locked.contains place

def listFault? (site : Site) (place : Place) : Option OsFault :=
  if (Path.ofPlace place).toText.utf8ByteSize ≥ pathLimit then some .nameTooLong
  else if site.isLocked place then some .denied
  else none

def content (site : Site) (path : Path) : Except OsError Bytes := do
  match ← site.item path with
  | .file content => .ok content
  | _ => .error ⟨.isDirectory, path.toText⟩

def isUnreadable (site : Site) (path : Path) : Bool :=
  match site.place .existing path with
  | .ok place => site.unreadable.contains place
  | .error _ => false

def read (site : Site) (path : Path) : Except OsError Bytes :=
  if site.isUnreadable path then .error ⟨.denied, path.toText⟩ else site.content path

def list (site : Site) (path : Path) : Except OsError (List (String × Item)) := do
  if site.isLocked (site.namesOf path) then .error ⟨.denied, path.toText⟩
  let place ← site.place .existing path
  match site.root.get? place with
    | some (.directory entries) => .ok entries
    | _ => .error ⟨.notDirectory, path.toText⟩

def withRoot (site : Site) (root : Item) : Site := { site with root := root }

def write (site : Site) (path : Path) (content : Bytes) : Site × Except WriteFault Unit :=
  match site.place .toMake path with
  | .error error => (site, .error (.os error))
  | .ok place =>
      match site.root.get? place, site.writing place with
      | some (.directory _), _ => (site, .error (.os ⟨.isDirectory, path.toText⟩))
      | _, .refused fault => (site, .error (.os ⟨fault, path.toText⟩))
      | _, .cut kept fault =>
          (site.withRoot (site.root.put place (.file (content.take kept))), .error (.cut fault))
      | _, .whole => (site.withRoot (site.root.put place (.file content)), .ok ())

/-- The site with one more directory. Even a link that leads nowhere takes up a name, and where no
file can be opened no directory can be made. -/
def makeDirectory (site : Site) (path : Path) : Except OsError Site :=
  match site.place .itself path with
  | .ok _ => .error ⟨.exists, path.toText⟩
  | .error ⟨.missing, _⟩ =>
      match site.place .existing path.parent with
      | .error e => .error ⟨e.fault, path.toText⟩
      | .ok parent =>
          let place := parent ++ [path.name]
          match site.writing place with
          | .refused fault => .error ⟨fault, path.toText⟩
          | _ => .ok (site.withRoot (site.root.put place (.directory [])))
  | .error e => .error e

/-- The site with a directory and those above it; `fuel` bounds how many are missing. A directory
that is there is left as it is. -/
def makeDirectoriesFrom (fuel : Nat) (site : Site) (path : Path) : Site × Except OsError Unit :=
  match site.makeDirectory path, fuel with
  | .ok site, _ => (site, .ok ())
  | .error ⟨.missing, text⟩, fuel + 1 =>
      if path.names.isEmpty then (site, .error ⟨.missing, text⟩)
      else match makeDirectoriesFrom fuel site path.parent with
        | (site, .error e) => (site, .error e)
        | (site, .ok ()) =>
            match site.makeDirectory path with
            | .ok site => (site, .ok ())
            | .error e =>
                match e.fault, site.isDirectory? path with
                | .missing, _ => (site, .error e)
                | _, .ok true => (site, .ok ())
                | _, .ok false => (site, .error e)
                | _, .error e => (site, .error e)
  | .error e, _ =>
      match e.fault, site.isDirectory? path with
      | .missing, _ => (site, .error e)
      | _, .ok true => (site, .ok ())
      | _, .ok false => (site, .error e)
      | _, .error e => (site, .error e)

def makeDirectories (site : Site) (path : Path) : Site × Except OsError Unit :=
  if site.isDirectory? path matches .ok true then (site, .ok ())
  else makeDirectoriesFrom (path.names.length + 1) site path

end Site

end SourceAtlas
