import SourceAtlas.Path
import SourceAtlas.Text.Quoted
import SourceAtlas.Text.Utf8

/-!
File trees: directories, files and symbolic links. A place in a tree is the list of names that lead
to it from the root; a written path leads to a place by following links, and may fail in the ways an
operating system tells apart.
-/
namespace SourceAtlas

open Text

/-- A file, a link to a written path, or a directory with its entries. -/
inductive Item
  | file (content : Bytes)
  | link (target : String)
  | directory (entries : List (String × Item))

/-- A place in a tree: the names on the way to it. -/
abbrev Place := List String

/-- Why an operation on a tree fails. -/
inductive OsFault
  | missing
  | device
  | denied
  | exists
  | notDirectory
  | isDirectory
  | noSpace
  | readOnly
  | nameTooLong
  | linkLoop
  deriving BEq, DecidableEq, Repr

def OsFault.number : OsFault → Nat
  | .missing => 2
  | .device => 5
  | .denied => 13
  | .exists => 17
  | .notDirectory => 20
  | .isDirectory => 21
  | .noSpace => 28
  | .readOnly => 30
  | .nameTooLong => 36
  | .linkLoop => 40

def OsFault.reason : OsFault → String
  | .missing => "No such file or directory"
  | .device => "Input/output error"
  | .denied => "Permission denied"
  | .exists => "File exists"
  | .notDirectory => "Not a directory"
  | .isDirectory => "Is a directory"
  | .noSpace => "No space left on device"
  | .readOnly => "Read-only file system"
  | .nameTooLong => "File name too long"
  | .linkLoop => "Too many levels of symbolic links"

/-- A failed operation, with the path as it was written. -/
structure OsError where
  fault : OsFault
  path : String
  deriving BEq, DecidableEq, Repr

def OsFault.message (fault : OsFault) : String :=
  "[Errno " ++ toString fault.number ++ "] " ++ fault.reason

def OsError.message (e : OsError) : String := e.fault.message ++ ": " ++ quotedText e.path

namespace Item

def isDirectory : Item → Bool
  | .directory _ => true
  | _ => false

def get? : Item → Place → Option Item
  | item, [] => some item
  | .directory entries, name :: rest => (entries.lookup name).bind (get? · rest)
  | _, _ :: _ => none

def putEntry (name : String) (item : Item) : List (String × Item) → List (String × Item)
  | [] => [(name, item)]
  | (n, i) :: rest => if n == name then (n, item) :: rest else (n, i) :: putEntry name item rest

def put : Item → Place → Item → Item
  | _, [], new => new
  | .directory entries, [name], new => .directory (putEntry name new entries)
  | .directory entries, name :: rest, new =>
      match entries.lookup name with
      | some item => .directory (putEntry name (put item rest new) entries)
      | none => .directory entries
  | item, _, _ => item

def erase : Item → Place → Item
  | .directory entries, [name] => .directory (entries.filter (·.1 != name))
  | .directory entries, name :: rest =>
      match entries.lookup name with
      | some item => .directory (putEntry name (erase item rest) entries)
      | none => .directory entries
  | item, _ => item

mutual

def linkSteps : Item → Nat
  | .file _ => 0
  | .link target => target.length + 2
  | .directory entries => linkStepsAll entries

def linkStepsAll : List (String × Item) → Nat
  | [] => 0
  | entry :: rest => linkStepsIn entry + linkStepsAll rest

def linkStepsIn : String × Item → Nat
  | (_, item) => item.linkSteps

end

mutual

def leaves (place : Place) : Item → List Place
  | .directory entries => leavesOf place entries
  | _ => [place]

def leavesOf (place : Place) : List (String × Item) → List Place
  | [] => []
  | entry :: rest => leavesIn place entry ++ leavesOf place rest

def leavesIn (place : Place) : String × Item → List Place
  | (name, item) => item.leaves (place ++ [name])

end

end Item

/-- How far the end of a path is followed: a link at the end stands for its target unless it is
asked for itself, and what is to be made may be missing. -/
inductive Reach
  | existing
  | itself
  | toMake
  deriving BEq, DecidableEq

/-- The most links on the way to one place. -/
def linkLimit : Nat := 40

/-- The longest name, in bytes. -/
def nameLimit : Nat := 255

/-- The place that names lead to from a place, over at most `links` links. -/
def locate (root : Item) (reach : Reach) (links : Nat) (here : Place) :
    List String → Except OsFault Place
  | [] => .ok here
  | name :: rest =>
      match root.get? here with
      | some (.directory entries) =>
          if name == ".." then locate root reach links here.dropLast rest
          else if name.utf8ByteSize > nameLimit then .error .nameTooLong
          else match entries.lookup name with
            | none =>
                if rest.isEmpty && reach == .toMake then .ok (here ++ [name]) else .error .missing
            | some (.link target) =>
                if rest.isEmpty && reach == .itself then .ok (here ++ [name])
                else match links with
                  | 0 => .error .linkLoop
                  | links + 1 =>
                      let path := Path.ofText target
                      locate root reach links (if path.isAbsolute then [] else here)
                        (path.names ++ rest)
            | some _ => locate root reach links (here ++ [name]) rest
      | _ => .error .notDirectory
termination_by names => (links, names.length)

/-- A step of resolving a path: a name, or the end of a link's target. -/
inductive ResolveStep
  | name (text : String)
  | leave (link : Place)

/-- The place that steps lead to, with every link replaced and double dots taken out. Names that are
not there are kept. A link met inside its own target is a loop: then all is kept from there on, and
the answer comes with `false`. -/
def resolveFrom (root : Item) (fuel : Nat) (seen : List (Place × Option Place)) (here : Place)
    (steps : List ResolveStep) : Place × Bool :=
  match fuel, steps with
  | _, [] => (here, true)
  | 0, _ => (here, true)
  | fuel + 1, .leave link :: rest => resolveFrom root fuel ((link, some here) :: seen) here rest
  | fuel + 1, .name text :: rest =>
      if text == ".." then resolveFrom root fuel seen here.dropLast rest
      else
        let next := here ++ [text]
        match root.get? next with
        | some (.link target) =>
            match seen.lookup next with
            | some (some place) => resolveFrom root fuel seen place rest
            | some none =>
                (rest.foldl (fun place step => match step with
                  | .name ".." => place.dropLast
                  | .name text => place ++ [text]
                  | .leave _ => place) next, false)
            | none =>
                let path := Path.ofText target
                resolveFrom root fuel ((next, none) :: seen) (if path.isAbsolute then [] else here)
                  (path.names.map .name ++ .leave next :: rest)
        | _ => resolveFrom root fuel seen next rest

end SourceAtlas
