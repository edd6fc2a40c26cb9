import Std.Time
import SourceAtlas.CommandLine.Execution

/-!
The program on a real machine. The part of the file tree that a command may look at is read first,
the command is run on it, and the files it made or changed are written back.
-/
namespace SourceAtlas.Machine

open Text

/-- The moment of a number of seconds after the start of 1970. Years are counted from March, so that
the leap day is the last of its year. -/
def momentOf (seconds : Nat) : Moment :=
  let days := seconds / 86400 + 719468
  let inEra := days % 146097
  let year := (inEra - inEra / 1460 + inEra / 36524 - inEra / 146096) / 365
  let day := inEra - (365 * year + year / 4 - year / 100)
  let month := (5 * day + 2) / 153
  let clock := seconds % 86400
  { year := days / 146097 * 400 + year + (if month < 10 then 0 else 1)
    month := if month < 10 then month + 3 else month - 9
    day := day - (153 * month + 2) / 5 + 1
    hour := clock / 3600, minute := clock / 60 % 60, second := clock % 60
    offset := some 0 }

def textOf (place : Place) : String := (Path.ofPlace place).toText

/-- The item at a place of the machine, directories being listed to a depth. A link leads to the
place it stands for in the end. -/
def itemAt (depth : Nat) (place : Place) : IO (Option Item) := do
  let path := (← IO.currentDir) / textOf place
  match ← path.symlinkMetadata.toBaseIO with
  | .error _ => return none
  | .ok data =>
      match data.type with
      | .file => return some (.file (← IO.FS.readBinFile path).toList)
      | .symlink =>
          match ← (IO.FS.realPath path).toBaseIO with
          | .ok target => return some (.link target.toString)
          | .error _ => return some (.link (textOf place))
      | .dir =>
          match depth with
          | 0 => return some (.directory [])
          | depth + 1 =>
              let mut entries := #[]
              for entry in ← path.readDir do
                match ← itemAt depth (place ++ [entry.fileName]) with
                | some item => entries := entries.push (entry.fileName, item)
                | none => pure ()
              return some (.directory entries.toList)
      | .other => return none

/-- The tree with what stands on the way that names lead from a place, and the item at the end. What
was listed before stays. -/
partial def fetch (depth : Nat) (root : Item) (place : Place) : List String → IO Item
  | [] => do
      match depth, root.get? place with
      | 0, _ | _, some (.directory (_ :: _)) => return root
      | _, _ => return ((← itemAt depth place).map (root.put place)).getD root
  | name :: rest => do
      if name == ".." then fetch depth root place.dropLast rest
      else
        let next := place ++ [name]
        match ← itemAt 0 next with
        | none => return root
        | some (.directory entries) =>
            let known := (root.get? next).isSome
            fetch depth (if known then root else root.put next (.directory entries)) next rest
        | some (.link target) =>
            let root := root.put next (.link target)
            if target == textOf next then return root
            else fetch depth root [] ((Path.ofText target).names ++ rest)
        | some file => return root.put next file

def pathsOf (home : String) : CommandLine.Command → List (Nat × String)
  | .generate options =>
      let output := options.output.toList.map fun output => (0, options.path ++ "/" ++ output)
      (2048, options.path) :: (1, home ++ "/" ++ Store.directoryName) :: output
  | .decrypt file output => (0, file) :: output.toList.map fun path => (0, path)

def accountsIn (list : String) (user : String) : Option String :=
  (split '\n' list).findSome? fun line =>
    let fields := split ':' line
    if fields.head? == some user then fields[5]? else none

/-- How many calls may be nested in all. -/
def callLimit : Nat := 1000

def siteFor (arguments : List String) : IO Site := do
  let here := Path.ofText (← IO.currentDir).toString
  let home := (← IO.getEnv "HOME").getD "/"
  let accounts ← (IO.FS.readFile "/etc/passwd").toBaseIO
  let start : Site := { root := .directory [], workingPlace := here.names, home := home
                        accounts := accountsIn (accounts.toOption.getD "") }
  match CommandLine.Invocation.read arguments with
  | .error _ => return start
  | .ok invocation =>
      let mut root := start.root
      for (depth, text) in pathsOf home invocation.command do
        match start.expandHome (.ofText text) with
        | .ok path => root ← fetch depth root [] (start.namesOf path)
        | .error _ => pure ()
      root ← fetch 0 root [] here.names
      for place in root.leaves [] do
        match root.get? place with
        | some (.link target) =>
            if target ≠ textOf place then root ← fetch 1 root [] (Path.ofText target).names
        | _ => pure ()
      return { start with root := root }

def changes (before after : Item) : List (Place × Bytes) :=
  (after.leaves []).filterMap fun place =>
    match after.get? place, before.get? place with
    | some (.file new), some (.file old) => if new == old then none else some (place, new)
    | some (.file new), _ => some (place, new)
    | _, _ => none

def surroundings : IO Surroundings := do
  let now ← Std.Time.Timestamp.now
  let bytes ← IO.getRandomBytes 28
  return { room := callLimit
           now := momentOf now.val.second.val.toNat
           entropy := ⟨bytes.toList.take Envelope.saltSize, bytes.toList.drop Envelope.saltSize⟩ }

end SourceAtlas.Machine

open SourceAtlas in
def main (arguments : List String) : IO UInt32 := do
  let site ← Machine.siteFor arguments
  let finished := CommandLine.run .standard (← Machine.surroundings)
    ((← IO.getEnv CommandLine.keyVariable).map Text.points) site arguments
  for (place, content) in Machine.changes site.root finished.site.root do
    IO.FS.createDirAll ((← IO.currentDir) / Machine.textOf place.dropLast)
    IO.FS.writeBinFile ((← IO.currentDir) / Machine.textOf place) ⟨content.toArray⟩
  IO.eprint finished.errors
  match finished.ending with
  | .ok ending =>
      IO.print ending.output
      return ending.exitCode.toUInt32
  | .error failure =>
      IO.eprintln failure.message
      return 1
