import SourceAtlas.Text.Lines

/-!
Written paths: a root and names. Empty segments and single dots drop out of a path when it is read;
double dots stay, since links may stand before them.
-/
namespace SourceAtlas

open Text

/-- A path as written. The root is empty, one slash, or two. -/
structure Path where
  root : String
  names : List String
  deriving BEq, DecidableEq, Repr

namespace Path

/-- The root at the front of a text: exactly two slashes are a root of their own. -/
def rootOf (text : String) : String :=
  match text.toList.takeWhile (· == '/') with
  | [] => ""
  | ['/', '/'] => "//"
  | _ => "/"

def ofText (text : String) : Path where
  root := rootOf text
  names := (split '/' text).filter fun name => name ≠ "" && name ≠ "."

def toText (path : Path) : String :=
  if path.root.isEmpty && path.names.isEmpty then "."
  else path.root ++ join "/" path.names

def isAbsolute (path : Path) : Bool := !path.root.isEmpty

/-- A path below another one, or the second one by itself where it is absolute. -/
def append (base tail : Path) : Path :=
  if tail.isAbsolute then tail else { base with names := base.names ++ tail.names }

def child (base : Path) (tail : String) : Path := base.append (ofText tail)

def name (path : Path) : String := path.names.getLastD ""

def parent (path : Path) : Path := { path with names := path.names.dropLast }

def withName (path : Path) (name : String) : Path :=
  { path with names := path.names.dropLast ++ [name] }

/-- The ending of a name from its last dot on; none if the dot is the first or the last
character. -/
def endingOf (name : String) : String :=
  let reversed := name.toList.reverse
  let tail := reversed.takeWhile (· ≠ '.')
  if tail.isEmpty || tail.length + 1 ≥ reversed.length then ""
  else .ofList ('.' :: tail.reverse)

def ending (path : Path) : String := endingOf path.name

def relativeTo? (path base : Path) : Option Path :=
  if path.root == base.root && base.names.isPrefixOf path.names then
    some { root := "", names := path.names.drop base.names.length }
  else none

end Path

def baseName (path : String) : String := afterLast '/' path

end SourceAtlas
