import SourceAtlas.Decimal.Numeral
import SourceAtlas.Text.Utf8
import SourceAtlas.Yaml.Place

/-!
The tokens of a YAML text. Indentation becomes tokens of its own: a block collection opens where a
line is indented further and closes where one is indented less. A key of a mapping is known only
from the colon after it, so places where one may start are kept pending, one for each level of
brackets, and the token that opens the key is put in at its number when the colon comes.
-/
namespace SourceAtlas.Yaml

/-- Why a text cannot be read. A malformed text breaks the rules of YAML; the other causes lie in
the values that are spelled in it. -/
inductive Fault
  | malformed
  | pointOutOfRange
  | pointTooLarge
  | numeral (fault : Decimal.NumeralFault)
  | calendar (reason : String)
  | noMoment
  | noDigits
  | noTruthValue (text : String)
  deriving BEq, DecidableEq, Repr

inductive Token
  | version (major : Nat)
  | tagHandle (handle start : String)
  | directive
  | documentStart
  | documentEnd
  | streamEnd
  | blockSequence
  | blockMapping
  | blockEnd
  | sequenceOpen
  | sequenceClose
  | mappingOpen
  | mappingClose
  | comma
  | dash
  | key
  | value
  | alias (name : String)
  | anchor (name : String)
  | tag (handle : Option String) (suffix : String)
  | scalar (text : String) (plain : Bool)
  deriving BEq, DecidableEq, Repr

/-- A place where a key may have started. A required one stands where only a key can. -/
structure PendingKey where
  number : Nat
  required : Bool
  index : Nat
  line : Nat
  column : Nat

/-- What has been read of a text. -/
structure Scan where
  place : Place
  tokens : Array Token := #[]
  flow : Nat := 0
  indent : Int := -1
  indents : List Int := []
  keyAllowed : Bool := true
  pending : List (Nat × PendingKey) := []

abbrev Reading := Except Fault

def refuse {α : Type} : Reading α := .error .malformed

def require (holds : Bool) : Reading Unit := if holds then .ok () else refuse

namespace Scan

def push (s : Scan) (t : Token) : Scan := { s with tokens := s.tokens.push t }

def moveTo (s : Scan) (p : Place) : Scan := { s with place := p }

/-- Drops the pending keys that can no longer be keys: those on an earlier line, or too far back. -/
def dropStale (s : Scan) : Reading Scan :=
  let stale := fun (k : PendingKey) => k.line ≠ s.place.line || s.place.index - k.index > 1024
  if s.pending.any fun (_, k) => stale k && k.required then refuse
  else .ok { s with pending := s.pending.filter fun (_, k) => !stale k }

def dropPending (s : Scan) : Reading Scan :=
  match s.pending.lookup s.flow with
  | none => .ok s
  | some k =>
      if k.required then refuse
      else .ok { s with pending := s.pending.filter fun (level, _) => level ≠ s.flow }

def notePending (s : Scan) : Reading Scan :=
  if s.keyAllowed then do
    let s ← s.dropPending
    let k : PendingKey :=
      { number := s.tokens.size
        required := s.flow == 0 && s.indent == s.place.column
        index := s.place.index, line := s.place.line, column := s.place.column }
    .ok { s with pending := (s.flow, k) :: s.pending }
  else .ok s

def unwindFrom (column indent : Int) (tokens : Array Token) :
    List Int → Int × List Int × Array Token
  | [] => (indent, [], tokens)
  | outer :: rest =>
      if indent > column then unwindFrom column outer (tokens.push .blockEnd) rest
      else (indent, outer :: rest, tokens)

def unwind (s : Scan) (column : Int) : Scan :=
  if s.flow ≠ 0 then s
  else
    let (indent, indents, tokens) := unwindFrom column s.indent s.tokens s.indents
    { s with indent, indents, tokens }

/-- Opens a block collection at a column, unless one is open there; `number` is the place of its
token among the others. -/
def openBlock (s : Scan) (column : Int) (number : Nat) (t : Token) : Scan :=
  if s.indent < column then
    { s with
      indents := s.indent :: s.indents
      indent := column
      tokens := s.tokens.insertIdxIfInBounds number t }
  else s

/-- Past spaces, comments and line ends. Outside brackets a new line may start a key. -/
def toToken (fuel : Nat) (s : Scan) : Scan :=
  match fuel with
  | 0 => s
  | fuel + 1 =>
      let p := s.place.skipSpaces.skipComment
      match p.lineEnd with
      | ([], p) => s.moveTo p
      | (_, p) =>
          toToken fuel { s with place := p, keyAllowed := s.keyAllowed || s.flow == 0 }

def isWordChar (c : Char) : Bool := c.isAlphanum || c == '-' || c == '_'

def isUriChar (c : Char) : Bool := c.isAlphanum || "-;/?:@&=+$,_.!~*'()[]%".toList.contains c

def isHex (c : Char) : Bool := c.isDigit || ('a' ≤ c && c ≤ 'f') || ('A' ≤ c && c ≤ 'F')

def hexValue (digits : List Char) : Nat :=
  digits.foldl (fun n c => n * 16 + (Decimal.digitIn? 16 c).getD 0) 0

def expect (test : Option Char → Bool) (p : Place) : Reading Place :=
  if test p.peek then .ok p.step else refuse

def emptyLine (p : Place) : Reading Place := do
  let p := p.skipSpaces.skipComment
  require (isLineGap p.peek)
  .ok p.lineEnd.2

def escapesFrom (fuel : Nat) (seen : Text.Bytes) (p : Place) : Reading (Text.Bytes × Place) :=
  match fuel, p.rest with
  | fuel + 1, '%' :: a :: b :: _ => do
      require (isHex a && isHex b)
      escapesFrom fuel ((hexValue [a, b]).toUInt8 :: seen) (p.steps 3)
  | _, '%' :: _ => refuse
  | _, _ => .ok (seen, p)

/-- The address of a tag; escapes in it spell bytes of UTF-8. -/
def uriFrom (fuel : Nat) (seen : List Char) (p : Place) : Reading (List Char × Place) :=
  match fuel with
  | 0 => .ok (seen, p)
  | fuel + 1 =>
      match p.peek with
      | none => .ok (seen, p)
      | some c =>
          if c == '%' then do
            let (bytes, next) ← escapesFrom p.bound [] p
            match Text.Utf8.decode bytes.reverse with
            | .ok text => uriFrom fuel (text.toList.reverse ++ seen) next
            | .error _ => refuse
          else if isUriChar c then uriFrom fuel (c :: seen) p.step
          else .ok (seen, p)

def uri (p : Place) : Reading (String × Place) := do
  let (seen, next) ← uriFrom p.bound [] p
  require (next.index ≠ p.index)
  .ok (.ofList seen.reverse, next)

/-- The handle of a tag: an exclamation mark, or a word between two. -/
def handle (p : Place) : Reading (String × Place) := do
  let p ← expect (· == some '!') p
  if p.peek == some ' ' then .ok ("!", p)
  else
    let (word, p) := p.span isWordChar
    let p ← expect (· == some '!') p
    .ok (.ofList ('!' :: word ++ ['!']), p)

def versionNumber (p : Place) : Reading (Nat × Place) := do
  let (digits, p) := p.span Char.isDigit
  require (!digits.isEmpty)
  match Decimal.readInteger 10 (.ofList digits) with
  | .ok n => .ok (n.toNat, p)
  | .error e => .error (.numeral e)

def directive (p : Place) : Reading (Token × Place) := do
  let (name, p) := p.span isWordChar
  require (!name.isEmpty && isSpaceGap p.peek)
  match String.ofList name with
  | "YAML" =>
      let (major, p) ← versionNumber p.skipSpaces
      let p ← expect (· == some '.') p
      let (_, p) ← versionNumber p
      require (isSpaceGap p.peek)
      .ok (.version major, ← emptyLine p)
  | "TAG" =>
      let (handle, p) ← handle p.skipSpaces
      require (p.peek == some ' ')
      let (start, p) ← uri p.skipSpaces
      require (isSpaceGap p.peek)
      .ok (.tagHandle handle start, ← emptyLine p)
  | _ => .ok (.directive, ← emptyLine (p.skip (!isBreak ·)))

def anchorName (p : Place) : Reading (String × Place) := do
  let (name, p) := p.span isWordChar
  let ends := isGap p.peek || ((p.peek.map "?:,]\x7d%@\x60".toList.contains).getD false)
  require (!name.isEmpty && ends)
  .ok (.ofList name, p)

def marksHandle : List Char → Bool
  | [] => false
  | c :: rest =>
      if c == '!' then true else if c == ' ' || isBreak c then false else marksHandle rest

def tag (p : Place) : Reading (Token × Place) := do
  let after := p.step
  let (handle, suffix, p) ← (match after.peek with
    | some '<' => do
        let (suffix, p) ← uri after.step
        let p ← expect (· == some '>') p
        .ok (none, suffix, p)
    | next =>
        if isGap next then .ok (none, "!", after)
        else if marksHandle after.rest then do
          let (handle, p) ← handle p
          let (suffix, p) ← uri p
          .ok (some handle, suffix, p)
        else do
          let (suffix, p) ← uri after
          .ok (some "!", suffix, p) : Reading (Option String × String × Place))
  require (isSpaceGap p.peek)
  .ok (.tag handle suffix, p)

/-- What becomes of the line ends after a block text. -/
inductive Chomping
  | strip
  | clip
  | keep
  deriving BEq, DecidableEq

def chompingOf? : Option Char → Option Chomping
  | some '+' => some .keep
  | some '-' => some .strip
  | _ => none

def incrementAt (p : Place) : Reading (Option Nat × Place) :=
  match p.peek with
  | some c =>
      if c == '0' then refuse
      else if c.isDigit then .ok (some (c.toNat - 48), p.step)
      else .ok (none, p)
  | none => .ok (none, p)

/-- The indicators of a block text: how it ends and how far it is indented, in either order. -/
def blockIndicators (p : Place) : Reading (Chomping × Option Nat × Place) := do
  match chompingOf? p.peek with
  | some chomping =>
      let (increment, p) ← incrementAt p.step
      require (isSpaceGap p.peek)
      .ok (chomping, increment, p)
  | none =>
      let (increment, p) ← incrementAt p
      let (chomping, p) := match increment.isSome, chompingOf? p.peek with
        | true, some chomping => (chomping, p.step)
        | _, _ => (.clip, p)
      require (isSpaceGap p.peek)
      .ok (chomping, increment, p)

/-- The empty lines ahead (latest first), the greatest column of their spaces, and the place after
them. -/
def leadingLines (fuel : Nat) (breaks : List Char) (deepest : Nat) (p : Place) :
    List Char × Nat × Place :=
  match fuel, p.peek with
  | fuel + 1, some c =>
      if c == ' ' then leadingLines fuel breaks (max deepest p.step.column) p.step
      else if isBreak c then
        let (text, next) := p.lineEnd
        leadingLines fuel (text ++ breaks) deepest next
      else (breaks, deepest, p)
  | _, _ => (breaks, deepest, p)

def indentTo (indent : Nat) (fuel : Nat) (p : Place) : Place :=
  match fuel with
  | 0 => p
  | fuel + 1 => if p.column < indent && p.peek == some ' ' then indentTo indent fuel p.step else p

def emptyLines (indent fuel : Nat) (breaks : List Char) (p : Place) : List Char × Place :=
  match fuel with
  | 0 => (breaks.reverse, p)
  | fuel + 1 =>
      let p := indentTo indent indent p
      if (p.peek.map isBreak).getD false then
        let (text, next) := p.lineEnd
        emptyLines indent fuel (text ++ breaks) next
      else (breaks.reverse, p)

def isSpaceOrTab (o : Option Char) : Bool := o == some ' ' || o == some '\t'

/-- The lines of a block text; `seen` is the text before them (latest first), `breaks` the empty
lines before the next. The result has the text, the last line end and the empty lines after it. -/
def blockLines (folded : Bool) (indent fuel : Nat) (seen breaks : List Char) (p : Place) :
    List Char × List Char × List Char × Place :=
  match fuel with
  | 0 => (seen, [], breaks, p)
  | fuel + 1 =>
      let leading := !isSpaceOrTab p.peek
      let (line, p) := p.span (!isBreak ·)
      let seen := line.reverse ++ (breaks.reverse ++ seen)
      let (lineBreak, p) := p.lineEnd
      let (breaks, p) := emptyLines indent p.bound [] p
      if p.column == indent && p.peek.isSome then
        let joint :=
          if folded && lineBreak == ['\n'] && leading && !isSpaceOrTab p.peek then
            if breaks.isEmpty then [' '] else []
          else lineBreak
        blockLines folded indent fuel (joint ++ seen) breaks p
      else (seen, lineBreak, breaks, p)

def blockText (folded : Bool) (indent : Int) (p : Place) : Reading (String × Place) := do
  let (chomping, increment, p) ← blockIndicators p
  let p ← emptyLine p
  let least := (max (indent + 1) 1).toNat
  let (column, breaks, p) := match increment with
    | some n =>
        let column := least + n - 1
        let (breaks, p) := emptyLines column p.bound [] p
        (column, breaks, p)
    | none =>
        let (breaks, deepest, p) := leadingLines p.bound [] 0 p
        (max least deepest, breaks.reverse, p)
  let (seen, lineBreak, breaks, p) :=
    if p.column == column && p.peek.isSome then blockLines folded column p.bound [] breaks p
    else ([], [], breaks, p)
  let tail := match chomping with
    | .strip => []
    | .clip => lineBreak
    | .keep => lineBreak ++ breaks
  .ok (.ofList (seen.reverse ++ tail), p)

def escapes : List (Char × Nat) :=
  [('0', 0), ('a', 7), ('b', 8), ('t', 9), ('\t', 9), ('n', 10), ('v', 11), ('f', 12), ('r', 13),
    ('e', 27), (' ', 32), ('"', 34), ('\\', 92), ('/', 47), ('N', 0x85), ('_', 0xa0), ('L', 0x2028),
    ('P', 0x2029)]

def pointChar (n : Nat) : Reading Char :=
  if n ≥ Nat.pow 2 31 then .error .pointTooLarge
  else if n ≥ 0x110000 then .error .pointOutOfRange
  else if 0xd800 ≤ n && n < 0xe000 then .ok (Char.ofNat 0xfffd)
  else .ok (Char.ofNat n)

/-- The line ends ahead inside quotes (latest first); a separator of documents may not stand
there. -/
def quotedBreaks (fuel : Nat) (breaks : List Char) (p : Place) : Reading (List Char × Place) :=
  match fuel with
  | 0 => .ok (breaks, p)
  | fuel + 1 => do
      require (!p.isSeparator)
      let p := p.skip fun c => c == ' ' || c == '\t'
      if (p.peek.map isBreak).getD false then
        let (text, next) := p.lineEnd
        quotedBreaks fuel (text ++ breaks) next
      else .ok (breaks, p)

def escape (p : Place) : Reading (List Char × Place) :=
  match p.peek with
  | none => refuse
  | some c =>
      match escapes.lookup c with
      | some n => .ok ([Char.ofNat n], p.step)
      | none =>
          let size := if c == 'x' then 2 else if c == 'u' then 4 else if c == 'U' then 8 else 0
          if size > 0 then do
            let digits := p.step.rest.take size
            require (digits.length == size && digits.all isHex)
            .ok ([← pointChar (hexValue digits)], p.step.steps size)
          else if isBreak c then quotedBreaks p.bound [] p.lineEnd.2
          else refuse

/-- Blanks and line ends inside quotes: one line end is a space, of several the first is dropped. -/
def quotedSpaces (p : Place) : Reading (List Char × Place) :=
  let (spaces, p) := p.span fun c => c == ' ' || c == '\t'
  match p.peek with
  | none => refuse
  | some c =>
      if isBreak c then do
        let (lineBreak, p) := p.lineEnd
        let (breaks, p) ← quotedBreaks p.bound [] p
        let joint := if lineBreak ≠ ['\n'] then lineBreak else if breaks.isEmpty then [' '] else []
        .ok (breaks ++ joint, p)
      else .ok (spaces.reverse, p)

/-- The text up to the closing quote, `seen` before it (latest first). -/
def quotedFrom (double : Bool) (fuel : Nat) (seen : List Char) (p : Place) :
    Reading (List Char × Place) :=
  match fuel with
  | 0 => refuse
  | fuel + 1 =>
      match p.rest with
      | [] => refuse
      | c :: rest =>
          if c == ' ' || c == '\t' || isBreak c then do
            let (text, p) ← quotedSpaces p
            quotedFrom double fuel (text ++ seen) p
          else if double then
            if c == '"' then .ok (seen, p.step)
            else if c == '\\' then do
              let (text, p) ← escape p.step
              quotedFrom double fuel (text ++ seen) p
            else quotedFrom double fuel (c :: seen) p.step
          else if c == '\'' then
            if rest.head? == some '\'' then quotedFrom double fuel (c :: seen) p.step.step
            else .ok (seen, p.step)
          else quotedFrom double fuel (c :: seen) p.step

def endsPlain (flow : Bool) : List Char → Bool
  | [] => true
  | c :: rest =>
      isGap (some c) ||
      (c == ':' && (isGap rest.head? ||
        (flow && (rest.head?.map ",[]\x7b\x7d".toList.contains).getD false))) ||
      (flow && ",?[]\x7b\x7d".toList.contains c)

def plainWord (flow : Bool) (taken : List Char) (p : Place) : List Char × Place :=
  match _h : p.rest with
  | [] => (taken, p)
  | c :: _ =>
      if endsPlain flow p.rest then (taken, p) else plainWord flow (c :: taken) p.step
termination_by p.rest.length
decreasing_by simp [Place.step_rest, _h]

/-- The line ends ahead of a plain text (latest first), `none` at a separator of documents. -/
def plainBreaks (fuel : Nat) (breaks : List Char) (p : Place) : Option (List Char) × Place :=
  match fuel, p.peek with
  | fuel + 1, some c =>
      if c == ' ' then plainBreaks fuel breaks p.step
      else if isBreak c then
        let (text, next) := p.lineEnd
        if next.isSeparator then (none, next) else plainBreaks fuel (text ++ breaks) next
      else (some breaks, p)
  | _, _ => (some breaks, p)

/-- The spaces and line ends between the words of a plain text, latest first, whether a line ended
there, and the place after them. No spaces means that the text ends. -/
def plainSpaces (p : Place) : List Char × Bool × Place :=
  let (spaces, p) := p.span (· == ' ')
  if (p.peek.map isBreak).getD false then
    let (lineBreak, p) := p.lineEnd
    if p.isSeparator then ([], true, p)
    else match plainBreaks p.bound [] p with
      | (none, p) => ([], true, p)
      | (some breaks, p) =>
          let joint :=
            if lineBreak ≠ ['\n'] then lineBreak else if breaks.isEmpty then [' '] else []
          (breaks ++ joint, true, p)
  else (spaces, false, p)

/-- A plain text, `seen` before it (latest first); with it comes whether a key may follow. -/
def plainFrom (flow : Bool) (indent : Int) (fuel : Nat) (seen spaces : List Char)
    (keyAllowed : Bool) (p : Place) : List Char × Bool × Place :=
  match fuel with
  | 0 => (seen, keyAllowed, p)
  | fuel + 1 =>
      if p.peek == some '#' then (seen, keyAllowed, p)
      else match plainWord flow [] p with
        | ([], p) => (seen, keyAllowed, p)
        | (word, p) =>
            let seen := word ++ (spaces ++ seen)
            let (spaces, broke, p) := plainSpaces p
            if spaces.isEmpty || p.peek == some '#' || (!flow && (p.column : Int) < indent) then
              (seen, broke, p)
            else plainFrom flow indent fuel seen spaces broke p

/-- Ends all that is open before a directive, a separator or the end of the text. -/
def settle (s : Scan) : Reading Scan := do
  let s ← (s.unwind (-1)).dropPending
  .ok { s with keyAllowed := false }

def single (s : Scan) (t : Token) : Scan := (s.moveTo s.place.step).push t

def openBracket (s : Scan) (t : Token) : Reading Scan := do
  let s ← s.notePending
  .ok ({ s with flow := s.flow + 1, keyAllowed := true }.single t)

def closeBracket (s : Scan) (t : Token) : Reading Scan := do
  let s ← s.dropPending
  .ok ({ s with flow := s.flow - 1, keyAllowed := false }.single t)

def blockMark (s : Scan) (collection mark : Token) (keyAllowed : Bool) : Reading Scan := do
  require (s.flow ≠ 0 || s.keyAllowed)
  let s := if s.flow == 0 then s.openBlock s.place.column s.tokens.size collection else s
  let s ← s.dropPending
  .ok ({ s with keyAllowed := keyAllowed }.single mark)

def colon (s : Scan) : Reading Scan :=
  match s.pending.lookup s.flow with
  | none => s.blockMark .blockMapping .value (s.flow == 0)
  | some k =>
      let s := { s with
        pending := s.pending.filter fun (level, _) => level ≠ s.flow
        tokens := s.tokens.insertIdxIfInBounds k.number .key
        keyAllowed := false }
      let s := if s.flow == 0 then s.openBlock k.column k.number .blockMapping else s
      .ok (s.single .value)

def maybeKey (s : Scan) (read : Place → Reading (Token × Place)) : Reading Scan := do
  let s ← s.notePending
  let (t, p) ← read s.place
  .ok ({ s with keyAllowed := false }.moveTo p |>.push t)

def quotedText (double : Bool) (p : Place) : Reading (Token × Place) := do
  let (seen, next) ← quotedFrom double p.bound [] p.step
  .ok (.scalar (.ofList seen.reverse) false, next)

def plain (s : Scan) : Reading Scan := do
  let s ← s.notePending
  let (seen, keyAllowed, p) :=
    plainFrom (s.flow ≠ 0) (s.indent + 1) s.place.bound [] [] false s.place
  .ok ({ s with keyAllowed := keyAllowed }.moveTo p |>.push (.scalar (.ofList seen.reverse) true))

def block (s : Scan) (folded : Bool) : Reading Scan := do
  let s ← { s with keyAllowed := true }.dropPending
  let (text, p) ← blockText folded s.indent s.place.step
  .ok (s.moveTo p |>.push (.scalar text false))

def startsPlain (flow : Bool) (c : Char) (next : Option Char) : Bool :=
  !(isGap (some c) || "-?:,[]\x7b\x7d#&*!|>'\"%@\x60".toList.contains c) ||
    (!isGap next && (c == '-' || (!flow && (c == '?' || c == ':'))))

def tokenAt (s : Scan) (c : Char) : Reading Scan :=
  let p := s.place
  let next := p.step.peek
  let spaced := s.flow ≠ 0 || isGap next
  if c == '%' && p.column == 0 then do
    let s ← s.settle
    let (t, p) ← directive s.place.step
    .ok (s.moveTo p |>.push t)
  else if p.atSeparator '-' then do
    let s ← s.settle
    .ok (s.moveTo (s.place.steps 3) |>.push .documentStart)
  else if p.atSeparator '.' then do
    let s ← s.settle
    .ok (s.moveTo (s.place.steps 3) |>.push .documentEnd)
  else if c == '[' then s.openBracket .sequenceOpen
  else if c == '{' then s.openBracket .mappingOpen
  else if c == ']' then s.closeBracket .sequenceClose
  else if c == '}' then s.closeBracket .mappingClose
  else if c == ',' then do
    let s ← s.dropPending
    .ok ({ s with keyAllowed := true }.single .comma)
  else if c == '-' && isGap next then s.blockMark .blockSequence .dash true
  else if c == '?' && spaced then s.blockMark .blockMapping .key (s.flow == 0)
  else if c == ':' && spaced then s.colon
  else if c == '*' then s.maybeKey fun p => do
    let (name, p) ← anchorName p.step
    .ok (.alias name, p)
  else if c == '&' then s.maybeKey fun p => do
    let (name, p) ← anchorName p.step
    .ok (.anchor name, p)
  else if c == '!' then s.maybeKey tag
  else if c == '|' && s.flow == 0 then s.block false
  else if c == '>' && s.flow == 0 then s.block true
  else if c == '\'' then s.maybeKey (quotedText false)
  else if c == '"' then s.maybeKey (quotedText true)
  else if startsPlain (s.flow ≠ 0) c next then s.plain
  else refuse

/-- The next token or tokens; `none` after the last. -/
def next (s : Scan) : Reading (Scan × Bool) := do
  let s ← (s.toToken s.place.bound).dropStale
  let s := s.unwind s.place.column
  match s.place.peek with
  | none => do
      let s ← s.settle
      .ok ({ s with pending := [] }.push .streamEnd, true)
  | some c => do
      let s ← s.tokenAt c
      .ok (s, false)

def settledCount (s : Scan) : Nat :=
  s.pending.foldl (fun n (_, k) => min n k.number) s.tokens.size

/-- All tokens, up to the first fault. What may still have become a key does not count then. -/
def all (fuel : Nat) (s : Scan) : List Token × Option Fault :=
  match fuel with
  | 0 => (s.tokens.toList, some .malformed)
  | fuel + 1 =>
      match s.next with
      | .ok (s, true) => (s.tokens.toList, none)
      | .ok (s, false) => all fuel s
      | .error fault =>
          let s := s.dropStale.toOption.getD s
          (s.tokens.toList.take s.settledCount, some fault)

end Scan

def tokens (text : List Char) : List Token × Option Fault :=
  if text.all isAllowed then
    let place : Place := ⟨text, text.length + 2, 0, 0, 0⟩
    let start := if place.peek == some (Char.ofNat 0xfeff) then place.step else place
    Scan.all start.bound { place := start }
  else ([], some .malformed)

end SourceAtlas.Yaml
