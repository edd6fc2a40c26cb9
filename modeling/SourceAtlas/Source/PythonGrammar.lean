import SourceAtlas.Source.PythonExpr

/-!
Reading statements and whole programs. A program is accepted or refused as a whole; whether names
are bound, or a statement stands where it makes sense, is no question of the grammar.
-/
namespace SourceAtlas.Source.Python

open Text Reader

/-- Statements one call further down: the block after a colon. -/
abbrev Blocks := Reader (List Stmt)

def takeNewline : Reader Unit := do
  if (← peek) == .newline then skip else refuse

def atEnd : Reader Bool := do
  let t ← peek
  return t == .newline || t == .op ";"

/-- How deep the productions of a program may call each other. -/
def depthLimit : Nat := 6000

def updates : List String :=
  ["+=", "-=", "*=", "/=", "//=", "%=", "@=", "&=", "|=", "^=", ">>=", "<<=", "**="]

def assigned (below : Below) : Reader Expr := do
  if ← atWord "yield" then below .yieldExpr else below .starExpressions

/-- Further targets and the value of an assignment after its first target and equals sign. -/
def assignChain (below : Below) : Nat → List Expr → Reader Stmt
  | 0, _ => refuse
  | n + 1, targets => do
      let e ← assigned below
      if ← takeOp? "=" then
        if e.isTarget true then assignChain below n (e :: targets) else refuse
      else return .assign targets.reverse e

def expressionStatement (below : Below) : Reader Stmt := do
  if ← atWord "yield" then
    let e ← below .yieldExpr
    if ← atEnd then return .simple [e] else refuse
  let first ← below .starExpressions
  match ← peek with
  | .op "=" =>
      skip
      if first.isTarget true then assignChain below (← ahead) [first] else refuse
  | .op ":" =>
      if !first.isSingle then refuse
      skip
      let hint ← below .expression
      let value ← do
        if ← takeOp? "=" then pure (some (← assigned below)) else pure none
      return .annotated first hint value
  | .op text =>
      if updates.contains text then
        if !first.isSingle then refuse
        skip
        return .simple [first, ← assigned below]
      else return .simple [first]
  | _ => return .simple [first]

/-- A name with further names after it, dots between them. -/
def Name.dotted (first : Name) (more : List String) : Name where
  text := join "." (first.text :: more)
  filled := by
    intro none
    cases more with
    | nil => exact first.filled none
    | cons next more =>
        rw [join, String.intercalate_cons_cons, String.append_eq_empty_iff] at none
        exact first.filled (String.append_eq_empty_iff.mp none.1).1

def dottedName : Reader Name := do
  let first ← takeIdentifier
  let more ← repeated do
    if ← takeOp? "." then return some (← takeName) else return none
  return first.dotted more

/-- A new name after `as`, if one is given. -/
def alias? : Reader Unit := do
  if ← takeWord? "as" then
    let _ ← takeName

def importStatement : Reader Stmt := do
  takeWord "import"
  let (names, comma) ← commaList (do let n ← dottedName; alias?; return n) fun t => t == .newline
  if comma then refuse else return .importModules names

def dots : Nat → Nat → Reader Nat
  | 0, found => return found
  | n + 1, found => do
      if ← takeOp? "." then dots n (found + 1)
      else if ← takeOp? "..." then dots n (found + 3)
      else return found

def importedNames : Reader Unit := do
  let item : Reader Unit := do
    let _ ← takeName
    alias?
  if ← takeOp? "*" then return
  if ← takeOp? "(" then
    let _ ← commaList item (isOp ")")
    takeOp ")"
  else
    let (_, comma) ← commaList item fun t => t == .newline || t == .op ";"
    if comma then refuse

def fromStatement : Reader Stmt := do
  takeWord "from"
  let level ← dots (← ahead) 0
  let bare ← atWord "import"
  let origin : Origin ← do
    if named : bare = true ∧ 0 < level then pure ⟨level, none, .inl named.2⟩
    else pure ⟨level, some (← dottedName), .inr rfl⟩
  takeWord "import"
  importedNames
  return .importFrom origin

def names : Reader Unit := do
  let (_, comma) ← commaList takeName fun t => t == .newline || t == .op ";"
  if comma then refuse

mutual

def Expr.isDeletable : Expr → Bool
  | .name _ | .attribute .. | .subscript .. => true
  | .tuple items | .list items => areDeletable items
  | _ => false

def areDeletable : List Expr → Bool
  | [] => true
  | e :: rest => e.isDeletable && areDeletable rest

end

def deleteStatement (below : Below) : Reader Stmt := do
  takeWord "del"
  let (items, _) ← commaList (below .primary) fun t => t == .newline || t == .op ";"
  if !(items.all Expr.isDeletable) then refuse
  if ← atEnd then return .simple items else refuse

def simpleStatement (below : Below) : Reader Stmt := do
  match ← peek with
  | .name "return" =>
      skip
      if ← atEnd then return .simple [] else return .simple [← below .starExpressions]
  | .name "import" => importStatement
  | .name "from" => fromStatement
  | .name "raise" =>
      skip
      if ← atEnd then return .simple []
      let raised ← below .expression
      if ← takeWord? "from" then return .simple [raised, ← below .expression]
      else return .simple [raised]
  | .name "pass" | .name "break" | .name "continue" =>
      skip
      return .simple []
  | .name "del" => deleteStatement below
  | .name "assert" =>
      skip
      let test ← below .expression
      if ← takeOp? "," then return .simple [test, ← below .expression]
      else return .simple [test]
  | .name "global" | .name "nonlocal" =>
      skip
      names
      return .simple []
  | _ => expressionStatement below

def simpleLine (below : Below) : Nat → List Stmt → Reader (List Stmt)
  | 0, _ => refuse
  | n + 1, done => do
      let s ← simpleStatement below
      if ← takeOp? ";" then
        if (← peek) == .newline then
          skip
          return (s :: done).reverse
        else simpleLine below n (s :: done)
      else
        takeNewline
        return (s :: done).reverse

/-- The kinds of patterns that others call again. -/
inductive PatternGoal
  | open_
  | pattern

/-- Pattern readers one call further down; only their acceptance matters. -/
abbrev PatternsBelow := PatternGoal → Reader Unit

def captureTarget : Reader Unit := do
  match ← peek with
  | .name "_" => refuse
  | _ =>
      let _ ← takeName
      match ← peek with
      | .op "." | .op "(" | .op "=" => refuse
      | _ => return

/-- Dots and names after the first name. -/
def attributeTail : Reader Nat := do
  let more ← repeated do
    if ← takeOp? "." then return some (← takeName) else return none
  return more.length

def isImaginary (text : List Char) : Bool :=
  text.getLast? == some 'j' || text.getLast? == some 'J'

/-- A number with an optional sign, or a complex number as a sum. -/
def numberPattern : Reader Unit := do
  let _ ← takeOp? "-"
  match ← peek with
  | .number text =>
      skip
      if (← takeOp? "+") || (← takeOp? "-") then
        match ← peek with
        | .number second =>
            if isImaginary second && !isImaginary text then skip else refuse
        | _ => refuse
  | _ => refuse

/-- A part of a sequence pattern: a starred name or a pattern. -/
def sequencePart (patterns : PatternsBelow) : Reader Unit := do
  if ← takeOp? "*" then
    if ← takeWord? "_" then return else captureTarget
  else patterns .pattern

/-- The key of a mapping pattern: a literal or a dotted name. -/
def patternKey (below : Below) : Reader Unit := do
  match ← peek with
  | .string _ =>
      let _ ← strings below
  | .number _ | .op "-" => numberPattern
  | .name "None" | .name "True" | .name "False" => skip
  | _ =>
      let _ ← takeName
      if (← attributeTail) = 0 then refuse

/-- Entries of a mapping pattern, the collecting one last. -/
def mappingEntries (below : Below) (patterns : PatternsBelow) : Nat → Reader Unit
  | 0 => refuse
  | n + 1 => do
      if ← takeOp? closeBrace then return
      if ← takeOp? "**" then
        captureTarget
        let _ ← takeOp? ","
        takeOp closeBrace
      else
        patternKey below
        takeOp ":"
        patterns .pattern
        if ← takeOp? "," then mappingEntries below patterns n else takeOp closeBrace

/-- Arguments of a class pattern: by position, then by name. -/
def classEntries (patterns : PatternsBelow) : Nat → Bool → Reader Unit
  | 0, _ => refuse
  | n + 1, named => do
      if ← takeOp? ")" then return
      let named ← do
        if (← peekSecond) == .op "=" then
          let _ ← takeName
          skip
          pure true
        else if named then refuse
        else pure false
      patterns .pattern
      if ← takeOp? "," then classEntries patterns n named else takeOp ")"

def namePattern (patterns : PatternsBelow) : Reader Unit := do
  if (← atWord "_") && !([Token.op ".", .op "(", .op "="].contains (← peekSecond)) then
    skip
    return
  let _ ← takeName
  let _ ← attributeTail
  if ← takeOp? "(" then
    if ← takeOp? ")" then return
    if ← atOp "," then refuse
    classEntries patterns (← ahead) false
  else if ← atOp "=" then refuse

def bracketPattern (patterns : PatternsBelow) (close : String) : Reader Unit := do
  if ← takeOp? close then return
  let _ ← commaList (sequencePart patterns) (isOp close)
  takeOp close

/-- A pattern in parentheses: a group, or a sequence if it has a comma. -/
def groupPattern (patterns : PatternsBelow) : Reader Unit := do
  if ← takeOp? ")" then return
  let starred ← atOp "*"
  let (items, comma) ← commaList (sequencePart patterns) (isOp ")")
  takeOp ")"
  if starred && items.length = 1 && !comma then refuse

def closedPattern (below : Below) (patterns : PatternsBelow) : Reader Unit := do
  match ← peek with
  | .number _ | .op "-" => numberPattern
  | .string _ =>
      let _ ← strings below
  | .name "None" | .name "True" | .name "False" => skip
  | .op "(" =>
      skip
      groupPattern patterns
  | .op "[" =>
      skip
      bracketPattern patterns "]"
  | .op "\x7b" =>
      skip
      mappingEntries below patterns (← ahead)
  | _ => namePattern patterns

def pattern (below : Below) (patterns : PatternsBelow) : Reader Unit := do
  closedPattern below patterns
  let _ ← repeated do
    if ← takeOp? "|" then
      closedPattern below patterns
      return some ()
    else return none
  if ← takeWord? "as" then captureTarget

/-- The pattern of a case: a sequence without brackets, or one pattern. -/
def openPattern (patterns : PatternsBelow) : Reader Unit := do
  let starred ← atOp "*"
  let (items, comma) ← commaList (sequencePart patterns) fun t => t == .op ":" || t == .name "if"
  if starred && items.length = 1 && !comma then refuse

def patternGoal (below : Below) : Nat → PatternsBelow
  | 0 => fun _ => refuse
  | n + 1 => fun
      | .open_ => openPattern (patternGoal below n)
      | .pattern => pattern below (patternGoal below n)

def elseBlock (block : Blocks) : Reader (List Stmt) := do
  if ← takeWord? "else" then
    takeOp ":"
    block
  else return []

/-- The branches after the first one, as a chain of nested branches. -/
def laterBranches (below : Below) (block : Blocks) : Nat → Reader (List Stmt)
  | 0 => refuse .tooDeep
  | n + 1 => do
      if ← takeWord? "elif" then
        let test ← below .namedExpression
        takeOp ":"
        let body ← block
        return [.branch test body (← laterBranches below block n)]
      else elseBlock block

def ifStatement (below : Below) (block : Blocks) : Reader Stmt := do
  takeWord "if"
  let test ← below .namedExpression
  takeOp ":"
  let body ← block
  return .branch test body (← laterBranches below block depthLimit)

def whileStatement (below : Below) (block : Blocks) : Reader Stmt := do
  takeWord "while"
  let test ← below .namedExpression
  takeOp ":"
  let body ← block
  return .loop [test] body (← elseBlock block)

def forStatement (below : Below) (block : Blocks) : Reader Stmt := do
  takeWord "for"
  let target ← targets below (· == .name "in")
  takeWord "in"
  let source ← below .starExpressions
  takeOp ":"
  let body ← block
  return .loop [target, source] body (← elseBlock block)

def withItem (below : Below) : Reader (List Expr) := do
  let context ← below .expression
  if ← takeWord? "as" then
    let starred ← takeOp? "*"
    let target ← below .primary
    let fits := if starred then target.isPlainTarget else target.isTarget true
    if !fits then refuse
    match ← peek with
    | .op "," | .op ")" | .op ":" => return [context, target]
    | _ => refuse
  else return [context]

def withItems (below : Below) : Reader (List Expr) :=
  orElse
    (do
      takeOp "("
      let (items, _) ← commaList (withItem below) (isOp ")")
      takeOp ")"
      takeOp ":"
      return items.flatten)
    (do
      let (items, comma) ← commaList (withItem below) (isOp ":")
      if comma then refuse
      takeOp ":"
      return items.flatten)

def withStatement (below : Below) (block : Blocks) : Reader Stmt := do
  takeWord "with"
  let contexts ← withItems below
  return .withBlock contexts (← block)

/-- Whether a handler names groups of exceptions. -/
inductive HandlerKind
  | plain
  | group
  deriving BEq

def handler? (below : Below) (block : Blocks) : Reader (Option (HandlerKind × Handler)) := do
  if !(← takeWord? "except") then return none
  let kind ← do
    if ← takeOp? "*" then pure HandlerKind.group else pure HandlerKind.plain
  let heads ← do
    if ← atOp ":" then
      if kind == .group then refuse else pure []
    else
      let caught ← below .expression
      alias?
      pure [caught]
  takeOp ":"
  return some (kind, .mk heads (← block))

def tryStatement (below : Below) (block : Blocks) : Reader Stmt := do
  takeWord "try"
  takeOp ":"
  let body ← block
  let handlers ← repeated (handler? below block)
  let kinds := handlers.map (·.1)
  if kinds.contains .plain && kinds.contains .group then refuse
  let orelse ← if handlers.isEmpty then pure [] else elseBlock block
  let isFinal ← takeWord? "finally"
  let final ← do
    if isFinal then
      takeOp ":"
      block
    else pure []
  if handlers.isEmpty && !isFinal then refuse
  return .tryBlock body (handlers.map (·.2)) orelse final

def hint? (below : Below) : Reader (Option Expr) := do
  if ← takeOp? ":" then return some (← below .expression) else return none

def starHint? (below : Below) : Reader (Option Expr) := do
  if ← takeOp? ":" then
    if ← takeOp? "*" then return some (.starred (← below .bitOr))
    else return some (← below .expression)
  else return none

def functionStatement (below : Below) (block : Blocks) (isAsync : Bool) (decorators : List Expr) :
    Reader Stmt := do
  takeWord "def"
  let name ← takeName
  takeOp "("
  let found ← params below (hint? below) (starHint? below) (isOp ")")
  takeOp ")"
  let returns ← do
    if ← takeOp? "->" then pure (some (← below .expression)) else pure none
  takeOp ":"
  return .function isAsync name found returns decorators (← block)

def classStatement (below : Below) (block : Blocks) (decorators : List Expr) : Reader Stmt := do
  takeWord "class"
  let name ← takeName
  let (bases, keywords) ← do
    if ← takeOp? "(" then arguments below false else pure ([], [])
  takeOp ":"
  return .classDef name bases keywords decorators (← block)

def decorator? (below : Below) : Reader (Option Expr) := do
  if ← takeOp? "@" then
    let e ← below .namedExpression
    takeNewline
    return some e
  else return none

def decorated (below : Below) (block : Blocks) : Reader Stmt := do
  let decorators ← repeated (decorator? below)
  match ← peek with
  | .name "class" => classStatement below block decorators
  | .name "async" =>
      skip
      functionStatement below block true decorators
  | _ => functionStatement below block false decorators

def asyncStatement (below : Below) (block : Blocks) : Reader Stmt := do
  takeWord "async"
  match ← peek with
  | .name "def" => functionStatement below block true []
  | .name "with" => withStatement below block
  | .name "for" => forStatement below block
  | _ => refuse

def matchHead (below : Below) : Reader (List Expr) := do
  takeWord "match"
  let (items, comma) ← commaList (displayItem below) (isOp ":")
  if items.any isStarred && items.length = 1 && !comma then refuse
  takeOp ":"
  takeNewline
  if (← peek) == .indent then skip else refuse
  if ← atWord "case" then return items else refuse

def case? (below : Below) (block : Blocks) : Reader (Option Handler) := do
  if !(← takeWord? "case") then return none
  patternGoal below (2 * (← ahead) + 2) .open_
  let heads ← do
    if ← takeWord? "if" then pure [← below .namedExpression] else pure []
  takeOp ":"
  return some (.mk heads (← block))

def matchCases (below : Below) (block : Blocks) (subjects : List Expr) : Reader Stmt := do
  let cases ← repeated (case? below block)
  if (← peek) == .dedent then skip else refuse
  return .matchBlock subjects cases

/-- What a reader yields if it accepts; nothing is taken if not. -/
def attempted {α : Type} (reader : Reader α) : Reader (Option α) :=
  orElse (do return some (← reader)) (pure none)

def statement (below : Below) (block : Blocks) : Reader (List Stmt) := do
  let one := fun (r : Reader Stmt) => do return [← r]
  match ← peek with
  | .name "if" => one (ifStatement below block)
  | .name "while" => one (whileStatement below block)
  | .name "for" => one (forStatement below block)
  | .name "with" => one (withStatement below block)
  | .name "try" => one (tryStatement below block)
  | .name "def" => one (functionStatement below block false [])
  | .name "class" => one (classStatement below block [])
  | .name "async" => one (asyncStatement below block)
  | .op "@" => one (decorated below block)
  | .name "match" =>
      match ← attempted (matchHead below) with
      | some subjects => one (matchCases below block subjects)
      | none => simpleLine below (← ahead) []
  | .indent => refuse .unexpectedIndent
  | _ => simpleLine below (← ahead) []

/-- Statements up to a token that starts none, which is not taken. -/
def statementsFrom (below : Below) (block : Blocks) (stop : Token) :
    Nat → List Stmt → Reader (List Stmt)
  | 0, _ => refuse
  | n + 1, done => do
      if (← peek) == stop then return done.reverse
      else
        let found ← statement below block
        statementsFrom below block stop n (found.reverse ++ done)

/-- The block after a colon: an indented one, or simple statements on the same line. -/
def blockOf (below : Below) : Nat → Blocks
  | 0 => refuse
  | n + 1 => do
      if (← peek) == .newline then
        skip
        if (← peek) == .indent then skip else refuse
        let body ← statementsFrom below (blockOf below n) .dedent (← ahead) []
        skip
        return body
      else simpleLine below (← ahead) []

def parse (source : List Char) : Except Fault (List Stmt) := do
  let input := Input.ofLexemes (← lexemes source)
  let below := goal depthLimit
  let (body, _) ←
    (statementsFrom below (blockOf below input.bound) .finish (input.bound + 1) []).run input
  return body

end SourceAtlas.Source.Python
