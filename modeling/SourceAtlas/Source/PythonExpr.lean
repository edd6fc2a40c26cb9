import SourceAtlas.Source.PythonLiteral
import SourceAtlas.Text.Compose

/-!
Reading expressions. Each production is a function of the productions it may call again; the knot is
tied at the end by a bound on the depth of the calls.
-/
namespace SourceAtlas.Source.Python

open Text

/-- What remains to be read, and the number of all lexemes of the source. -/
structure Input where
  rest : List Lexeme
  bound : Nat

def Input.ofLexemes (all : List Lexeme) : Input := ⟨all, all.length⟩

/-- A reader consumes lexemes from the front or refuses them. -/
abbrev Reader (α : Type) := StateT Input (Except Fault) α

namespace Reader

def refuse {α : Type} (cause : Cause := .syntax_) : Reader α := fun input =>
  .error ⟨cause, (input.rest.head?.map (·.line)).getD 0⟩

def peek : Reader Token := fun input => .ok ((input.rest.head?.map (·.token)).getD .finish, input)

def lexeme? : Reader (Option Lexeme) := fun input => .ok (input.rest.head?, input)

/-- The token after the one ahead. -/
def peekSecond : Reader Token := fun input =>
  .ok (((input.rest.drop 1).head?.map (·.token)).getD .finish, input)

def skip : Reader Unit := fun input => .ok ((), { input with rest := input.rest.drop 1 })

/-- The second reader where the first one refuses. What goes too deep is refused for good. -/
def orElse {α : Type} (first second : Reader α) : Reader α := fun input =>
  match first input with
  | .ok result => .ok result
  | .error fault => if fault.cause.isTooDeep then .error fault else second input

/-- A bound for repetitions, each of which takes a lexeme. -/
def ahead : Reader Nat := fun input => .ok (input.bound, input)

def atOp (op : String) : Reader Bool := do return (← peek) == .op op

def atWord (word : String) : Reader Bool := do return (← peek) == .name word

def takeOp? (op : String) : Reader Bool := do
  if ← atOp op then
    skip
    return true
  else return false

def takeWord? (word : String) : Reader Bool := do
  if ← atWord word then
    skip
    return true
  else return false

def takeOp (op : String) : Reader Unit := do
  if !(← takeOp? op) then refuse

def takeWord (word : String) : Reader Unit := do
  if !(← takeWord? word) then refuse

end Reader

open Reader

def reservedWords : List String :=
  ["False", "None", "True", "and", "as", "assert", "async", "await", "break", "class", "continue",
    "def", "del", "elif", "else", "except", "finally", "for", "from", "global", "if", "import",
    "in",
    "is", "lambda", "nonlocal", "not", "or", "pass", "raise", "return", "try", "while", "with",
    "yield"]

/-- A name as it is known to the program: in the composed compatibility form. -/
def identifier (text : String) (filled : text ≠ "") : Name :=
  if text.toList.all (·.toNat < 128) then ⟨text, filled⟩
  else ⟨compose text, compose_ne_empty filled⟩

def takeIdentifier : Reader Name := do
  match ← lexeme? with
  | some ⟨.name text, _, filled⟩ =>
      if reservedWords.contains text then refuse
      else
        skip
        return identifier text fun none => filled (congrArg Token.name none)
  | _ => refuse

def takeName : Reader String := do return (← takeIdentifier).text

/-- The productions of expressions that others call again. -/
inductive Goal
  | expression
  | disjunction
  | inversion
  | bitOr
  | factor
  | primary
  | namedExpression
  | starExpressions
  | yieldExpr

/-- The productions one call further down. -/
abbrev Below := Goal → Reader Expr

/-- Items while a reader yields some. -/
def collect {α : Type} (item? : Reader (Option α)) : Nat → List α → Reader (List α)
  | 0, done => return done.reverse
  | n + 1, done => do
      match ← item? with
      | some x => collect item? n (x :: done)
      | none => return done.reverse

def repeated {α : Type} (item? : Reader (Option α)) : Reader (List α) := do
  collect item? (← ahead) []

/-- What stands between separators, with whether a separator came last. `stops` tells whether the
list may end at a token. -/
def separated {α : Type} (item : Reader α) (stops : Token → Bool) :
    Nat → List α → Reader (List α × Bool)
  | 0, done => return (done.reverse, false)
  | n + 1, done => do
      let x ← item
      if ← takeOp? "," then
        if stops (← peek) then return ((x :: done).reverse, true)
        else separated item stops n (x :: done)
      else return ((x :: done).reverse, false)

def commaList {α : Type} (item : Reader α) (stops : Token → Bool) : Reader (List α × Bool) := do
  separated item stops (← ahead) []

def isOp (op : String) (t : Token) : Bool := t == .op op

/-- Operators of one level that associate to the left. -/
def leftChain (ops : List (String × BinaryOp)) (operand : Reader Expr) : Nat → Expr → Reader Expr
  | 0, left => return left
  | n + 1, left => do
      match ← peek with
      | .op text =>
          match ops.lookup text with
          | some op =>
              skip
              let right ← operand
              leftChain ops operand n (.binary op left right)
          | none => return left
      | _ => return left

def leftAssoc (ops : List (String × BinaryOp)) (operand : Reader Expr) : Reader Expr := do
  let first ← operand
  leftChain ops operand (← ahead) first

def comparison? : Reader (Option CompareOp) := do
  match ← peek with
  | .op "==" => skip; return some .eq
  | .op "!=" => skip; return some .notEq
  | .op "<" => skip; return some .less
  | .op "<=" => skip; return some .lessEq
  | .op ">" => skip; return some .greater
  | .op ">=" => skip; return some .greaterEq
  | .name "in" => skip; return some .isIn
  | .name "is" =>
      skip
      if ← takeWord? "not" then return some .isNot else return some .is
  | .name "not" =>
      if (← peekSecond) == .name "in" then
        skip
        skip
        return some .notIn
      else return none
  | _ => return none

mutual

def Expr.isTarget (starred : Bool) : Expr → Bool
  | .name _ => true
  | .attribute .. => true
  | .subscript .. => true
  | .tuple items => areTargets starred items
  | .list items => areTargets starred items
  | .starred value => starred && value.isPlainTarget
  | _ => false

/-- Whether an expression may be assigned to and is no starred one. -/
def Expr.isPlainTarget : Expr → Bool
  | .name _ => true
  | .attribute .. => true
  | .subscript .. => true
  | .tuple items => areTargets true items
  | .list items => areTargets true items
  | _ => false

def areTargets (starred : Bool) : List Expr → Bool
  | [] => true
  | e :: rest => e.isTarget starred && areTargets starred rest

end

/-- Whether an expression can be annotated, deleted item by item, or updated in place. -/
def Expr.isSingle : Expr → Bool
  | .name _ | .attribute .. | .subscript .. => true
  | _ => false

/-- Targets separated by commas; several, or one with a comma, form a tuple. The list ends where no
item can start. -/
def targets (below : Below) (stops : Token → Bool) : Reader Expr := do
  let item : Reader Expr := do
    if ← takeOp? "*" then return .starred (← below .primary) else below .primary
  let (items, comma) ← commaList item stops
  let e := match items with
    | [x] => if comma then Expr.tuple [x] else x
    | _ => .tuple items
  if e.isTarget true then return e else refuse

def clause? (below : Below) : Reader (Option Clause) := do
  let isAsync ← do
    if (← atWord "async") && (← peekSecond) == .name "for" then
      skip
      pure true
    else pure false
  if !(← takeWord? "for") then return none
  let target ← targets below (· == .name "in")
  takeWord "in"
  let source ← below .disjunction
  let conditions ← repeated do
    if ← takeWord? "if" then return some (← below .disjunction) else return none
  return some (.mk isAsync target source conditions)

def clauses (below : Below) : Reader (List Clause) := repeated (clause? below)

def atClause : Reader Bool := do
  return (← atWord "for") || ((← atWord "async") && (← peekSecond) == .name "for")

def displayItem (below : Below) : Reader Expr := do
  if ← takeOp? "*" then return .starred (← below .bitOr) else below .namedExpression

def isStarred : Expr → Bool
  | .starred _ => true
  | _ => false

/-- What stands in parentheses: nothing, a yield, a generator, a tuple or a group. -/
def parenthesized (below : Below) : Reader Expr := do
  takeOp "("
  if ← takeOp? ")" then return .tuple []
  if ← atWord "yield" then
    let e ← below .yieldExpr
    takeOp ")"
    return e
  let first ← displayItem below
  if ← atClause then
    if isStarred first then refuse
    let found ← clauses below
    takeOp ")"
    return .comprehension .generator first found
  if ← takeOp? "," then
    if ← takeOp? ")" then return .tuple [first]
    let (rest, _) ← commaList (displayItem below) (isOp ")")
    takeOp ")"
    return .tuple (first :: rest)
  takeOp ")"
  if isStarred first then refuse else return first

def bracketed (below : Below) : Reader Expr := do
  takeOp "["
  if ← takeOp? "]" then return .list []
  let first ← displayItem below
  if ← atClause then
    if isStarred first then refuse
    let found ← clauses below
    takeOp "]"
    return .comprehension .list first found
  if ← takeOp? "," then
    if ← takeOp? "]" then return .list [first]
    let (rest, _) ← commaList (displayItem below) (isOp "]")
    takeOp "]"
    return .list (first :: rest)
  takeOp "]"
  return .list [first]

def dictItem (below : Below) : Reader Item := do
  if ← takeOp? "**" then return .mk none (← below .bitOr)
  let key ← below .expression
  takeOp ":"
  return .mk (some key) (← below .expression)

def closeBrace : String := "\x7d"

def dictRest (below : Below) (first : Item) : Reader Expr := do
  if ← takeOp? "," then
    if ← takeOp? closeBrace then return .dict [first]
    let (rest, _) ← commaList (dictItem below) (isOp closeBrace)
    takeOp closeBrace
    return .dict (first :: rest)
  takeOp closeBrace
  return .dict [first]

def setRest (below : Below) (first : Expr) : Reader Expr := do
  if ← takeOp? "," then
    if ← takeOp? closeBrace then return .set [first]
    let (rest, _) ← commaList (displayItem below) (isOp closeBrace)
    takeOp closeBrace
    return .set (first :: rest)
  takeOp closeBrace
  return .set [first]

def braced (below : Below) : Reader Expr := do
  takeOp "\x7b"
  if ← takeOp? closeBrace then return .dict []
  if ← takeOp? "**" then
    let value ← below .bitOr
    return ← dictRest below (.mk none value)
  let bareWalrus := (← peekSecond) == .op ":="
  let first ← displayItem below
  if ← atOp ":" then
    if isStarred first || bareWalrus then refuse
    skip
    let value ← below .expression
    if ← atClause then
      let found ← clauses below
      takeOp closeBrace
      return .dictComprehension first value found
    return ← dictRest below (.mk (some first) value)
  if ← atClause then
    if isStarred first then refuse
    let found ← clauses below
    takeOp closeBrace
    return .comprehension .set first found
  setRest below first

def string? : Reader (Option (List Char)) := do
  match ← peek with
  | .string text =>
      skip
      return some text
  | _ => return none

/-- Reads an expression in parentheses from a text of its own. -/
def parseInner (below : Below) (text : List Char) : Except Cause Expr :=
  match lexemes text with
  | .error fault => .error fault.cause
  | .ok input =>
      match (below .starExpressions).run (.ofLexemes input) with
      | .ok (e, _) => .ok e
      | .error fault => .error fault.cause

def strings (below : Below) : Reader Expr := do
  let line := (← get).rest.head?.map (·.line)
  let tokens ← repeated string?
  match stringValue (parseInner below) tokens with
  | .ok e => return e
  | .error cause => throw ⟨cause, line.getD 0⟩

def atom (below : Below) : Reader Expr := do
  match ← peek with
  | .name "True" => skip; return .constant .true
  | .name "False" => skip; return .constant .false
  | .name "None" => skip; return .constant .none
  | .name _ => return .name (← takeName)
  | .string _ => strings below
  | .number text =>
      match numberValue text with
      | .ok value => skip; return .constant value
      | .error cause => refuse cause
  | .op "(" => parenthesized below
  | .op "[" => bracketed below
  | .op "\x7b" => braced below
  | .op "..." => skip; return .constant .ellipsis
  | _ => refuse

/-- The stages of an argument list: positions first, then names and starred sequences, and after the
first unpacked mapping only names and mappings. -/
inductive ArgStage
  | positions
  | names
  | mappings
  deriving BEq

/-- The arguments read so far, latest first. -/
structure Args where
  stage : ArgStage := .positions
  positional : List Expr := []
  starredLater : List Expr := []
  keywords : List Keyword := []

/-- One argument. Where `generators` allows it, the only argument may be a generator without
parentheses of its own. -/
def argument (below : Below) (generators : Bool) (args : Args) : Reader Args := do
  if ← takeOp? "**" then
    let value ← below .expression
    return { args with stage := .mappings, keywords := .mk none value :: args.keywords }
  if ← takeOp? "*" then
    if args.stage == .mappings then refuse
    let e := Expr.starred (← below .expression)
    if args.stage == .positions then return { args with positional := e :: args.positional }
    else return { args with starredLater := e :: args.starredLater }
  if (← peekSecond) == .op "=" then
    let name ← takeName
    skip
    let value ← below .expression
    let stage := if args.stage == .positions then .names else args.stage
    return { args with stage := stage, keywords := .mk (some name) value :: args.keywords }
  if args.stage != .positions then refuse
  let e ← below .namedExpression
  if generators && args.positional.isEmpty && (← atClause) then
    let found ← clauses below
    if ← atOp ")" then return { args with positional := [.comprehension .generator e found] }
    else refuse
  return { args with positional := e :: args.positional }

def argumentsFrom (below : Below) (generators : Bool) : Nat → Args → Reader Args
  | 0, args => return args
  | n + 1, args => do
      let args ← argument below generators args
      if ← takeOp? "," then
        if ← atOp ")" then return args else argumentsFrom below generators n args
      else return args

/-- The arguments of a call after its opening parenthesis, that of the end included. -/
def arguments (below : Below) (generators : Bool) : Reader (List Expr × List Keyword) := do
  if ← takeOp? ")" then return ([], [])
  let args ← argumentsFrom below generators (← ahead) {}
  takeOp ")"
  return (args.positional.reverse ++ args.starredLater.reverse, args.keywords.reverse)

def endsSlicePart (t : Token) : Bool := t == .op ":" || t == .op "," || t == .op "]"

def slicePart? (below : Below) : Reader (Option Expr) := do
  if endsSlicePart (← peek) then return none else return some (← below .expression)

/-- After the first colon of a slice. -/
def sliceTail (below : Below) (lower : Option Expr) : Reader Expr := do
  let upper ← slicePart? below
  let step ← do
    if ← takeOp? ":" then slicePart? below else pure none
  return .slice lower upper step

def sliceItem (below : Below) : Reader Expr := do
  if ← takeOp? ":" then return ← sliceTail below none
  if ← takeOp? "*" then return .starred (← below .expression)
  let bareWalrus := (← peekSecond) == .op ":="
  let first ← below .namedExpression
  if ← atOp ":" then
    if bareWalrus then refuse
    skip
    sliceTail below (some first)
  else return first

/-- The index of a subscript after its opening bracket, that of the end included. -/
def subscriptIndex (below : Below) : Reader Expr := do
  let (items, comma) ← commaList (sliceItem below) (isOp "]")
  takeOp "]"
  match items with
  | [x] => if comma || isStarred x then return .tuple [x] else return x
  | _ => return .tuple items

def trailers (below : Below) : Nat → Expr → Reader Expr
  | 0, e => return e
  | n + 1, e => do
      match ← peek with
      | .op "." =>
          skip
          trailers below n (.attribute e (← takeName))
      | .op "(" =>
          skip
          let (args, keywords) ← arguments below true
          trailers below n (.call e args keywords)
      | .op "[" =>
          skip
          trailers below n (.subscript e (← subscriptIndex below))
      | _ => return e

def primary (below : Below) : Reader Expr := do
  let first ← atom below
  trailers below (← ahead) first

def awaited (below : Below) : Reader Expr := do
  if ← takeWord? "await" then return .await (← primary below) else primary below

def power (below : Below) : Reader Expr := do
  let base ← awaited below
  if ← takeOp? "**" then return .binary .pow base (← below .factor) else return base

def factor (below : Below) : Reader Expr := do
  match ← peek with
  | .op "+" => skip; return .unary .plus (← below .factor)
  | .op "-" => skip; return .unary .minus (← below .factor)
  | .op "~" => skip; return .unary .invert (← below .factor)
  | _ => power below

def bitOr (below : Below) : Reader Expr :=
  let term := leftAssoc [("*", .mul), ("/", .div), ("//", .floorDiv), ("%", .mod), ("@", .matMul)]
    (factor below)
  let sum := leftAssoc [("+", .add), ("-", .sub)] term
  let shift := leftAssoc [("<<", .shiftLeft), (">>", .shiftRight)] sum
  let bitAnd := leftAssoc [("&", .bitAnd)] shift
  let bitXor := leftAssoc [("^", .bitXor)] bitAnd
  leftAssoc [("|", .bitOr)] bitXor

def comparison (below : Below) : Reader Expr := do
  let left ← bitOr below
  let found ← repeated do
    match ← comparison? with
    | some op => return some (op, ← bitOr below)
    | none => return none
  if found.isEmpty then return left
  else return .compare left (found.map (·.1)) (found.map (·.2))

def inversion (below : Below) : Reader Expr := do
  if ← takeWord? "not" then return .unary .not (← below .inversion) else comparison below

def conjunction (below : Below) : Reader Expr := do
  let first ← inversion below
  let more ← repeated do
    if ← takeWord? "and" then return some (← inversion below) else return none
  if more.isEmpty then return first else return .all (first :: more)

def disjunction (below : Below) : Reader Expr := do
  let first ← conjunction below
  let more ← repeated do
    if ← takeWord? "or" then return some (← conjunction below) else return none
  if more.isEmpty then return first else return .any (first :: more)

/-- How far a parameter list has been read. -/
inductive ParamStage
  | plain
  | named
  | closed
  deriving BEq

structure ParamList where
  stage : ParamStage := .plain
  positional : List Param := []
  plain : List Param := []
  rest : Option Param := none
  bareStar : Bool := false
  named : List Param := []
  namedRest : Option Param := none
  defaults : Bool := false

def paramName (hint? : Reader (Option Expr)) : Reader (String × Option Expr) := do
  let name ← takeName
  return (name, ← hint?)

/-- One entry of a parameter list. `hint?` reads an annotation where there may be one, and
`starHint?` that of a parameter that collects positions. -/
def paramEntry (below : Below) (hint? starHint? : Reader (Option Expr))
    (list : ParamList) : Reader ParamList := do
  if list.stage == .closed then refuse
  if ← takeOp? "/" then
    if list.stage != .plain || list.plain.isEmpty || !list.positional.isEmpty then refuse
    return { list with positional := list.plain, plain := [] }
  if ← takeOp? "**" then
    if list.bareStar && list.named.isEmpty then refuse
    let (name, hint) ← paramName hint?
    return { list with stage := .closed, namedRest := some (.mk name hint none) }
  if ← takeOp? "*" then
    if list.stage != .plain then refuse
    if ← atOp "," then return { list with stage := .named, bareStar := true }
    let (name, hint) ← paramName starHint?
    return { list with stage := .named, rest := some (.mk name hint none) }
  let (name, hint) ← paramName hint?
  let default ← do
    if ← takeOp? "=" then pure (some (← below .expression)) else pure none
  let param := Param.mk name hint default
  if list.stage == .named then return { list with named := list.named ++ [param] }
  if list.defaults && default.isNone then refuse
  return { list with plain := list.plain ++ [param], defaults := default.isSome }

def paramsFrom (below : Below) (hint? starHint? : Reader (Option Expr))
    (stops : Token → Bool) : Nat → ParamList → Reader ParamList
  | 0, list => return list
  | n + 1, list => do
      let list ← paramEntry below hint? starHint? list
      if ← takeOp? "," then
        if stops (← peek) then return list
        else paramsFrom below hint? starHint? stops n list
      else return list

/-- Parameters up to a closing token, which is not taken. -/
def params (below : Below) (hint? starHint? : Reader (Option Expr))
    (stops : Token → Bool) : Reader Params := do
  if stops (← peek) then return .empty
  let list ← paramsFrom below hint? starHint? stops (← ahead) {}
  if list.bareStar && list.named.isEmpty then refuse
  return .mk list.positional list.plain list.rest list.named list.namedRest

def anonymous (below : Below) : Reader Expr := do
  takeWord "lambda"
  let found ← params below (pure none) (pure none) (isOp ":")
  takeOp ":"
  return .function found (← below .expression)

def expression (below : Below) : Reader Expr := do
  if ← atWord "lambda" then return ← anonymous below
  let body ← disjunction below
  if ← takeWord? "if" then
    let test ← disjunction below
    takeWord "else"
    return .conditional test body (← below .expression)
  else return body

def namedExpression (below : Below) : Reader Expr := do
  if (← peekSecond) == .op ":=" then
    let name ← takeName
    skip
    return .named (.name name) (← below .expression)
  else expression below

def starExpression (below : Below) : Reader Expr := do
  if ← takeOp? "*" then return .starred (← bitOr below) else expression below

/-- Tokens after which no further item of a bare tuple can start. -/
def endsTuple : Token → Bool
  | .newline | .finish => true
  | .op text => ["=", ")", "]", "\x7d", ":", ";"].contains text ||
      (text.length > 1 && text.endsWith "=")
  | .name "in" => true
  | _ => false

def starExpressions (below : Below) : Reader Expr := do
  let (items, comma) ← commaList (starExpression below) endsTuple
  match items with
  | [x] => if comma then return .tuple [x] else return x
  | _ => return .tuple items

def yieldExpr (below : Below) : Reader Expr := do
  takeWord "yield"
  if ← takeWord? "from" then return .yieldFrom (← below .expression)
  if endsTuple (← peek) then return .yield none
  return .yield (some (← starExpressions below))

def produce (below : Below) : Goal → Reader Expr
  | .expression => expression below
  | .disjunction => disjunction below
  | .inversion => inversion below
  | .bitOr => bitOr below
  | .factor => factor below
  | .primary => primary below
  | .namedExpression => namedExpression below
  | .starExpressions => starExpressions below
  | .yieldExpr => yieldExpr below

/-- The productions with a bound on the depth of their calls. -/
def goal : Nat → Below
  | 0 => fun _ => refuse .tooDeep
  | n + 1 => produce (goal n)

end SourceAtlas.Source.Python
