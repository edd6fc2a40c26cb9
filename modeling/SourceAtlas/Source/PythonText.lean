import SourceAtlas.Decimal.Shortest
import SourceAtlas.Source.PythonSyntax
import SourceAtlas.Text.Quoted

/-!
Writing expressions and parameter lists: the shortest use of parentheses that the levels of the
operators allow, and string literals with as few escapes as can be had.
-/
namespace SourceAtlas.Source.Python

open Text

/-- Why an expression has no text. -/
inductive Unwritable
  | backslash
  | longNumber
  | tooDeep
  deriving BEq, DecidableEq, Repr

def Unwritable.message : Unwritable → String
  | .backslash => "Unable to avoid backslash in f-string expression part"
  | .longNumber => "Exceeds the limit (4300 digits) for integer string conversion; " ++
      "use sys.set_int_max_str_digits() to increase the limit"
  | .tooDeep => "maximum recursion depth exceeded"

namespace Level

def named : Nat := 1
def tuple : Nat := 2
def yield : Nat := 3
def test : Nat := 4
def or : Nat := 5
def and : Nat := 6
def not : Nat := 7
def compare : Nat := 8
def bitOr : Nat := 9
def bitXor : Nat := 10
def bitAnd : Nat := 11
def shift : Nat := 12
def sum : Nat := 13
def term : Nat := 14
def factor : Nat := 15
def power : Nat := 16
def await : Nat := 17
def atom : Nat := 18

def next (level : Nat) : Nat := min (level + 1) atom

end Level

def BinaryOp.level : BinaryOp → Nat
  | .add | .sub => Level.sum
  | .mul | .matMul | .div | .mod | .floorDiv => Level.term
  | .pow => Level.power
  | .shiftLeft | .shiftRight => Level.shift
  | .bitOr => Level.bitOr
  | .bitXor => Level.bitXor
  | .bitAnd => Level.bitAnd

def BinaryOp.text : BinaryOp → String
  | .add => "+"
  | .sub => "-"
  | .mul => "*"
  | .matMul => "@"
  | .div => "/"
  | .mod => "%"
  | .floorDiv => "//"
  | .pow => "**"
  | .shiftLeft => "<<"
  | .shiftRight => ">>"
  | .bitOr => "|"
  | .bitXor => "^"
  | .bitAnd => "&"

def UnaryOp.level : UnaryOp → Nat
  | .not => Level.not
  | _ => Level.factor

def UnaryOp.text : UnaryOp → String
  | .invert => "~"
  | .not => "not "
  | .plus => "+"
  | .minus => "-"

def CompareOp.text : CompareOp → String
  | .eq => "=="
  | .notEq => "!="
  | .less => "<"
  | .lessEq => "<="
  | .greater => ">"
  | .greaterEq => ">="
  | .is => "is"
  | .isNot => "is not"
  | .isIn => "in"
  | .notIn => "not in"

def enclose (opening closing : String) (body : Points) : Points :=
  points opening ++ body ++ points closing

/-- Parentheses where the place binds tighter than the operator. -/
def guardAt (level own : Nat) (body : Points) : Points :=
  if level > own then enclose "(" ")" body else body

def joinPoints (separator : String) : List Points → Points
  | [] => []
  | [x] => x
  | x :: rest => x ++ points separator ++ joinPoints separator rest

/-- Items of a bare tuple; a single one keeps its comma. -/
def tupleItems : List Points → Points
  | [x] => x ++ points ","
  | items => joinPoints ", " items

def quotedBytes (data : Bytes) : Points :=
  let text := data.map UInt8.toNat
  let quote := plainQuote text
  let body := text.flatMap fun n =>
    if n = quote then [92, n]
    else if n = 92 || n < 32 || n ≥ 127 then escapePoint n
    else [n]
  98 :: quote :: body ++ [quote]

/-- The four kinds of quotes, in order of preference. -/
def quoteKinds : List Points :=
  [points "'", points "\"", points "\"\"\"", points "'''"]

def occursIn (piece : Points) : Points → Bool
  | [] => piece.isEmpty
  | n :: rest => piece.isPrefixOf (n :: rest) || occursIn piece rest

/-- The body of a literal with few escapes, and the quotes that fit around it. Line feeds and tabs
are escaped only on demand; a line feed then asks for a long quote. Where no quote fits, the body is
escaped in full. -/
def leastEscaped (kinds : List Points) (escapeBlanks : Bool) (text : Points) :
    Points × List Points :=
  let body := text.flatMap fun n =>
    if !escapeBlanks && (n = 10 || n = 9) then [n]
    else if n = 92 || !isPrintablePoint n then escapePoint n
    else [n]
  let fitting := kinds.filter fun q =>
    (!body.contains 10 || q.length = 3) && !occursIn q body
  match fitting, body.getLast? with
  | [], _ =>
      let quote := plainQuote text
      (escapedBody quote text, [(kinds.find? (·.contains quote)).getD [quote]])
  | _, none => (body, fitting)
  | _, some last =>
      let clashes := fun (q : Points) => q.head? == some last
      let sorted := fitting.filter (!clashes ·) ++ fitting.filter clashes
      if (sorted.head?.map clashes).getD false then (body.dropLast ++ [92, last], sorted)
      else (body, sorted)

/-- A literal with as few backslashes as can be had. -/
def sparselyQuoted (text : Points) : Points :=
  let (body, kinds) := leastEscaped quoteKinds false text
  let quote := (kinds.head?).getD []
  quote ++ body ++ quote

/-- The body of an interpolated string from its parts, each with a mark on literal ones, and the
quotes that are left after all of them. Each part narrows the choice down for those after it. -/
def interpolatedBody : List Points → List (Points × Bool) → Points × List Points
  | kinds, [] => ([], kinds)
  | kinds, (part, literal) :: rest =>
      let (body, left) := leastEscaped kinds literal part
      let (more, kinds) := interpolatedBody left rest
      (body ++ more, kinds)

/-- An interpolated string from its parts. -/
def interpolated (parts : List (Points × Bool)) : Points :=
  let (body, kinds) := interpolatedBody quoteKinds parts
  let quote := (kinds.head?).getD []
  quote ++ body ++ quote

/-- Literal text of an interpolated string, with its braces doubled. -/
def doubledBraces (text : Points) : Points :=
  text.flatMap fun n => if n = 123 || n = 125 then [n, n] else [n]

/-- Numbers have an exponent from ten to the sixteenth on and below a ten-thousandth; whole ones
keep a zero after the point, and what exceeds all finite numbers is written as a literal that does
too. -/
def floatFormat : Decimal.Format := ⟨-4, 15, ".0", "e", 2, "1e309", ""⟩

/-- Imaginary numbers drop the zero after the point. -/
def imaginaryFormat : Decimal.Format := { floatFormat with wholeMark := "" }

def Constant.write (sparse : Bool) : Constant → Except Unwritable Points
  | .none => .ok (points "None")
  | .true => .ok (points "True")
  | .false => .ok (points "False")
  | .ellipsis => .ok (points "...")
  | .int value =>
      if value ≥ Nat.pow 10 4300 then .error .longNumber
      else .ok ((Nat.toDigits 10 value).map Char.toNat)
  | .float value => .ok ((floatFormat.magnitude value).map Char.toNat)
  | .imaginary value => .ok ((imaginaryFormat.magnitude value).map Char.toNat ++ points "j")
  | .text value marked =>
      .ok ((if marked then points "u" else []) ++
        if sparse then sparselyQuoted value else quoted value)
  | .bytes data => .ok (quotedBytes data)

def Constant.isWhole : Constant → Bool
  | .int _ | .true | .false => Bool.true
  | _ => Bool.false

def Expr.isWhole : Expr → Bool
  | .constant value => value.isWhole
  | _ => false

/-- Comparisons after their first operand. -/
def comparisonTail : List CompareOp → List Points → Points
  | op :: ops, e :: es => points (" " ++ op.text ++ " ") ++ e ++ comparisonTail ops es
  | _, _ => []

/-- The level at which an index is written: a tuple goes without parentheses. -/
def indexLevel : Expr → Nat
  | .tuple _ => Level.tuple
  | _ => Level.test

/-- An expression in the braces of an interpolated string; it must go without backslashes. -/
def replacementField (value : Points) (conversion : Option Char) (spec : Points) :
    Except Unwritable Points :=
  if value.contains 92 then .error .backslash
  else
    let gap := if value.head? == some 123 then " " else ""
    let mark := match conversion with
      | some c => [33, c.toNat]
      | none => []
    .ok (enclose "\x7b" "\x7d" (points gap ++ value ++ mark ++ spec))

mutual

/-- The text of an expression at a place of the given level; `sparse` asks for few backslashes. -/
def Expr.write (sparse : Bool) (level : Nat) : Expr → Except Unwritable Points
  | .name id => .ok (points id)
  | .constant value => value.write sparse
  | .joined parts => do
      let parts ← writeParts parts
      return points "f" ++
        if sparse then sparselyQuoted (parts.flatMap (·.1)) else interpolated parts
  | .formatted value conversion spec => do
      let value ← value.write true (Level.next Level.test)
      let spec ← writeSpec spec
      replacementField value conversion spec
  | .unary op operand => do
      let operand ← operand.write sparse op.level
      return guardAt level op.level (points op.text ++ operand)
  | .binary op left right => do
      let tight := Level.next op.level
      let left ← left.write sparse (if op == .pow then tight else op.level)
      let right ← right.write sparse (if op == .pow then op.level else tight)
      return guardAt level op.level (left ++ points (" " ++ op.text ++ " ") ++ right)
  | .all operands => do
      let operands ← writeRising sparse Level.and operands
      return guardAt level Level.and (joinPoints " and " operands)
  | .any operands => do
      let operands ← writeRising sparse Level.or operands
      return guardAt level Level.or (joinPoints " or " operands)
  | .compare left ops others => do
      let left ← left.write sparse (Level.next Level.compare)
      let others ← writeAll sparse (Level.next Level.compare) others
      return guardAt level Level.compare (left ++ comparisonTail ops others)
  | .call function args keywords => do
      let function ← function.write sparse Level.atom
      let args ← writeAll sparse Level.test args
      let keywords ← writeKeywords sparse keywords
      return function ++ enclose "(" ")" (joinPoints ", " (args ++ keywords))
  | .attribute value name => do
      let gap := if value.isWhole then " ." else "."
      let value ← value.write sparse Level.atom
      return value ++ points (gap ++ name)
  | .subscript value index => do
      let value ← value.write sparse Level.atom
      let index ← index.write sparse (indexLevel index)
      return value ++ enclose "[" "]" index
  | .slice lower upper step => do
      let lower ← writeOption sparse "" lower
      let upper ← writeOption sparse "" upper
      let step ← writeOption sparse ":" step
      return lower ++ points ":" ++ upper ++ step
  | .starred value => do
      let value ← value.write sparse Level.bitOr
      return points "*" ++ value
  | .tuple items => do
      let written ← writeAll sparse Level.test items
      let body := tupleItems written
      return if items.isEmpty then points "()" else guardAt level Level.tuple body
  | .list items => do
      let items ← writeAll sparse Level.test items
      return enclose "[" "]" (joinPoints ", " items)
  | .set items => do
      let items ← writeAll sparse Level.test items
      return enclose "\x7b" "\x7d" (joinPoints ", " items)
  | .dict items => do
      let items ← writeItems sparse items
      return enclose "\x7b" "\x7d" (joinPoints ", " items)
  | .comprehension display element clauses => do
      let element ← element.write sparse Level.test
      let clauses ← writeClauses sparse clauses
      let body := element ++ clauses
      return match display with
        | .list => enclose "[" "]" body
        | .set => enclose "\x7b" "\x7d" body
        | .generator => enclose "(" ")" body
  | .dictComprehension key value clauses => do
      let key ← key.write sparse Level.test
      let value ← value.write sparse Level.test
      let clauses ← writeClauses sparse clauses
      return enclose "\x7b" "\x7d" (key ++ points ": " ++ value ++ clauses)
  | .function params body => do
      let params ← params.write sparse
      let body ← body.write sparse Level.test
      let head := if params.isEmpty then points "lambda" else points "lambda " ++ params
      return guardAt level Level.test (head ++ points ": " ++ body)
  | .conditional test body orelse => do
      let body ← body.write sparse (Level.next Level.test)
      let test ← test.write sparse (Level.next Level.test)
      let orelse ← orelse.write sparse Level.test
      return guardAt level Level.test (body ++ points " if " ++ test ++ points " else " ++ orelse)
  | .await value => do
      let value ← value.write sparse Level.atom
      return guardAt level Level.await (points "await " ++ value)
  | .yield none => .ok (guardAt level Level.yield (points "yield"))
  | .yield (some value) => do
      let value ← value.write sparse Level.atom
      return guardAt level Level.yield (points "yield " ++ value)
  | .yieldFrom value => do
      let value ← value.write sparse Level.atom
      return guardAt level Level.yield (points "yield from " ++ value)
  | .named target value => do
      let target ← target.write sparse Level.atom
      let value ← value.write sparse Level.atom
      return guardAt level Level.named (target ++ points " := " ++ value)

/-- Expressions at places of one level. -/
def writeAll (sparse : Bool) (level : Nat) : List Expr → Except Unwritable (List Points)
  | [] => .ok []
  | e :: rest => do
      let e ← e.write sparse level
      let rest ← writeAll sparse level rest
      return e :: rest

/-- Operands that bind tighter from one to the next. -/
def writeRising (sparse : Bool) (level : Nat) : List Expr → Except Unwritable (List Points)
  | [] => .ok []
  | e :: rest => do
      let e ← e.write sparse (Level.next level)
      let rest ← writeRising sparse (Level.next level) rest
      return e :: rest

/-- An optional expression after a text that goes with it. -/
def writeOption (sparse : Bool) (before : String) : Option Expr → Except Unwritable Points
  | none => .ok []
  | some e => do
      let e ← e.write sparse Level.test
      return points before ++ e

def writeKeywords (sparse : Bool) : List Keyword → Except Unwritable (List Points)
  | [] => .ok []
  | .mk name value :: rest => do
      let value ← value.write sparse Level.test
      let rest ← writeKeywords sparse rest
      return (points (match name with
        | some name => name ++ "="
        | none => "**") ++ value) :: rest

def writeItems (sparse : Bool) : List Item → Except Unwritable (List Points)
  | [] => .ok []
  | .mk none value :: rest => do
      let value ← value.write sparse Level.bitOr
      let rest ← writeItems sparse rest
      return (points "**" ++ value) :: rest
  | .mk (some key) value :: rest => do
      let key ← key.write sparse Level.test
      let value ← value.write sparse Level.test
      let rest ← writeItems sparse rest
      return (key ++ points ": " ++ value) :: rest

def writeClauses (sparse : Bool) : List Clause → Except Unwritable Points
  | [] => .ok []
  | .mk isAsync target source conditions :: rest => do
      let target ← target.write sparse Level.tuple
      let source ← source.write sparse (Level.next Level.test)
      let conditions ← writeAll sparse (Level.next Level.test) conditions
      let rest ← writeClauses sparse rest
      return points (if isAsync then " async for " else " for ") ++ target ++
        points " in " ++ source ++
        conditions.flatMap (points " if " ++ ·) ++ rest

def Param.write (sparse : Bool) : Param → Except Unwritable Points
  | .mk name hint default => do
      let hint ← writeOption sparse ": " hint
      let default ← writeOption sparse "=" default
      return points name ++ hint ++ default

def writeParamList (sparse : Bool) : List Param → Except Unwritable (List Points)
  | [] => .ok []
  | p :: rest => do
      let p ← p.write sparse
      let rest ← writeParamList sparse rest
      return p :: rest

def writeCollecting (sparse : Bool) (stars : String) :
    Option Param → Except Unwritable (List Points)
  | none => .ok []
  | some p => do
      let p ← p.write sparse
      return [points stars ++ p]

def Params.write (sparse : Bool) : Params → Except Unwritable Points
  | .mk positional plain rest named namedRest => do
      let positional ← writeParamList sparse positional
      let plain ← writeParamList sparse plain
      let rest ← writeCollecting sparse "*" rest
      let named ← writeParamList sparse named
      let namedRest ← writeCollecting sparse "**" namedRest
      let mark := if positional.isEmpty then [] else [points "/"]
      let star := if rest.isEmpty && !named.isEmpty then [points "*"] else rest
      return joinPoints ", " (positional ++ mark ++ plain ++ star ++ named ++ namedRest)

def writePart : Expr → Except Unwritable Points
  | .joined parts => do
      let parts ← writeParts parts
      return parts.flatMap (·.1)
  | .constant (.text text _) => .ok (doubledBraces text)
  | .formatted value conversion spec => do
      let value ← value.write true (Level.next Level.test)
      let spec ← writeSpec spec
      replacementField value conversion spec
  | _ => .ok []

def writeSpec : Option Expr → Except Unwritable Points
  | none => .ok []
  | some spec => do
      let spec ← writePart spec
      return points ":" ++ spec

/-- Parts of an interpolated string, each with a mark on literal ones. -/
def writeParts : List Expr → Except Unwritable (List (Points × Bool))
  | [] => .ok []
  | part :: rest => do
      let text ← writePart part
      let rest ← writeParts rest
      return (text, part.isConstant) :: rest

end

end SourceAtlas.Source.Python
