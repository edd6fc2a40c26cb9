import SourceAtlas.Source.PythonSyntax
import SourceAtlas.Source.PythonToken
import SourceAtlas.Text.CharName

/-!
The values of number and string literals. Adjacent strings are one literal; an interpolated string
becomes a list of texts and formatted expressions, the expressions being read by a parser that the
caller hands in.
-/
namespace SourceAtlas.Source.Python

open Text

def hexValue (c : Char) : Nat :=
  if c.isDigit then c.toNat - 48
  else if 'a' ≤ c && c ≤ 'f' then c.toNat - 87
  else c.toNat - 55

def valueInBase (base : Nat) (digits : List Char) : Nat :=
  digits.foldl (fun acc c => acc * base + hexValue c) 0

def decimalParts (text : List Char) : Nat × Int :=
  let mantissa := text.takeWhile fun c => c != 'e' && c != 'E'
  let tail := text.drop (mantissa.length + 1)
  let exponent : Int := match tail with
    | '-' :: digits => -(valueInBase 10 digits : Int)
    | '+' :: digits => valueInBase 10 digits
    | digits => valueInBase 10 digits
  let whole := mantissa.takeWhile (· != '.')
  let fraction := mantissa.drop (whole.length + 1)
  (valueInBase 10 (whole ++ fraction), exponent - fraction.length)

def magnitudeOf (text : List Char) : Decimal.Magnitude :=
  let (digits, exponent) := decimalParts text
  .ofDecimal digits exponent

/-- The most digits that a whole number in decimal notation may have, zero aside. -/
def maxDigits : Nat := 4300

def numberValue (written : List Char) : Except Cause Constant :=
  let text := written.filter (· != '_')
  match text with
  | '0' :: 'x' :: digits | '0' :: 'X' :: digits => .ok (.int (valueInBase 16 digits))
  | '0' :: 'o' :: digits | '0' :: 'O' :: digits => .ok (.int (valueInBase 8 digits))
  | '0' :: 'b' :: digits | '0' :: 'B' :: digits => .ok (.int (valueInBase 2 digits))
  | _ =>
      let last := text.getLast?
      if last = some 'j' || last = some 'J' then .ok (.imaginary (magnitudeOf text.dropLast))
      else if text.all (· == '0') then .ok (.int 0)
      else if text.all Char.isDigit then
        if text.length > maxDigits then
          .error (.literal s!"Exceeds the limit ({maxDigits} digits) for integer string conversion")
        else .ok (.int (valueInBase 10 text))
      else .ok (.float (magnitudeOf text))

def plainEscape? (c : Char) : Option Nat :=
  match c with
  | '\\' => some 92
  | '\'' => some 39
  | '"' => some 34
  | 'a' => some 7
  | 'b' => some 8
  | 'f' => some 12
  | 'n' => some 10
  | 'r' => some 13
  | 't' => some 9
  | 'v' => some 11
  | _ => none

def hexDigits? (n : Nat) (text : List Char) : Option (Nat × List Char) :=
  let digits := text.take n
  if digits.length = n && digits.all isHexDigit then
    some (valueInBase 16 digits, text.drop n) else none

def octalDigits (text : List Char) : Nat × List Char :=
  let digits := (text.take 3).takeWhile isOctalDigit
  (valueInBase 8 digits, text.drop digits.length)

/-- Escapes of text literals; the number bounds the steps. -/
def unescape : Nat → List Char → Except Cause Points
  | 0, _ => .ok []
  | _ + 1, [] => .ok []
  | n + 1, '\\' :: c :: rest =>
      let emit := fun (value : Nat) (rest : List Char) => (unescape n rest).map (value :: ·)
      let coded := fun (size : Nat) =>
        match hexDigits? size rest with
        | some (value, after) =>
            if value ≥ 0x110000 then .error (.literal "(unicode error) illegal Unicode character")
            else emit value after
        | none => .error (.literal "(unicode error) truncated escape")
      match plainEscape? c with
      | some value => emit value rest
      | none =>
          if c = '\n' then unescape n rest
          else if isOctalDigit c then
            let (value, after) := octalDigits (c :: rest)
            emit value after
          else if c = 'x' then coded 2
          else if c = 'u' then coded 4
          else if c = 'U' then coded 8
          else if c = 'N' then
            match rest with
            | '{' :: more =>
                let name := more.takeWhile (· != '}')
                match more.drop name.length, CharName.find? name with
                | '}' :: after, some value => emit value after
                | _, _ => .error (.literal "(unicode error) unknown Unicode character name")
            | _ => .error (.literal "(unicode error) malformed \\N character escape")
          else (unescape n rest).map fun points => 92 :: c.toNat :: points
  | n + 1, c :: rest => (unescape n rest).map (c.toNat :: ·)

def textPoints (raw : Bool) (body : List Char) : Except Cause Points :=
  if raw then .ok (body.map Char.toNat) else unescape body.length body

def unescapeBytes : Nat → List Char → Except Cause Bytes
  | 0, _ => .ok []
  | _ + 1, [] => .ok []
  | n + 1, '\\' :: c :: rest =>
      match plainEscape? c with
      | some value => (unescapeBytes n rest).map (value.toUInt8 :: ·)
      | none =>
          if c = '\n' then unescapeBytes n rest
          else if isOctalDigit c then
            let (value, after) := octalDigits (c :: rest)
            (unescapeBytes n after).map (value.toUInt8 :: ·)
          else if c = 'x' then
            match hexDigits? 2 rest with
            | some (value, after) => (unescapeBytes n after).map (value.toUInt8 :: ·)
            | none => .error (.literal "(value error) invalid \\x escape")
          else (unescapeBytes n rest).map fun bytes => 92 :: c.toNat.toUInt8 :: bytes
  | n + 1, c :: rest => (unescapeBytes n rest).map (c.toNat.toUInt8 :: ·)

/-- A string literal taken apart. -/
structure Written where
  marked : Bool
  raw : Bool
  bytes : Bool
  interpolated : Bool
  body : List Char

def Written.ofToken (token : List Char) : Written :=
  let letters := token.takeWhile (!isQuote ·)
  let quoted := token.drop letters.length
  let size := match quoted with
    | a :: b :: c :: _ => if a = b && b = c && quoted.length ≥ 6 then 3 else 1
    | _ => 1
  let has := fun (c : Char) => letters.any fun l => l.toLower == c
  { marked := letters.head? == some 'u'
    raw := has 'r'
    bytes := has 'b'
    interpolated := has 'f'
    body := (quoted.drop size).take (quoted.length - 2 * size) }

inductive Part
  | text (points : Points)
  | value (expr : Expr)

/-- The literal characters up to the next brace (latest first), what follows, and whether a doubled
brace ended them, so that a literal follows again. `top` tells the string itself from a format
specification, in which braces are never doubled. -/
def literalRun (raw top : Bool) (done : List Char) :
    List Char → Except Cause (List Char × List Char × Bool)
  | [] => .ok (done, [], false)
  | '\\' :: 'N' :: '{' :: rest =>
      if raw then brace ('N' :: '\\' :: done) '{' rest
      else
        let name := rest.takeWhile (· != '}')
        named ('{' :: 'N' :: '\\' :: done) name.length rest
  | '\\' :: c :: rest =>
      if raw then
        if c = '{' || c = '}' then brace ('\\' :: done) c rest
        else literalRun raw top ('\\' :: done) (c :: rest)
      else if c = '{' || c = '}' then brace ('\\' :: done) c rest
      else literalRun raw top (c :: '\\' :: done) rest
  | c :: rest =>
      if c = '{' || c = '}' then brace done c rest else literalRun raw top (c :: done) rest
where
  brace (done : List Char) (c : Char) (rest : List Char) :
      Except Cause (List Char × List Char × Bool) :=
    if top && rest.head? = some c then .ok (c :: done, rest.drop 1, true)
    else if top && c = '}' then .error (.literal "f-string: single '\x7d' is not allowed")
    else .ok (done, c :: rest, false)
  named (done : List Char) : Nat → List Char → Except Cause (List Char × List Char × Bool)
    | _, [] => .ok (done, [], false)
    | 0, c :: rest => literalRun raw top (c :: done) rest
    | n + 1, c :: rest => named (c :: done) n rest

/-- The scan of an expression in braces: the quote and quote size of an open string, and the open
brackets. -/
structure BraceScan where
  quote : Option (Char × Nat) := none
  brackets : List Char := []

/-- The characters of an expression in braces (latest first), and what follows from its end on. -/
def expressionRun (scan : BraceScan) (done : List Char) :
    List Char → Except Cause (List Char × List Char)
  | [] =>
      if scan.quote.isSome then .error (.literal "f-string: unterminated string")
      else match scan.brackets with
        | c :: _ => .error (.literal s!"f-string: unmatched '{c}'")
        | [] => .error (.literal "f-string: expecting '\x7d'")
  | c :: rest =>
      if c = '\\' then .error (.literal "f-string expression part cannot include a backslash")
      else match scan.quote with
        | some (q, 3) =>
            match rest with
            | a :: b :: after =>
                if c = q && a = q && b = q then
                  expressionRun { scan with quote := none } (b :: a :: c :: done) after
                else expressionRun scan (c :: done) (a :: b :: after)
            | rest => expressionRun scan (c :: done) rest
        | some (q, _) =>
            expressionRun (if c = q then { scan with quote := none } else scan) (c :: done) rest
        | none =>
            if isQuote c then
              match rest with
              | a :: b :: after =>
                  if a = c && b = c then
                    expressionRun { scan with quote := some (c, 3) } (b :: a :: c :: done) after
                  else
                    expressionRun { scan with quote := some (c, 1) } (c :: done) (a :: b :: after)
              | rest => expressionRun { scan with quote := some (c, 1) } (c :: done) rest
            else if c = '(' || c = '[' || c = '{' then
              if scan.brackets.length ≥ 200 then
                .error (.literal "f-string: too many nested parenthesis")
              else expressionRun { scan with brackets := c :: scan.brackets } (c :: done) rest
            else if c = '#' then .error (.literal "f-string expression part cannot include '#'")
            else if scan.brackets.isEmpty &&
                (c = '!' || c = ':' || c = '}' || c = '=' || c = '<' || c = '>') then
              match rest with
              | '=' :: after =>
                  if c = '!' || c = '=' || c = '<' || c = '>' then
                    expressionRun scan ('=' :: c :: done) after
                  else .ok (done, c :: rest)
              | rest =>
                  if c = '<' || c = '>' then expressionRun scan (c :: done) rest
                  else .ok (done, c :: rest)
            else if c = ')' || c = ']' || c = '}' then
              match scan.brackets with
              | [] => .error (.literal s!"f-string: unmatched '{c}'")
              | opening :: outer =>
                  if closes opening c then
                    expressionRun { scan with brackets := outer } (c :: done) rest
                  else .error (.literal "f-string: closing parenthesis does not match")
            else expressionRun scan (c :: done) rest

def mergeTexts : List Part → List Part
  | .text a :: rest =>
      match mergeTexts rest with
      | .text b :: more => .text (a ++ b) :: more
      | more => if a.isEmpty then more else .text a :: more
  | .value e :: rest => .value e :: mergeTexts rest
  | [] => []

def partExpr : Part → Expr
  | .text points => .constant (.text points false)
  | .value e => e

def joinParts (parts : List Part) : Expr := .joined ((mergeTexts parts).map partExpr)

/-- The sign after an expression: the text with its equals sign, a conversion, a format. -/
structure Suffix where
  shown : Option (List Char) := none
  conversion : Option Char := none
  rest : List Char

def isAsciiBlank (c : Char) : Bool := c == ' ' || ('\t' ≤ c && c ≤ '\r')

def readSuffix (expression : List Char) (rest : List Char) : Except Cause Suffix :=
  let shown : Suffix := match rest with
    | '=' :: after =>
        let blanks := after.takeWhile isAsciiBlank
        { shown := some (expression ++ '=' :: blanks), rest := after.drop blanks.length }
    | rest => { rest := rest }
  match shown.rest with
  | '!' :: c :: after =>
      if c = 's' || c = 'r' || c = 'a' then
        .ok { shown with conversion := some c, rest := after }
      else .error (.literal
        "f-string: invalid conversion character: expected 's', 'r', or 'a'")
  | ['!'] => .error (.literal "f-string: expecting '\x7d'")
  | _ => .ok shown

/-- The parts of an interpolated string. `depth` is the number of levels of format specifications
that may still hold expressions, `steps` bounds the parts, and `parse` reads an expression. -/
def parts (parse : List Char → Except Cause Expr) (raw : Bool) :
    Nat → Bool → Nat → List Char → Except Cause (List Part × List Char)
  | _, _, 0, rest => .ok ([], rest)
  | depth, top, steps + 1, text => do
      let (literal, rest, again) ← literalRun raw top [] text
      let points ← textPoints raw literal.reverse
      if again then
        let (more, rest) ← parts parse raw depth top steps rest
        return (.text points :: more, rest)
      match rest with
      | '{' :: inner =>
          match depth with
          | 0 => .error (.literal "f-string: expressions nested too deeply")
          | depth + 1 =>
              let (expression, rest) ← expressionRun {} [] inner
              let expression := expression.reverse
              if expression.all fun c => c == ' ' || c == '\t' || c == '\n' || c == '\x0c' then
                .error (.literal "f-string: empty expression not allowed")
              let value ← parse ('(' :: expression ++ [')'])
              let suffix ← readSuffix expression rest
              let (spec, rest) : Option Expr × List Char ← match suffix.rest with
                | [':'] => .error (.literal "f-string: expecting '\x7d'")
                | ':' :: after => do
                    let (inside, rest) ← parts parse raw depth false steps after
                    pure (some (joinParts inside), rest)
                | rest => pure (none, rest)
              match rest with
              | '}' :: rest =>
                  let conversion :=
                    if suffix.shown.isSome && spec.isNone && suffix.conversion.isNone then some 'r'
                    else suffix.conversion
                  let shown := (suffix.shown.map fun text =>
                    [Part.text (text.map Char.toNat)]).getD []
                  let (more, rest) ← parts parse raw (depth + 1) top steps rest
                  return (.text points :: shown ++
                    .value (.formatted value conversion spec) :: more, rest)
              | _ => .error (.literal "f-string: expecting '\x7d'")
      | rest => return ([.text points], rest)

def Written.parts (parse : List Char → Except Cause Expr) (w : Written) :
    Except Cause (List Part) :=
  if w.interpolated then do
    let (found, rest) ← Python.parts parse w.raw 2 true (w.body.length + 1) w.body
    if rest.isEmpty then return found
    else .error (.literal "f-string: unexpected end of string")
  else do
    let points ← textPoints w.raw w.body
    return [.text points]

def stringValue (parse : List Char → Except Cause Expr) (tokens : List (List Char)) :
    Except Cause Expr := do
  let written := tokens.map Written.ofToken
  if written.any (·.bytes) then
    if written.any (!·.bytes) then .error (.literal "cannot mix bytes and nonbytes literals")
    else if written.any fun w => w.body.any fun c => c.toNat ≥ 128 then
      .error (.literal "bytes can only contain ASCII literal characters")
    else
      let pieces ← written.mapM fun w =>
        if w.raw then .ok (w.body.map fun c => c.toNat.toUInt8)
        else unescapeBytes w.body.length w.body
      return .constant (.bytes pieces.flatten)
  else
    let found ← written.mapM (·.parts parse)
    if written.any (·.interpolated) then return joinParts found.flatten
    else
      let points := found.flatten.flatMap fun part =>
        match part with
        | .text points => points
        | .value _ => []
      return .constant (.text points ((written.head?.map (·.marked)).getD false))

end SourceAtlas.Source.Python
