import SourceAtlas.Text.Lines

/-!
Tokens of Python sources. Indentation becomes tokens of its own, line ends inside brackets
disappear, and string and number literals are kept as written. What cannot be read as tokens is
refused with a cause and a line.
-/
namespace SourceAtlas.Source.Python

open Text

inductive Token
  | name (text : String)
  | number (text : List Char)
  | string (text : List Char)
  | op (text : String)
  | newline
  | indent
  | dedent
  | finish
  deriving BEq, Repr

/-- A token with the line on which it starts. A name is not empty. -/
structure Lexeme where
  token : Token
  line : Nat
  filled : token ≠ .name ""

/-- Why a source is no program. -/
inductive Cause
  | syntax_
  | nullByte
  | badNumber (kind : String)
  | badDigit (digit : Char) (kind : String)
  | leadingZeros
  | unterminatedString
  | unterminatedBlock
  | unterminatedBlockAt (last : Nat)
  | strayContinuation
  | endAfterContinuation
  | badCharacter (c : Char)
  | unmatched (c : Char)
  | mismatched (opening closing : Char) (openLine : Option Nat)
  | neverClosed (c : Char)
  | tooManyBrackets
  | tooManyIndents
  | tabsAndBlanks
  | dedentMismatch
  | unexpectedIndent
  | tooDeep
  | literal (reason : String)
  deriving Repr

structure Fault where
  cause : Cause
  line : Nat
  deriving Repr

def codePointText (c : Char) : String :=
  let digits := (Nat.toDigits 16 c.toNat).map Char.toUpper
  .ofList (List.replicate (4 - digits.length) '0' ++ digits)

def Cause.message (line : Nat) : Cause → String
  | .syntax_ => "invalid syntax"
  | .nullByte => "source code string cannot contain null bytes"
  | .badNumber kind => s!"invalid {kind} literal"
  | .badDigit d kind => s!"invalid digit '{d}' in {kind} literal"
  | .leadingZeros => "leading zeros in decimal integer literals are not permitted; " ++
      "use an 0o prefix for octal integers"
  | .unterminatedString => s!"unterminated string literal (detected at line {line})"
  | .unterminatedBlock => "unterminated triple-quoted string literal"
  | .unterminatedBlockAt last =>
      s!"unterminated triple-quoted string literal (detected at line {last})"
  | .strayContinuation => "unexpected character after line continuation character"
  | .endAfterContinuation => "unexpected EOF while parsing"
  | .badCharacter c =>
      let code := codePointText c
      if isPrintable c then s!"invalid character '{c}' (U+{code})"
      else s!"invalid non-printable character U+{code}"
  | .unmatched c => s!"unmatched '{c}'"
  | .mismatched o c none =>
      s!"closing parenthesis '{c}' does not match opening parenthesis '{o}'"
  | .mismatched o c (some openLine) =>
      s!"closing parenthesis '{c}' does not match opening parenthesis '{o}' on line {openLine}"
  | .neverClosed c => s!"'{c}' was never closed"
  | .tooManyBrackets => "too many nested parentheses"
  | .tooManyIndents => "too many levels of indentation"
  | .tabsAndBlanks => "inconsistent use of tabs and spaces in indentation"
  | .dedentMismatch => "unindent does not match any outer indentation level"
  | .unexpectedIndent => "unexpected indent"
  | .tooDeep => ""
  | .literal reason => reason

def Cause.isTooDeep : Cause → Bool
  | .tooDeep => true
  | _ => false

/-- The text of a refusal for the file at a path; it gives the last name of the path. -/
def Fault.message (path : String) (fault : Fault) : String :=
  match fault.cause with
  | .nullByte => fault.cause.message fault.line
  | cause =>
      let text := cause.message fault.line
      let name := afterLast '/' path
      s!"{text} ({name}, line {fault.line})"

def unixLines (done : List Char) : List Char → List Char
  | [] => done.reverse
  | '\r' :: '\n' :: rest => unixLines ('\n' :: done) rest
  | '\r' :: rest => unixLines ('\n' :: done) rest
  | c :: rest => unixLines (c :: done) rest

def withLastLine (text : List Char) : List Char :=
  let text := unixLines [] text
  if text.getLast? = some '\n' then text else text ++ ['\n']

/-- Digits of a base after the current point, single underscores between groups allowed; the digits
read (latest first) and the rest. -/
def digitGroups (isDigit : Char → Bool) (done : List Char) :
    List Char → Option (List Char × List Char)
  | '_' :: c :: rest => if isDigit c then digitGroups isDigit (c :: done) rest else none
  | '_' :: [] => none
  | c :: rest => if isDigit c then digitGroups isDigit (c :: done) rest else some (done, c :: rest)
  | [] => some (done, [])

def isNameChar (c : Char) : Bool := c.isAlphanum || c == '_' || c.toNat ≥ 128

def numberFollowers : List String := ["and", "else", "for", "if", "in", "is", "or", "not"]

def endsNumber (rest : List Char) : Bool :=
  match rest.head? with
  | none => true
  | some c =>
      !isNameChar c || numberFollowers.any fun word => (dropFront? word.toList rest).isSome

def isHexDigit (c : Char) : Bool :=
  c.isDigit || ('a' ≤ c && c ≤ 'f') || ('A' ≤ c && c ≤ 'F')

def isOctalDigit (c : Char) : Bool := '0' ≤ c && c ≤ '7'

def isBinaryDigit (c : Char) : Bool := c == '0' || c == '1'

/-- A number in a base with a letter: the letter has been read. -/
def basedNumber (kind : String) (isDigit : Char → Bool) (letter : Char) (rest : List Char) :
    Except Cause (List Char × List Char) :=
  let start := match rest with
    | '_' :: c :: _ => isDigit c
    | c :: _ => isDigit c
    | [] => false
  let digitFault := fun (rest : List Char) =>
    match rest.head? with
    | some c => if c.isDigit then Cause.badDigit c kind else Cause.badNumber kind
    | none => Cause.badNumber kind
  if !start then .error (digitFault (match rest with | '_' :: more => more | more => more))
  else match digitGroups isDigit [letter, '0'] rest with
    | none => .error (.badNumber kind)
    | some (done, rest) =>
        if (rest.head?.map Char.isDigit).getD false then .error (digitFault rest)
        else if endsNumber rest then .ok (done.reverse, rest)
        else .error (.badNumber kind)

def numberEnd (done : List Char) : List Char → Except Cause (List Char × List Char)
  | c :: rest =>
      if c = 'j' || c = 'J' then
        if endsNumber rest then .ok ((c :: done).reverse, rest) else .error (.badNumber "imaginary")
      else if endsNumber (c :: rest) then .ok (done.reverse, c :: rest)
      else .error (.badNumber "decimal")
  | [] => .ok (done.reverse, [])

def numberExponent (done : List Char) (rest : List Char) : Except Cause (List Char × List Char) :=
  match rest with
  | e :: more =>
      if e = 'e' || e = 'E' then
        match more with
        | s :: d :: after =>
            if s = '+' || s = '-' then
              if d.isDigit then
                match digitGroups Char.isDigit (d :: s :: e :: done) after with
                | some (done, rest) => numberEnd done rest
                | none => .error (.badNumber "decimal")
              else .error (.badNumber "decimal")
            else if s.isDigit then
              match digitGroups Char.isDigit (s :: e :: done) (d :: after) with
              | some (done, rest) => numberEnd done rest
              | none => .error (.badNumber "decimal")
            else if endsNumber rest then .ok (done.reverse, rest)
            else .error (.badNumber "decimal")
        | _ => if endsNumber rest then .ok (done.reverse, rest) else .error (.badNumber "decimal")
      else numberEnd done rest
  | [] => .ok (done.reverse, [])

def numberFraction (done : List Char) (rest : List Char) : Except Cause (List Char × List Char) :=
  match rest with
  | d :: more =>
      if d.isDigit then
        match digitGroups Char.isDigit (d :: done) more with
        | some (done, rest) => numberExponent done rest
        | none => .error (.badNumber "decimal")
      else numberExponent done rest
  | [] => .ok (done.reverse, [])

def numberTail (done : List Char) (rest : List Char) : Except Cause (List Char × List Char) :=
  match rest with
  | '.' :: more => numberFraction ('.' :: done) more
  | _ => numberExponent done rest

def zeroNumber (rest : List Char) : Except Cause (List Char × List Char) :=
  match digitGroups Char.isDigit ['0'] rest with
  | none => .error (.badNumber "decimal")
  | some (done, after) =>
      let marked := match after.head? with
        | some c => c == '.' || c == 'e' || c == 'E' || c == 'j' || c == 'J'
        | none => false
      if done.any (fun c => c.isDigit && c != '0') && !marked then .error .leadingZeros
      else numberTail done after

def scanNumber : List Char → Except Cause (List Char × List Char)
  | '0' :: c :: rest =>
      if c = 'x' || c = 'X' then basedNumber "hexadecimal" isHexDigit c rest
      else if c = 'o' || c = 'O' then basedNumber "octal" isOctalDigit c rest
      else if c = 'b' || c = 'B' then basedNumber "binary" isBinaryDigit c rest
      else zeroNumber (c :: rest)
  | d :: rest =>
      match digitGroups Char.isDigit [d] rest with
      | some (done, after) => numberTail done after
      | none => .error (.badNumber "decimal")
  | [] => .error .syntax_

/-- The rest of a string on one line after its opening quote, latest first, and what follows. -/
def lineString (quote : Char) (done : List Char) : List Char → Option (List Char × List Char)
  | [] => none
  | '\\' :: c :: rest => lineString quote (c :: '\\' :: done) rest
  | c :: rest =>
      if c = quote then some (c :: done, rest)
      else if c = '\n' then none
      else lineString quote (c :: done) rest

def blockString (quote : Char) (done : List Char) : List Char → Option (List Char × List Char)
  | [] => none
  | '\\' :: c :: rest => blockString quote (c :: '\\' :: done) rest
  | c :: rest =>
      match rest with
      | a :: b :: after =>
          if c = quote && a = quote && b = quote then some (b :: a :: c :: done, after)
          else blockString quote (c :: done) rest
      | _ => blockString quote (c :: done) rest

/-- A string from its opening quote on; the letters before it come latest first. -/
def scanString (letters : List Char) (quote : Char) (rest : List Char) :
    Except Cause (List Char × List Char) :=
  match rest with
  | a :: b :: after =>
      if a = quote && b = quote then
        match blockString quote (quote :: quote :: quote :: letters) after with
        | some (done, rest) => .ok (done.reverse, rest)
        | none => .error .unterminatedBlock
      else match lineString quote (quote :: letters) rest with
        | some (done, rest) => .ok (done.reverse, rest)
        | none => .error .unterminatedString
  | _ =>
      match lineString quote (quote :: letters) rest with
      | some (done, rest) => .ok (done.reverse, rest)
      | none => .error .unterminatedString

def isQuote (c : Char) : Bool := c == '\'' || c == '"'

def stringLetters : List (List Char) :=
  ["b", "u", "r", "f", "br", "rb", "fr", "rf"].map String.toList

/-- The letters (latest first), the quote and the rest of a string with letters before it. -/
def letteredString? : List Char → Option (List Char × Char × List Char)
  | a :: b :: c :: rest =>
      if isQuote b && stringLetters.contains [a.toLower] then some ([a], b, c :: rest)
      else if isQuote c && stringLetters.contains [a.toLower, b.toLower] then some ([b, a], c, rest)
      else none
  | [a, b] =>
      if isQuote b && stringLetters.contains [a.toLower] then some ([a], b, []) else none
  | _ => none

def operators : List String :=
  ["**=", "//=", ">>=", "<<=", "...", "**", "//", ">>", "<<", "<=", ">=", "==", "!=", "->", "+=",
    "-=", "*=", "/=", "%=", "&=", "|=", "^=", "@=", ":=", "(", ")", "[", "]", "\x7b", "\x7d", ":",
    ",", ";", "+", "-", "*", "/", "|", "&", "<", ">", "=", ".", "%", "~", "^", "@"]

def scanOperator (rest : List Char) : Option (String × List Char) :=
  operators.findSome? fun op => (dropFront? op.toList rest).map (op, ·)

def closes (opening closing : Char) : Bool :=
  (opening == '(' && closing == ')') || (opening == '[' && closing == ']') ||
    (opening == '{' && closing == '}')

/-- The width of an indentation, counted with tabs to multiples of eight and with tabs as one. -/
structure Indent where
  column : Nat := 0
  narrow : Nat := 0
  deriving BEq, Repr

/-- Reads the blanks at the start of a line. The first backslash that joins lines fixes the
indentation of what follows it. -/
def measure (here : Indent) (joined : Nat) (line : Nat) :
    List Char → Except Cause (Indent × List Char × Nat)
  | ' ' :: rest => measure ⟨here.column + 1, here.narrow + 1⟩ joined line rest
  | '\t' :: rest => measure ⟨(here.column / 8 + 1) * 8, here.narrow + 1⟩ joined line rest
  | '\x0c' :: rest => measure ⟨0, 0⟩ joined line rest
  | '\\' :: '\n' :: [] => .error .endAfterContinuation
  | '\\' :: '\n' :: rest =>
      measure here (if joined = 0 then here.column else joined) (line + 1) rest
  | '\\' :: _ => .error .strayContinuation
  | rest => .ok (if joined = 0 then here else ⟨joined, joined⟩, rest, line)

/-- The lexer's state: the text ahead, the line, whether a line starts here, the open brackets and
the indentations (innermost first), and the lexemes so far (latest first). -/
structure Lexer where
  rest : List Char
  line : Nat := 1
  fresh : Bool := true
  brackets : List (Char × Nat) := []
  indents : List Indent := [{}]
  done : List Lexeme := []

namespace Lexer

def push (l : Lexer) (t : Token) (filled : t ≠ .name "") : Lexer :=
  { l with done := ⟨t, l.line, filled⟩ :: l.done }

def dedentTo (column : Nat) (line : Nat) : List Indent → List Lexeme → List Indent × List Lexeme
  | top :: below :: more, done =>
      if column < top.column then dedentTo column line (below :: more) (⟨.dedent, line, nofun⟩ :: done)
      else (top :: below :: more, done)
  | indents, done => (indents, done)

def settle (l : Lexer) (here : Indent) : Except Cause Lexer :=
  let top := l.indents.headD {}
  if here.column = top.column then
    if here.narrow = top.narrow then .ok l else .error .tabsAndBlanks
  else if here.column > top.column then
    if l.indents.length ≥ 100 then .error .tooManyIndents
    else if here.narrow ≤ top.narrow then .error .tabsAndBlanks
    else .ok { l.push .indent nofun with indents := here :: l.indents }
  else
    let (indents, done) := dedentTo here.column l.line l.indents l.done
    let top := indents.headD {}
    if here.column ≠ top.column then .error .dedentMismatch
    else if here.narrow ≠ top.narrow then .error .tabsAndBlanks
    else .ok { l with indents := indents, done := done }

/-- The start of a line outside brackets: blank lines and comments are passed over. -/
def startLine (l : Lexer) : Except Fault Lexer :=
  match measure {} 0 l.line l.rest with
  | .error cause => .error ⟨cause, l.line⟩
  | .ok (here, rest, line) =>
      match rest with
      | '\n' :: after => .ok { l with rest := after, line := line + 1 }
      | '#' :: after =>
          .ok { l with rest := (after.dropWhile (· ≠ '\n')).drop 1, line := line + 1 }
      | _ =>
          let l := { l with rest := rest, line := line, fresh := false }
          match l.settle here with
          | .ok l => .ok l
          | .error cause => .error ⟨cause, line⟩

def countLines (text : List Char) : Nat := (text.filter (· == '\n')).length

def bracket (l : Lexer) (op : String) : Except Cause Lexer :=
  match op.toList with
  | [c] =>
      if c = '(' || c = '[' || c = '{' then
        if l.brackets.length ≥ 200 then .error .tooManyBrackets
        else .ok { l with brackets := (c, l.line) :: l.brackets }
      else if c = ')' || c = ']' || c = '}' then
        match l.brackets with
        | [] => .error (.unmatched c)
        | (opening, line) :: outer =>
            if closes opening c then .ok { l with brackets := outer }
            else .error (.mismatched opening c (if line = l.line then none else some line))
      else .ok l
  | _ => .ok l

def nameToken (l : Lexer) : Except Cause Lexer :=
  match l.rest.takeWhile isNameChar with
  | [] => .error .syntax_
  | c :: more =>
      match if isNameStart c then more.find? (!isNamePart ·) else some c with
      | some c => .error (.badCharacter c)
      | none =>
          let named : Token.name (.ofList (c :: more)) ≠ .name "" := by simp
          .ok { l.push (.name (.ofList (c :: more))) named with
            rest := l.rest.drop (more.length + 1) }

def stringToken (l : Lexer) (letters : List Char) (quote : Char) (rest : List Char) :
    Except Cause Lexer :=
  match scanString letters quote rest with
  | .error .unterminatedBlock => .error (.unterminatedBlockAt (l.line + countLines l.rest - 1))
  | .error cause => .error cause
  | .ok (text, rest) =>
      .ok { l.push (.string text) nofun with rest := rest, line := l.line + countLines text }

def numberToken (l : Lexer) (scanned : Except Cause (List Char × List Char)) : Except Cause Lexer :=
  match scanned with
  | .error cause => .error cause
  | .ok (text, rest) => .ok { l.push (.number text) nofun with rest := rest }

def operatorToken (l : Lexer) (c : Char) : Except Cause Lexer :=
  match scanOperator l.rest with
  | none => .error (if isPrintable c then .syntax_ else .badCharacter c)
  | some (op, rest) => ({ l.push (.op op) nofun with rest := rest }).bracket op

/-- The token, line end, comment or joined line after the blanks at the front. -/
def nextToken (l : Lexer) : Except Cause Lexer :=
  match l.rest with
  | [] => .error .syntax_
  | c :: rest =>
      if c = '#' then .ok { l with rest := rest.dropWhile (· ≠ '\n') }
      else if c = '\n' then
        if l.brackets.isEmpty then
          let l := l.push .newline nofun
          .ok { l with rest := rest, line := l.line + 1, fresh := true }
        else .ok { l with rest := rest, line := l.line + 1 }
      else if c = '\\' then
        match rest with
        | ['\n'] => .error .endAfterContinuation
        | '\n' :: more => .ok { l with rest := more, line := l.line + 1 }
        | _ => .error .strayContinuation
      else if isQuote c then l.stringToken [] c rest
      else if isNameChar c && !c.isDigit then
        match letteredString? l.rest with
        | some (letters, quote, rest) => l.stringToken letters quote rest
        | none => l.nameToken
      else if c.isDigit then l.numberToken (scanNumber l.rest)
      else if c = '.' && (rest.head?.map Char.isDigit).getD false then
        l.numberToken (numberFraction ['.'] rest)
      else l.operatorToken c

/-- Reads on until the text ends; the number bounds the steps. -/
def run : Nat → Lexer → Except Fault (List Lexeme)
  | 0, l => .error ⟨.syntax_, l.line⟩
  | n + 1, l =>
      if l.fresh && l.brackets.isEmpty then
        match l.startLine with
        | .ok l => run n l
        | .error fault => .error fault
      else
        let l := { l with rest := l.rest.dropWhile fun c => c == ' ' || c == '\t' || c == '\x0c' }
        if l.rest.isEmpty then
          match l.brackets with
          | [] => .ok (l.push .finish nofun).done.reverse
          | (c, line) :: _ => .error ⟨.neverClosed c, line⟩
        else match l.nextToken with
          | .ok l => run n l
          | .error cause => .error ⟨cause, l.line⟩

end Lexer

/-- The lexemes of a source text. Every step but one for each line and one at the end takes a
character, which bounds their number. -/
def lexemes (source : List Char) : Except Fault (List Lexeme) :=
  if source.contains (Char.ofNat 0) then .error ⟨.nullByte, 1⟩
  else
    let text := withLastLine source
    Lexer.run (2 * text.length + 2) { rest := text }

end SourceAtlas.Source.Python
