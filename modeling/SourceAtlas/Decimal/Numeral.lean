import SourceAtlas.Decimal.Binary64
import SourceAtlas.Text.Lines
import SourceAtlas.Text.Quoted

/-!
Numbers written as texts. Blanks around a numeral do not count, digits of any script are taken, and
single underscores may stand between digits. An integer that is not written in a power of two has a
greatest number of digits, in reading as in writing.
-/
namespace SourceAtlas.Decimal

open Text

/-- Why a text is no number, or a number has no text. -/
inductive NumeralFault
  | notAnInteger (base : Nat) (text : String)
  | tooManyDigits (count : Nat)
  | tooLong
  | notADouble (text : String)
  deriving BEq, DecidableEq, Repr

/-- The most digits of an integer. -/
def digitLimit : Nat := 4300

def NumeralFault.message : NumeralFault → String
  | .notAnInteger base text =>
      "invalid literal for int() with base " ++ toString base ++ ": " ++ quotedText text
  | .tooManyDigits count =>
      "Exceeds the limit (4300 digits) for integer string conversion: value has " ++
        toString count ++ " digits; use sys.set_int_max_str_digits() to increase the limit"
  | .tooLong =>
      "Exceeds the limit (4300 digits) for integer string conversion; " ++
        "use sys.set_int_max_str_digits() to increase the limit"
  | .notADouble text => "could not convert string to float: " ++ quotedText text

/-- The blanks that may stand around a numeral: the information separators are none. -/
def isNumeralBlank (c : Char) : Bool :=
  (9 ≤ c.toNat && c.toNat ≤ 13) || c == ' ' || (128 ≤ c.toNat && isBlank c)

def digitIn? (base : Nat) (c : Char) : Option Nat :=
  let value := match digitValue? c with
    | some n => some n
    | none =>
        if 'a' ≤ c && c ≤ 'z' then some (c.toNat - 87)
        else if 'A' ≤ c && c ≤ 'Z' then some (c.toNat - 55)
        else none
  value.filter (· < base)

/-- The digits at the front with single underscores between them, as their values, latest first, and
the rest. `none` where an underscore does not stand between two digits. -/
def digitsFrom (base : Nat) (seen : List Nat) (afterDigit : Bool) :
    List Char → Option (List Nat × List Char)
  | [] => if afterDigit || seen.isEmpty then some (seen, []) else none
  | c :: rest =>
      match digitIn? base c with
      | some d => digitsFrom base (d :: seen) true rest
      | none =>
          if c == '_' then if afterDigit then digitsFrom base seen false rest else none
          else if afterDigit || seen.isEmpty then some (seen, c :: rest) else none

/-- The number with the given digits, latest first. -/
def ofDigits (base : Nat) (digits : List Nat) : Nat :=
  digits.foldr (fun d n => n * base + d) 0

def signFrom : List Char → Bool × List Char
  | '-' :: rest => (true, rest)
  | '+' :: rest => (false, rest)
  | text => (false, text)

def baseMark? : Nat → Option Char
  | 2 => some 'b'
  | 8 => some 'o'
  | 16 => some 'x'
  | _ => none

def dropBaseMark (base : Nat) : List Char → List Char
  | '0' :: m :: rest =>
      if baseMark? base == some m.toLower then
        match rest with
        | '_' :: more => more
        | _ => rest
      else '0' :: m :: rest
  | text => text

def readInteger (base : Nat) (text : String) : Except NumeralFault Int :=
  let (negative, body) := signFrom (trimChars isNumeralBlank text.toList)
  match digitsFrom base [] false (dropBaseMark base body) with
  | none => .error (.notAnInteger base text)
  | some (digits, rest) =>
      if (baseMark? base).isNone && digits.length > digitLimit then
        .error (.tooManyDigits digits.length)
      else if digits.isEmpty || !rest.isEmpty then .error (.notAnInteger base text)
      else
        let n := ofDigits base digits
        .ok (if negative then -(n : Int) else n)

def writeInteger (n : Int) : Except NumeralFault String :=
  if n.natAbs < Nat.pow 10 digitLimit then .ok (toString n) else .error .tooLong

def exponentFrom? : List Char → Option (Int × List Char)
  | mark :: rest =>
      if mark == 'e' || mark == 'E' then
        let (negative, body) := signFrom rest
        match digitsFrom 10 [] false body with
        | some (d :: digits, rest) =>
            let n := ofDigits 10 (d :: digits)
            some (if negative then -(n : Int) else n, rest)
        | _ => none
      else some (0, mark :: rest)
  | [] => some (0, [])

/-- The magnitude that unsigned digits spell, with a fraction and an exponent if they have them. -/
def magnitudeOf? (text : List Char) : Option Magnitude :=
  match digitsFrom 10 [] false text with
  | none => none
  | some (whole, rest) =>
      let fraction := match rest with
        | '.' :: more => digitsFrom 10 [] false more
        | _ => some ([], rest)
      match fraction with
      | none => none
      | some (parts, rest) =>
          if whole.isEmpty && parts.isEmpty then none
          else match exponentFrom? rest with
            | some (exponent, []) =>
                some (.ofDecimal (ofDigits 10 (parts ++ whole)) (exponent - parts.length))
            | _ => none

def readDouble (text : String) : Except NumeralFault Binary64 :=
  let (negative, body) := signFrom (trimChars isNumeralBlank text.toList)
  let named := String.ofList (body.map Char.toLower)
  if named == "nan" then .ok .notANumber
  else if named == "inf" || named == "infinity" then .ok (.number negative .infinite)
  else match magnitudeOf? body with
    | some size => .ok (.number negative size)
    | none => .error (.notADouble text)

end SourceAtlas.Decimal
