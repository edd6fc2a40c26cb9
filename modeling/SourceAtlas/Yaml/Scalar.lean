import SourceAtlas.Decimal.Shortest
import SourceAtlas.Text.Base64
import SourceAtlas.Text.Case
import SourceAtlas.Yaml.Token

/-!
The scalars of YAML: which kind of value a plain text spells, and which value it is. Truth values
have eighteen spellings; integers are binary, octal, decimal, hexadecimal or in base sixty; a double
needs a point; dates and moments are spelled with dashes and colons.
-/
namespace SourceAtlas.Yaml

open Text Decimal

/-- What a node is, by its tag. -/
inductive Kind
  | null
  | bool
  | int
  | float
  | binary
  | timestamp
  | orderedMapping
  | pairs
  | set
  | text
  | sequence
  | mapping
  | merge
  | defaultValue
  | unknown
  deriving BEq, DecidableEq, Repr

def standardTag : String := "tag:yaml.org,2002:"

def Kind.ofTag (tag : String) : Kind :=
  ([("null", Kind.null), ("bool", .bool), ("int", .int), ("float", .float), ("binary", .binary),
    ("timestamp", .timestamp), ("omap", .orderedMapping), ("pairs", .pairs), ("set", .set),
    ("str", .text), ("seq", .sequence), ("map", .mapping), ("merge", .merge),
    ("value", .defaultValue)].find? fun (name, _) => standardTag ++ name == tag).elim
    .unknown Prod.snd

/-- A moment of the calendar; the offset is in minutes. -/
structure Timestamp where
  year : Nat
  month : Nat
  day : Nat
  hour : Nat
  minute : Nat
  second : Nat
  micro : Nat
  offset : Option Int
  deriving BEq, DecidableEq, Repr

def isDigitOrLow (c : Char) : Bool := c.isDigit || c == '_'

def unsigned (text : List Char) : List Char := (signFrom text).2

/-- Digits and underscores, a digit first. -/
def isNumeral : List Char → Bool
  | c :: rest => c.isDigit && rest.all isDigitOrLow
  | [] => false

def isSixtieth : List Char → Bool
  | [a] => a.isDigit
  | [a, b] => '0' ≤ a && a ≤ '5' && b.isDigit
  | _ => false

def isInteger (text : List Char) : Bool :=
  match unsigned text with
  | ['0'] => true
  | '0' :: 'b' :: rest => !rest.isEmpty && rest.all fun c => c == '0' || c == '1' || c == '_'
  | '0' :: 'x' :: rest => !rest.isEmpty && rest.all fun c => Scan.isHex c || c == '_'
  | '0' :: rest => rest.all fun c => ('0' ≤ c && c ≤ '7') || c == '_'
  | body =>
      match splitChars ':' body with
      | first :: rest => isNumeral first && rest.all isSixtieth
      | [] => false

def isExponent : List Char → Bool
  | [] => true
  | mark :: sign :: digits =>
      (mark == 'e' || mark == 'E') && (sign == '-' || sign == '+') && !digits.isEmpty &&
        digits.all Char.isDigit
  | _ => false

def isFraction (text : List Char) : Bool := isExponent (text.dropWhile isDigitOrLow)

def isDouble (text : List Char) : Bool :=
  let named := String.ofList text
  let body := unsigned text
  let infinities := [".inf", ".Inf", ".INF"].contains (String.ofList body)
  let whole := body.takeWhile fun c => isDigitOrLow c || c == ':'
  let after := body.dropWhile fun c => isDigitOrLow c || c == ':'
  let pointed := match after with
    | '.' :: fraction =>
        match splitChars ':' whole with
        | [digits] => isNumeral digits && isFraction fraction
        | digits :: rest => isNumeral digits && rest.all isSixtieth && fraction.all isDigitOrLow
        | [] => false
    | _ => false
  let bare := match text with
    | '.' :: c :: rest => c.isDigit && isFraction rest
    | _ => false
  [".nan", ".NaN", ".NAN"].contains named || infinities || pointed || bare

def upToTwo? : List Char → Option (Nat × List Char)
  | a :: b :: rest =>
      if a.isDigit then
        if b.isDigit then some ((a.toNat - 48) * 10 + (b.toNat - 48), rest)
        else some (a.toNat - 48, b :: rest)
      else none
  | [a] => if a.isDigit then some (a.toNat - 48, []) else none
  | [] => none

def exactlyTwo? : List Char → Option (Nat × List Char)
  | a :: b :: rest =>
      if a.isDigit && b.isDigit then some ((a.toNat - 48) * 10 + (b.toNat - 48), rest) else none
  | _ => none

def mark? (c : Char) : List Char → Option (List Char)
  | x :: rest => if x == c then some rest else none
  | [] => none

/-- An offset from universal time at the end of a text: none, `Z`, or signed hours and minutes. -/
def offsetOf? : List Char → Option (Option Int)
  | [] => some none
  | ['Z'] => some (some 0)
  | sign :: rest =>
      if sign == '+' || sign == '-' then do
        let (hours, rest) ← upToTwo? rest
        let minutes ← (match rest with
          | [] => some 0
          | ':' :: rest => do
              let (minutes, rest) ← exactlyTwo? rest
              if rest.isEmpty then some minutes else none
          | _ => none)
        let total : Int := hours * 60 + minutes
        some (some (if sign == '-' then -total else total))
      else none

/-- The time after a date, with the fraction of a second in millionths. -/
def clockOf? (text : List Char) : Option (Nat × Nat × Nat × Nat × Option Int) := do
  let (hour, rest) ← upToTwo? text
  let (minute, rest) ← exactlyTwo? (← mark? ':' rest)
  let (second, rest) ← exactlyTwo? (← mark? ':' rest)
  let (fraction, rest) := match rest with
    | '.' :: more => (more.takeWhile Char.isDigit, more.dropWhile Char.isDigit)
    | _ => ([], rest)
  let places := (fraction ++ List.replicate 6 '0').take 6
  let micro := places.foldl (fun n c => n * 10 + (c.toNat - 48)) 0
  let offset ← offsetOf? (rest.dropWhile fun c => c == ' ' || c == '\t')
  -- blanks before nothing are no part of a moment
  if offset.isNone && !rest.isEmpty then none else some (hour, minute, second, micro, offset)

/-- A date or moment; `none` for the time where there is none. -/
def timestampOf? (text : List Char) :
    Option (Nat × Nat × Nat × Option (Nat × Nat × Nat × Nat × Option Int)) := do
  let year := text.take 4
  if year.length ≠ 4 || !year.all Char.isDigit then none
  else
    let (month, rest) ← upToTwo? (← mark? '-' (text.drop 4))
    let (day, rest) ← upToTwo? (← mark? '-' rest)
    match rest with
    | [] => some (yearOf year, month, day, none)
    | c :: more =>
        if c == 'T' || c == 't' then some (yearOf year, month, day, some (← clockOf? more))
        else if c == ' ' || c == '\t' then
          some (yearOf year, month, day,
            some (← clockOf? (more.dropWhile fun c => c == ' ' || c == '\t')))
        else none
where
  yearOf (digits : List Char) : Nat := digits.foldl (fun n c => n * 10 + (c.toNat - 48)) 0

/-- A plain text is a date only with two digits for month and day each; a moment may have one. -/
def isTimestamp (text : List Char) : Bool :=
  match timestampOf? text with
  | some (_, _, _, none) => text.length == 10
  | some _ => true
  | none => false

def truthTexts : List String :=
  ["yes", "Yes", "YES", "no", "No", "NO", "true", "True", "TRUE", "false", "False", "FALSE",
    "on", "On", "ON", "off", "Off", "OFF"]

/-- What a plain text spells. A line end at its end does not count. -/
def Kind.ofPlain (text : String) : Kind :=
  let cs := match text.toList.reverse with
    | '\n' :: rest => rest.reverse
    | _ => text.toList
  let s := String.ofList cs
  if ["", "~", "null", "Null", "NULL"].contains s then .null
  else if truthTexts.contains s then .bool
  else if isDouble cs then .float
  else if isInteger cs then .int
  else if s == "<<" then .merge
  else if isTimestamp cs then .timestamp
  else if s == "=" then .defaultValue
  else if ["!", "&", "*"].contains s then .unknown
  else .text

def integerOf (text : String) : Reading Int :=
  let cs := text.toList.filter (· ≠ '_')
  if cs.isEmpty then .error .noDigits
  else
    let negative := cs.head? == some '-'
    let body := unsigned cs
    let read := fun (base : Nat) (digits : List Char) =>
      match readInteger base (.ofList digits) with
      | .ok n => .ok (if negative then -n else n)
      | .error e => Except.error (Fault.numeral e)
    match body with
    | [] => .error .noDigits
    | ['0'] => .ok 0
    | '0' :: 'b' :: digits => read 2 digits
    | '0' :: 'x' :: digits => read 16 digits
    | '0' :: digits => read 8 ('0' :: digits)
    | _ =>
        match splitChars ':' body with
        | [_] => read 10 body
        | parts => do
            let values ← parts.mapM fun part => match readInteger 10 (.ofList part) with
              | .ok n => .ok n
              | .error e => Except.error (Fault.numeral e)
            let n := values.foldl (fun n v => n * 60 + v) 0
            .ok (if negative then -n else n)

/-- The double of a text: named, in base sixty, or decimal. -/
def doubleOf (text : String) : Reading Binary64 :=
  let cs := (lower (.ofList (text.toList.filter (· ≠ '_')))).toList
  if cs.isEmpty then .error .noDigits
  else
    let sign := fun (x : Binary64) => if cs.head? == some '-' then x.negate else x
    let body := unsigned cs
    let read := fun (digits : List Char) => match readDouble (.ofList digits) with
      | .ok x => .ok x
      | .error e => Except.error (Fault.numeral e)
    if body == ".inf".toList then .ok (sign (.number false .infinite))
    else if body == ".nan".toList then .ok .notANumber
    else match splitChars ':' body with
      | [_] => (read body).map sign
      | parts => do
          let values ← parts.mapM read
          let zero : Binary64 := .number false (.finite 0 (-1074))
          let (total, _) := values.reverse.foldl (fun (sum, base) v =>
            (sum.add (v.scale base), base * 60)) (zero, 1)
          .ok (sign total)

def isLeap (year : Nat) : Bool := year % 4 == 0 && (year % 100 ≠ 0 || year % 400 == 0)

def monthDays (year month : Nat) : Nat :=
  if month == 2 then if isLeap year then 29 else 28
  else if [4, 6, 9, 11].contains month then 30 else 31

def checkDate (year month day : Nat) : Reading Unit :=
  if year == 0 then .error (.calendar "year 0 is out of range")
  else if month == 0 || month > 12 then .error (.calendar "month must be in 1..12")
  else if day == 0 || day > monthDays year month then
    .error (.calendar "day is out of range for month")
  else .ok ()

def checkClock (hour minute second : Nat) : Reading Unit :=
  if hour > 23 then .error (.calendar "hour must be in 0..23")
  else if minute > 59 then .error (.calendar "minute must be in 0..59")
  else if second > 59 then .error (.calendar "second must be in 0..59")
  else .ok ()

/-- An offset is shorter than a day. The refusal tells it as days and seconds. -/
def checkOffset (minutes : Int) : Reading Unit :=
  if minutes.natAbs < 1440 then .ok ()
  else
    let days := minutes.fdiv 1440
    let seconds := (minutes - days * 1440) * 60
    let size := "days=" ++ toString days ++
      (if seconds == 0 then "" else ", seconds=" ++ toString seconds)
    .error (.calendar ("offset must be a timedelta strictly between -timedelta(hours=24) and " ++
      "timedelta(hours=24), not datetime.timedelta(" ++ size ++ ")."))

/-- The parts of a text in decimal digits, filled up with zeros. -/
def padded (width n : Nat) : String :=
  let digits := toString n
  .ofList (List.replicate (width - digits.length) '0') ++ digits

def dateText (year month day : Nat) : String :=
  padded 4 year ++ "-" ++ padded 2 month ++ "-" ++ padded 2 day

def Timestamp.toText (t : Timestamp) : String :=
  dateText t.year t.month t.day ++ " " ++ padded 2 t.hour ++ ":" ++ padded 2 t.minute ++ ":" ++
    padded 2 t.second ++ (if t.micro == 0 then "" else "." ++ padded 6 t.micro) ++
    match t.offset with
    | none => ""
    | some m => (if m < 0 then "-" else "+") ++ padded 2 (m.natAbs / 60) ++ ":" ++
        padded 2 (m.natAbs % 60)

def dayNumber (year month day : Nat) : Nat :=
  let before := year - 1
  before * 365 + before / 4 - before / 100 + before / 400 +
    (List.range (month - 1)).foldl (fun days m => days + monthDays year (m + 1)) 0 + day

/-- The instant of a moment in millionths of a second, its offset taken off. -/
def Timestamp.instant (t : Timestamp) : Int :=
  let seconds : Int :=
    dayNumber t.year t.month t.day * 86400 + t.hour * 3600 + t.minute * 60 + t.second
  (seconds - t.offset.getD 0 * 60) * 1000000 + t.micro

def Timestamp.agrees (a b : Timestamp) : Bool :=
  a.offset.isSome == b.offset.isSome && a.instant == b.instant

end SourceAtlas.Yaml
