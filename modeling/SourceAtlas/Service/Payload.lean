import SourceAtlas.Decimal.Numeral

/-!
The body of a request, and the index that it asks for. A body is checked field by field, and every
problem is told with the place where it stands.
-/
namespace SourceAtlas.Service

open Text Decimal

/-- A body that has been read. -/
inductive Payload
  | null
  | bool (b : Bool)
  | int (n : Int)
  | float (x : Binary64)
  | text (s : String)
  | list (items : List Payload)
  | object (fields : List (String × Payload))
  deriving Inhabited

/-- What is wrong with a value. -/
inductive Wrong
  | missing
  | notAnObject
  | notText
  | notAList
  | notAnInteger
  | noInteger
  | fractional
  | notFinite
  | tooLarge
  | notPositive
  deriving BEq, DecidableEq, Repr

def Wrong.label : Wrong → String
  | .missing => "missing"
  | .notAnObject => "model_attributes_type"
  | .notText => "string_type"
  | .notAList => "list_type"
  | .notAnInteger => "int_type"
  | .noInteger => "int_parsing"
  | .fractional => "int_from_float"
  | .notFinite => "finite_number"
  | .tooLarge => "int_parsing_size"
  | .notPositive => "greater_than"

/-- Where a problem stands: in the body itself, in a field, or in an item of a field. -/
structure Problem where
  wrong : Wrong
  field : Option String := none
  item : Option Nat := none
  deriving BEq, DecidableEq, Repr

/-- Zeros in front of other digits drop out, together with single underscores among them. One zero
is kept before a point and at the end. -/
def dropZeros (before : Char) : List Char → Option (List Char)
  | [] => some [before]
  | c :: rest =>
      if c == '0' || (c == '_' && before ≠ '_') then dropZeros c rest
      else if '1' ≤ c && c ≤ '9' then some (c :: rest)
      else if c == '.' then some (before :: c :: rest)
      else none

def withoutLeadingZeros : List Char → Option (List Char)
  | '0' :: rest => dropZeros '0' rest
  | c :: rest => if ('1' ≤ c && c ≤ '9') || c == '-' then some (c :: rest) else none
  | [] => none

/-- The text before a point that zeros follow, at least one and nothing else. -/
def withoutZeroPlaces (text : List Char) : List Char :=
  match cutAt? ['.'] text with
  | some (whole, places) => if !places.isEmpty && places.all (· == '0') then whole else text
  | none => text

def withoutUnderscores (text : List Char) : List Char :=
  if text.head? == some '_' || text.getLast? == some '_' || occurs ['_', '_'] text then text
  else text.filter (· ≠ '_')

def plainNatural? (text : List Char) : Option Nat :=
  match text with
  | ['0'] => some 0
  | c :: _ =>
      if c ≠ '0' && text.all Char.isDigit then
        some (ofDigits 10 (text.reverse.map fun c => c.toNat - 48))
      else none
  | [] => none

def plainInteger? : List Char → Option Int
  | '-' :: rest => (plainNatural? rest).map fun n => -(n : Int)
  | text => (plainNatural? text).map fun n => (n : Int)

/-- The most bytes of a text that is read as an integer. -/
def integerTextLimit : Nat := 4300

def integerOfText (text : String) : Except Wrong Int :=
  if text.utf8ByteSize > integerTextLimit then .error .tooLarge
  else
    let body := match trimChars isNumeralBlank text.toList with
      | '+' :: '-' :: _ => none
      | '+' :: rest => some rest
      | body => some body
    match body.bind withoutLeadingZeros with
    | none => .error .noInteger
    | some body =>
        match plainInteger? (withoutUnderscores (withoutZeroPlaces body)) with
        | some n => .ok n
        | none => .error .noInteger

def integerOfDouble : Binary64 → Except Wrong Int
  | .notANumber | .number _ .infinite => .error .notFinite
  | .number negative (.finite mantissa exponent) =>
      let (num, den) := scaled mantissa exponent
      if num % den ≠ 0 then .error .fractional
      else if num / den ≥ Nat.pow 2 63 then .error .tooLarge
      else .ok (if negative then -((num / den : Nat) : Int) else (num / den : Nat))

namespace Payload

def asText : Payload → Except Wrong String
  | .text s => .ok s
  | _ => .error .notText

/-- Truth values, whole doubles and texts that spell an integer are integers too. -/
def asInteger : Payload → Except Wrong Int
  | .bool b => .ok (if b then 1 else 0)
  | .int n => .ok n
  | .float x => integerOfDouble x
  | .text s => integerOfText s
  | _ => .error .notAnInteger

def asPositive (value : Payload) : Except Wrong Int := do
  let n ← value.asInteger
  if n > 0 then .ok n else .error .notPositive

/-- The value of a field; of two fields of one name the later counts. -/
def field? (name : String) (fields : List (String × Payload)) : Option Payload :=
  fields.reverse.lookup name

end Payload

structure IndexRequest where
  path : String
  tier : Option String := none
  hashAlgorithm : Option String := none
  maxCandidates : Option Int := none
  languages : List String := []
  deriving BEq, DecidableEq, Repr

/-- A value that was read, or what is wrong with it; a problem does not stop the fields after it. -/
abbrev Checked (α : Type) := Except (List Problem) α

def Checked.both {α β : Type} (a : Checked α) (b : Checked β) : Checked (α × β) :=
  match a, b with
  | .ok a, .ok b => .ok (a, b)
  | .error p, .ok _ => .error p
  | .ok _, .error q => .error q
  | .error p, .error q => .error (p ++ q)

def required {α : Type} (read : Payload → Except Wrong α) (name : String)
    (fields : List (String × Payload)) : Checked α :=
  match Payload.field? name fields with
  | none => .error [⟨.missing, some name, none⟩]
  | some value =>
      match read value with
      | .ok a => .ok a
      | .error wrong => .error [⟨wrong, some name, none⟩]

def optional {α : Type} (read : Payload → Except Wrong α) (name : String)
    (fields : List (String × Payload)) : Checked (Option α) :=
  match Payload.field? name fields with
  | none | some .null => .ok none
  | some value =>
      match read value with
      | .ok a => .ok (some a)
      | .error wrong => .error [⟨wrong, some name, none⟩]

def textItems (name : String) (position : Nat) : List Payload → Checked (List String)
  | [] => .ok []
  | value :: rest =>
      let head : Checked String := match value.asText with
        | .ok s => .ok s
        | .error wrong => .error [⟨wrong, some name, some position⟩]
      (head.both (textItems name (position + 1) rest)).map fun (s, more) => s :: more

def textList (name : String) (fields : List (String × Payload)) : Checked (List String) :=
  match Payload.field? name fields with
  | none => .ok []
  | some (.list items) => textItems name 0 items
  | some _ => .error [⟨.notAList, some name, none⟩]

def IndexRequest.ofPayload : Option Payload → Checked IndexRequest
  | none | some .null => .error [⟨.missing, none, none⟩]
  | some (.object fields) =>
      let path := required Payload.asText "path" fields
      let tier := optional Payload.asText "format" fields
      let hash := optional Payload.asText "hash_algorithm" fields
      let most := optional Payload.asPositive "max_candidates" fields
      let languages := textList "languages" fields
      (path.both (tier.both (hash.both (most.both languages)))).map
        fun (path, tier, hash, most, languages) => ⟨path, tier, hash, most, languages⟩
  | some _ => .error [⟨.notAnObject, none, none⟩]

end SourceAtlas.Service
