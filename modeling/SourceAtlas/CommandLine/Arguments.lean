import SourceAtlas.Text.Classes
import SourceAtlas.Text.Lines
import SourceAtlas.Text.Quoted

/-!
Arguments of a command line by a table of options and one positional argument. Options may be cut
short as long as they stay unique, values may follow an equals sign, flags of one letter may be
joined, and all after two dashes is positional.
-/
namespace SourceAtlas.CommandLine

open Text

def invalidChoice (value : String) (choices : List String) : String :=
  "invalid choice: " ++ quotedText value ++ " (choose from " ++
    join ", " (choices.map quotedText) ++ ")"

inductive Effect
  | help
  | flag
  | value (test : String → Except String Unit)

structure OptionRow where
  names : List String
  effect : Effect

def OptionRow.shown (row : OptionRow) : String := join "/" row.names

def OptionRow.key (row : OptionRow) : String := row.names.getLastD ""

/-- The positional argument of a parser: optional, required, or a command with all that follows. -/
inductive Positional
  | optional (name : String)
  | required (name : String)
  | command (name : String) (choices : List String)

structure Table where
  program : String
  rows : List OptionRow
  positional : Positional

inductive Stop
  | help (program : String)
  | misuse (program message : String)
  deriving BEq, DecidableEq, Repr

/-- An option met in the arguments: its row if there is one, its name in full, and the value in the
same argument, which follows an equals sign or is joined to the name. -/
structure Met where
  row : Option OptionRow
  name : String
  joined : Option String

inductive Mark
  | option (met : Met)
  | plain
  | dashes

def Mark.isOption : Mark → Bool
  | .option _ => true
  | _ => false

def Mark.isDashes : Mark → Bool
  | .dashes => true
  | _ => false

/-- What has been read: options with their values, the positional arguments if they were met, and
what was not understood. -/
structure Reading where
  options : List (String × String) := []
  positional : Option (List String) := none
  extras : List String := []

namespace Table

def names (table : Table) : List (String × OptionRow) :=
  table.rows.flatMap fun row => row.names.map fun name => (name, row)

def misuse {α : Type} (table : Table) (message : String) : Except Stop α :=
  .error (.misuse table.program message)

def refuse {α : Type} (table : Table) (row : OptionRow) (message : String) : Except Stop α :=
  table.misuse ("argument " ++ row.shown ++ ": " ++ message)

def cutEquals (argument : String) : Option (String × String) :=
  (cutAt? ['='] argument.toList).map fun (before, after) => (.ofList before, .ofList after)

/-- A minus sign with digits, which may have a point among or before them; a line break may end
it. -/
def isNegativeNumber (argument : String) : Bool :=
  match argument.toList with
  | '-' :: body =>
      let body := if body.getLast? == some '\n' then body.dropLast else body
      let digit := fun c => (digitValue? c).isSome
      (!body.isEmpty && body.all digit) ||
        match body.dropWhile digit with
        | '.' :: rest => !rest.isEmpty && rest.all digit
        | _ => false
  | _ => false

def candidates (table : Table) (argument : String) : List Met :=
  match argument.toList with
  | '-' :: '-' :: _ =>
      let (start, joined) := match cutEquals argument with
        | some (start, value) => (start, some value)
        | none => (argument, none)
      (table.names.filter fun (name, _) => startsWith name start).map fun (name, row) =>
        ⟨some row, name, joined⟩
  | a :: b :: rest =>
      table.names.filterMap fun (name, row) =>
        if name == .ofList [a, b] then some ⟨some row, name, some (.ofList rest)⟩
        else if startsWith name argument then some ⟨some row, name, none⟩
        else none
  | _ => []

def markOf (table : Table) (argument : String) : Except Stop Mark :=
  if !startsWith argument "-" then .ok .plain
  else match table.names.lookup argument with
    | some row => .ok (.option ⟨some row, argument, none⟩)
    | none =>
        if argument.length == 1 then .ok .plain
        else
          let named := (cutEquals argument).bind fun (name, value) =>
            (table.names.lookup name).map fun row => Met.mk (some row) name (some value)
          match named with
          | some met => .ok (.option met)
          | none =>
              match table.candidates argument with
              | [met] => .ok (.option met)
              | [] =>
                  if isNegativeNumber argument || argument.toList.contains ' ' then .ok .plain
                  else .ok (.option ⟨none, argument, none⟩)
              | several => table.misuse ("ambiguous option: " ++ argument ++ " could match " ++
                  join ", " (several.map (·.name)))

/-- The arguments with what they are taken for; all after two dashes is plain. -/
def marked (table : Table) : List String → Except Stop (List (String × Mark))
  | [] => .ok []
  | argument :: rest =>
      if argument == "--" then .ok ((argument, .dashes) :: rest.map fun a => (a, .plain))
      else do
        let mark ← table.markOf argument
        return (argument, mark) :: (← table.marked rest)

/-- How many of the arguments ahead the positional takes; `none` if it cannot be there. -/
def reach (positional : Positional) (ahead : List (String × Mark)) : Option Nat :=
  let dashes := (ahead.takeWhile fun (_, m) => m.isDashes).length
  let rest := ahead.drop dashes
  let tail := fun (after : List (String × Mark)) =>
    (after.takeWhile fun (_, m) => m.isDashes).length
  match positional, rest with
  | .command .., (_, .plain) :: _ => some ahead.length
  | .required _, (_, .plain) :: after => some (dashes + 1 + tail after)
  | .optional _, (_, .plain) :: after => some (dashes + 1 + tail after)
  | .optional _, _ => some dashes
  | _, _ => none

/-- What the positional is given: two dashes before it do not count, except before a command. -/
def positionalValues (positional : Positional) (taken : List String) : List String :=
  match positional with
  | .command .. => taken
  | _ => taken.erase "--"

def checkPositional (table : Table) (values : List String) : Except Stop Unit :=
  match table.positional with
  | .command name choices =>
      let first := values.headD ""
      if choices.contains first then .ok ()
      else table.misuse ("argument " ++ name ++ ": " ++ invalidChoice first choices)
  | _ => .ok ()

def takePositional (table : Table) (reading : Reading) (ahead : List (String × Mark)) :
    Except Stop (Reading × List (String × Mark)) :=
  if reading.positional.isSome then .ok (reading, ahead)
  else match reach table.positional ahead with
    | none => .ok (reading, ahead)
    | some count => do
        let values := positionalValues table.positional ((ahead.take count).map Prod.fst)
        table.checkPositional values
        return ({ reading with positional := some values }, ahead.drop count)

def apply (table : Table) (reading : Reading) (row : OptionRow) (value : String) :
    Except Stop Reading :=
  match row.effect with
  | .help => .error (.help table.program)
  | .flag => .ok { reading with options := (row.key, "") :: reading.options }
  | .value test =>
      match test value with
      | .ok () => .ok { reading with options := (row.key, value) :: reading.options }
      | .error reason => table.refuse row reason

/-- The rows of the flags joined to a flag of one letter, after the row of that flag, and what of
the letters is left as the value of the last of them. A letter that is no option is refused with all
that follows it. -/
def joinedRows (table : Table) (row : OptionRow) :
    List Char → Except Stop (List OptionRow × List Char)
  | [] => .ok ([row], [])
  | c :: rest =>
      match row.effect, table.names.lookup (.ofList ['-', c]) with
      | .value _, _ => .ok ([row], c :: rest)
      | _, some next => do
          let (rows, value) ← table.joinedRows next rest
          return (row :: rows, value)
      | _, none =>
          table.refuse row ("ignored explicit argument " ++ quotedText (.ofList (c :: rest)))

def takeRow (table : Table) (reading : Reading) (row : OptionRow) (rest : List (String × Mark)) :
    Except Stop (Reading × List (String × Mark)) :=
  match row.effect with
  | .value _ =>
      match rest with
      | (value, .plain) :: rest => do return (← table.apply reading row value, rest)
      | _ => table.refuse row "expected one argument"
  | _ => do return (← table.apply reading row "", rest)

/-- Takes several joined options in their order; the last one has the value, if there is any. -/
def takeRows (table : Table) (reading : Reading) (value : List Char) (rest : List (String × Mark)) :
    List OptionRow → Except Stop (Reading × List (String × Mark))
  | [] => .ok (reading, rest)
  | [row] =>
      if value.isEmpty then table.takeRow reading row rest
      else do return (← table.apply reading row (.ofList value), rest)
  | row :: rows => do table.takeRows (← table.apply reading row "") value rest rows

def takeOption (table : Table) (reading : Reading) (argument : String) (met : Met)
    (rest : List (String × Mark)) : Except Stop (Reading × List (String × Mark)) :=
  match met.row with
  | none => .ok ({ reading with extras := reading.extras ++ [argument] }, rest)
  | some row =>
      match row.effect, met.joined with
      | _, none => table.takeRow reading row rest
      | .value _, some value => do return (← table.apply reading row value, rest)
      | _, some value =>
          if startsWith met.name "--" || value.isEmpty then
            table.refuse row ("ignored explicit argument " ++ quotedText value)
          else do
            let (rows, last) ← table.joinedRows row value.toList
            table.takeRows reading last rest rows

/-- Takes positionals and options in turn up to the last option, then what is left. -/
def readFrom (table : Table) (fuel : Nat) (reading : Reading) (ahead : List (String × Mark)) :
    Except Stop Reading :=
  match fuel with
  | 0 => .ok reading
  | fuel + 1 => do
      if ahead.any fun (_, m) => m.isOption then
        match ahead with
        | (argument, .option met) :: rest =>
            let (reading, rest) ← table.takeOption reading argument met rest
            table.readFrom fuel reading rest
        | _ =>
            let (reading, rest) ← table.takePositional reading ahead
            if rest.length < ahead.length then table.readFrom fuel reading rest
            else
              let skipped := ahead.takeWhile fun (_, m) => !m.isOption
              table.readFrom fuel
                { reading with extras := reading.extras ++ skipped.map Prod.fst }
                (ahead.drop skipped.length)
      else
        let (reading, rest) ← table.takePositional reading ahead
        return { reading with extras := reading.extras ++ rest.map Prod.fst }

def read (table : Table) (arguments : List String) : Except Stop Reading := do
  let marked ← table.marked arguments
  let reading ← table.readFrom (2 * marked.length + 2) {} marked
  match table.positional, reading.positional with
  | .required name, none | .command name _, none =>
      table.misuse ("the following arguments are required: " ++ name)
  | _, _ => return reading

end Table

namespace Reading

def has (reading : Reading) (key : String) : Bool := (reading.options.lookup key).isSome

/-- The value of an option; of several the last. -/
def get? (reading : Reading) (key : String) : Option String := reading.options.lookup key

end Reading

end SourceAtlas.CommandLine
