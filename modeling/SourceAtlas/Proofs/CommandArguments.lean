import SourceAtlas.Proofs.DecimalText
import SourceAtlas.Proofs.IndexNames
import SourceAtlas.Proofs.NotedWork
import SourceAtlas.Service.Payload

/-!
Arguments that were written for a table are read as what they were written for, and the command line
that asks for an index is read as that index.
-/
namespace SourceAtlas.CommandLine

open Text

theorem cutAt_equals {name : List Char} (free : '=' ∉ name) (value : List Char) :
    cutAt? ['='] (name ++ '=' :: value) = some (name, value) := by
  induction name with
  | nil => rfl
  | cons c rest ih =>
      rw [List.mem_cons, not_or] at free
      have other : dropFront? ['='] (c :: (rest ++ '=' :: value)) = none := if_neg free.1
      rw [List.cons_append, cutAt?, other]
      dsimp only
      rw [ih free.2]
      rfl

theorem cutAt_free {name : List Char} (free : '=' ∉ name) : cutAt? ['='] name = none := by
  induction name with
  | nil => rfl
  | cons c rest ih =>
      rw [List.mem_cons, not_or] at free
      have other : dropFront? ['='] (c :: rest) = none := if_neg free.1
      rw [cutAt?, other]
      dsimp only
      rw [ih free.2]
      rfl

def joined (name value : String) : String := name ++ "=" ++ value

theorem toList_joined (name value : String) :
    (joined name value).toList = name.toList ++ '=' :: value.toList := by
  have equals : "=".toList = ['='] := rfl
  rw [joined, String.toList_append, String.toList_append, equals, List.append_assoc,
    List.singleton_append]

namespace Table

theorem cutEquals_joined {name : String} (free : '=' ∉ name.toList) (value : String) :
    cutEquals (joined name value) = some (name, value) := by
  rw [cutEquals, toList_joined, cutAt_equals free]
  simp

theorem cutEquals_free {name : String} (free : '=' ∉ name.toList) : cutEquals name = none := by
  rw [cutEquals, cutAt_free free]
  rfl

variable {table : Table}

def Clear (table : Table) : Prop := ∀ entry ∈ table.names, '=' ∉ entry.1.toList

structure Knows (table : Table) (name : String) (row : OptionRow) : Prop where
  listed : table.names.lookup name = some row
  dashes : ∃ c more, name.toList = '-' :: '-' :: c :: more
  free : '=' ∉ name.toList

theorem startsWith_dash {argument : String} {rest : List Char}
    (dashed : argument.toList = '-' :: rest) : startsWith argument "-" = true := by
  rw [startsWith_iff, dashed]
  exact List.prefix_append ['-'] rest

theorem Knows.ne_dashes {name : String} {row : OptionRow} (known : table.Knows name row) :
    (name == "--") = false := by
  obtain ⟨c, more, spelled⟩ := known.dashes
  refine beq_false_of_ne fun same => ?_
  rw [same] at spelled
  exact absurd (congrArg List.length spelled) (by simp)

theorem Knows.markOf {name : String} {row : OptionRow} (known : table.Knows name row) :
    table.markOf name = .ok (.option ⟨some row, name, none⟩) := by
  obtain ⟨c, more, spelled⟩ := known.dashes
  rw [Table.markOf, startsWith_dash spelled, known.listed]
  rfl

theorem Knows.markOf_joined {name : String} {row : OptionRow} (known : table.Knows name row)
    (clear : table.Clear) (value : String) :
    table.markOf (joined name value) = .ok (.option ⟨some row, name, some value⟩) := by
  obtain ⟨c, more, spelled⟩ := known.dashes
  have whole := toList_joined name value
  rw [spelled] at whole
  have unlisted : table.names.lookup (joined name value) = none := by
    refine List.lookup_eq_none_iff.mpr fun entry listed => ?_
    refine bne_iff_ne.mpr fun same => clear entry listed ?_
    rw [← same, toList_joined]
    exact List.mem_append_right _ List.mem_cons_self
  have long : ((joined name value).length == 1) = false := by
    rw [← String.length_toList, whole]
    rfl
  rw [Table.markOf, startsWith_dash whole, unlisted]
  dsimp only
  rw [long, cutEquals_joined known.free, Option.bind_some, known.listed]
  rfl

theorem markOf_plain {argument : String} (plain : startsWith argument "-" = false) :
    table.markOf argument = .ok .plain := by
  rw [markOf, plain]
  rfl

theorem markOf_ok {argument : String} (few : (table.candidates argument).length ≤ 1) :
    ∃ mark, table.markOf argument = .ok mark := by
  unfold markOf
  split
  · exact ⟨_, rfl⟩
  split
  · exact ⟨_, rfl⟩
  split
  · exact ⟨_, rfl⟩
  dsimp only
  split
  · exact ⟨_, rfl⟩
  split
  · exact ⟨_, rfl⟩
  · split
    · exact ⟨_, rfl⟩
    · exact ⟨_, rfl⟩
  next single none =>
    rcases found : table.candidates argument with _ | ⟨first, _ | ⟨second, rest⟩⟩
    · exact absurd found none
    · exact absurd found (single first)
    · rw [found] at few
      simp at few

def beginning (table : Table) (start : String) : List (String × OptionRow) :=
  table.names.filter fun (name, _) => startsWith name start

theorem length_candidates_joined {name : String} {more : List Char}
    (dashes : name.toList = '-' :: '-' :: more) (free : '=' ∉ name.toList) (value : String) :
    (table.candidates (joined name value)).length = (table.beginning name).length := by
  have whole := toList_joined name value
  rw [dashes] at whole
  rw [candidates, whole]
  dsimp only
  rw [cutEquals_joined free]
  exact List.length_map _

theorem length_candidates_free {name : String} {more : List Char}
    (dashes : name.toList = '-' :: '-' :: more) (free : '=' ∉ name.toList) :
    (table.candidates name).length = (table.beginning name).length := by
  rw [candidates, dashes]
  dsimp only
  rw [cutEquals_free free]
  exact List.length_map _

/-- Options that were written for a table, and what they set, the last one first. -/
inductive Written (table : Table) : List String → List (String × String) → Prop
  | nil : Written table [] []
  | flag {name : String} {row : OptionRow} {rest : List String} {set : List (String × String)}
      (known : table.Knows name row) (bare : row.effect = .flag) (later : Written table rest set) :
      Written table (name :: rest) (set ++ [(row.key, "")])
  | joined {name value : String} {row : OptionRow} {test : String → Except String Unit}
      {rest : List String} {set : List (String × String)} (known : table.Knows name row)
      (takes : row.effect = .value test) (passes : test value = .ok ())
      (later : Written table rest set) :
      Written table (joined name value :: rest) (set ++ [(row.key, value)])
  | apart {name value : String} {row : OptionRow} {test : String → Except String Unit}
      {rest : List String} {set : List (String × String)} (known : table.Knows name row)
      (takes : row.effect = .value test) (passes : test value = .ok ())
      (plain : startsWith value "-" = false) (later : Written table rest set) :
      Written table (name :: value :: rest) (set ++ [(row.key, value)])

theorem Written.append {first second : List String} {set more : List (String × String)}
    (written : table.Written first set) (later : table.Written second more) :
    table.Written (first ++ second) (more ++ set) := by
  induction written with
  | nil => rwa [List.append_nil]
  | flag known bare _ ih =>
      rw [← List.append_assoc]
      exact .flag known bare ih
  | joined known takes passes _ ih =>
      rw [← List.append_assoc]
      exact .joined known takes passes ih
  | apart known takes passes plain _ ih =>
      rw [← List.append_assoc]
      exact .apart known takes passes plain ih

structure Reads (table : Table) (arguments : List String) (set : List (String × String))
    (marks : List (String × Mark)) : Prop where
  marked : ∀ {rest : List String} {after : List (String × Mark)},
    table.marked rest = .ok after → table.marked (arguments ++ rest) = .ok (marks ++ after)
  opens : marks = [] ∨ ∃ argument met rest, marks = (argument, .option met) :: rest
  taken : ∃ steps ≤ marks.length, ∀ fuel reading ahead,
    table.readFrom (steps + fuel) reading (marks ++ ahead) =
      table.readFrom fuel { reading with options := set ++ reading.options } ahead

theorem marked_cons {argument : String} {mark : Mark} (other : (argument == "--") = false)
    (taken : table.markOf argument = .ok mark) {rest : List String}
    {after : List (String × Mark)} (marked : table.marked rest = .ok after) :
    table.marked (argument :: rest) = .ok ((argument, mark) :: after) := by
  rw [Table.marked, other, taken, marked]
  rfl

theorem readFrom_option {reading next : Reading} {argument : String} {met : Met}
    {ahead rest : List (String × Mark)}
    (taken : table.takeOption reading argument met ahead = .ok (next, rest)) (fuel : Nat) :
    table.readFrom (fuel + 1) reading ((argument, .option met) :: ahead) =
      table.readFrom fuel next rest := by
  rw [readFrom]
  split
  next =>
    rw [taken]
    rfl
  next none => exact absurd rfl none

theorem Reads.cons {front rest : List String} {set : List (String × String)}
    {marks later : List (String × Mark)} {entry : String × String} {argument : String} {met : Met}
    (reads : table.Reads rest set later)
    (marked : ∀ {more : List String} {after : List (String × Mark)},
      table.marked more = .ok after →
        table.marked (front ++ more) = .ok ((argument, .option met) :: marks ++ after))
    (taken : ∀ reading ahead, table.takeOption reading argument met (marks ++ ahead) =
      .ok ({ reading with options := entry :: reading.options }, ahead)) :
    table.Reads (front ++ rest) (set ++ [entry]) ((argument, .option met) :: marks ++ later) := by
  refine ⟨fun known => ?_, .inr ⟨_, _, _, rfl⟩, ?_⟩
  · rw [List.append_assoc, List.append_assoc]
    exact marked (reads.marked known)
  · obtain ⟨steps, few, read⟩ := reads.taken
    refine ⟨steps + 1, ?_, fun fuel reading ahead => ?_⟩
    · simp only [List.cons_append, List.length_cons, List.length_append]
      omega
    · have more : steps + 1 + fuel = (steps + fuel) + 1 := by omega
      rw [more, List.append_assoc, List.cons_append, readFrom_option (taken reading _), read,
        List.append_assoc]
      rfl

theorem joined_ne_dashes (name value : String) :
    (CommandLine.joined name value == "--") = false := by
  refine beq_false_of_ne fun same => ?_
  have equals : '=' ∈ (CommandLine.joined name value).toList := by
    rw [toList_joined]
    exact List.mem_append_right _ List.mem_cons_self
  rw [same] at equals
  exact absurd equals (by decide)

theorem plain_ne_dashes {argument : String} (plain : startsWith argument "-" = false) :
    (argument == "--") = false := by
  refine beq_false_of_ne fun same => ?_
  rw [same] at plain
  exact absurd plain (by decide)

theorem Written.reads {arguments : List String} {set : List (String × String)}
    (written : table.Written arguments set) (clear : table.Clear) :
    ∃ marks, table.Reads arguments set marks := by
  -- on what was written, from the last option to the first: each is one step of the reading
  induction written with
  | nil => exact ⟨[], id, .inl rfl, 0, Nat.le_refl _, fun fuel _ _ => by rw [Nat.zero_add]; rfl⟩
  | @flag name row rest set known bare _ ih =>
      obtain ⟨later, reads⟩ := ih
      have marked {more after} (onward : table.marked more = .ok after) :
          table.marked ([name] ++ more) =
            .ok ((name, .option ⟨some row, name, none⟩) :: [] ++ after) :=
        marked_cons known.ne_dashes known.markOf onward
      refine ⟨_, reads.cons marked fun reading ahead => ?_⟩
      unfold takeOption takeRow apply
      dsimp only
      rw [bare]
      rfl
  | @joined name value row test rest set known takes passes _ ih =>
      obtain ⟨later, reads⟩ := ih
      have marked {more after} (onward : table.marked more = .ok after) :
          table.marked ([CommandLine.joined name value] ++ more) =
            .ok ((CommandLine.joined name value, .option ⟨some row, name, some value⟩) :: [] ++
              after) :=
        marked_cons (joined_ne_dashes name value) (known.markOf_joined clear value) onward
      refine ⟨_, reads.cons marked fun reading ahead => ?_⟩
      unfold takeOption apply
      dsimp only
      rw [takes]
      dsimp only
      rw [passes]
      rfl
  | @apart name value row test rest set known takes passes plain _ ih =>
      obtain ⟨later, reads⟩ := ih
      have marked {more after} (onward : table.marked more = .ok after) :
          table.marked ([name, value] ++ more) =
            .ok ((name, .option ⟨some row, name, none⟩) :: [(value, .plain)] ++ after) :=
        marked_cons known.ne_dashes known.markOf
          (marked_cons (plain_ne_dashes plain) (markOf_plain plain) onward)
      refine ⟨_, reads.cons marked fun reading ahead => ?_⟩
      unfold takeOption takeRow apply
      dsimp only
      rw [takes]
      dsimp only [List.cons_append]
      rw [passes]
      rfl

def readingOf (set : List (String × String)) (argument : String) : Reading where
  options := set
  positional := some [argument]

theorem readFrom_done (fuel : Nat) (set : List (String × String)) (argument : String) :
    table.readFrom (fuel + 1) (readingOf set argument) [] = .ok (readingOf set argument) := rfl

theorem checkPositional_optional {kind : String} (optional : table.positional = .optional kind)
    (values : List String) : table.checkPositional values = .ok () := by
  rw [checkPositional, optional]

theorem reach_optional (kind argument : String) (marks : List (String × Mark)) :
    reach (.optional kind) ((argument, .plain) :: marks) =
      some (0 + 1 + (marks.takeWhile fun (_, m) => m.isDashes).length) := rfl

theorem Reads.no_dashes {arguments : List String} {set : List (String × String)}
    {marks : List (String × Mark)} (reads : table.Reads arguments set marks) :
    (marks.takeWhile fun (_, m) => m.isDashes) = [] := by
  rcases reads.opens with rfl | ⟨_, _, _, rfl⟩
  · rfl
  · rfl

theorem takePositional_plain {kind : String} (optional : table.positional = .optional kind)
    {argument : String} (other : (argument == "--") = false) {set : List (String × String)}
    {marks : List (String × Mark)} {arguments : List String}
    (reads : table.Reads arguments set marks) :
    table.takePositional {} ((argument, .plain) :: marks) =
      .ok ({ positional := some [argument] }, marks) := by
  have few : reach table.positional ((argument, .plain) :: marks) = some 1 := by
    rw [optional, reach_optional, reads.no_dashes]
    rfl
  have bare : positionalValues table.positional [argument] = [argument] := by
    rw [optional]
    change [argument].erase "--" = _
    rw [List.erase_cons, other]
    rfl
  rw [takePositional, few]
  dsimp only [List.take, List.map, Option.isSome]
  rw [bare, checkPositional_optional optional]
  rfl

theorem takePositional_dashes {kind : String} (optional : table.positional = .optional kind)
    (argument : String) {reading : Reading} (waiting : reading.positional = none) :
    table.takePositional reading [("--", .dashes), (argument, .plain)] =
      .ok ({ reading with positional := some [argument] }, []) := by
  have few : reach table.positional [("--", .dashes), (argument, .plain)] = some 2 := by
    rw [optional]
    rfl
  have bare : positionalValues table.positional ["--", argument] = [argument] := by
    rw [optional]
    rfl
  rw [takePositional, waiting, few]
  dsimp only [List.take, List.map, Option.isSome]
  change (table.checkPositional (positionalValues table.positional ["--", argument]) >>= _) = _
  rw [bare, checkPositional_optional optional]
  rfl

theorem readFrom_plain {kind : String} (optional : table.positional = .optional kind)
    {argument : String} (other : (argument == "--") = false) {set : List (String × String)}
    {marks : List (String × Mark)} {arguments : List String}
    (reads : table.Reads arguments set marks) {fuel : Nat} (long : marks.length + 2 ≤ fuel) :
    table.readFrom fuel {} ((argument, .plain) :: marks) = .ok (readingOf set argument) := by
  obtain ⟨steps, enough, read⟩ := reads.taken
  obtain ⟨spare, rfl⟩ := Nat.exists_eq_add_of_le long
  have more : marks.length + 2 + spare = (steps + (marks.length - steps + spare + 1)) + 1 := by
    omega
  have rest := read (marks.length - steps + spare + 1) { positional := some [argument] } []
  rw [List.append_nil, List.append_nil] at rest
  rw [more]
  unfold readFrom
  dsimp only
  rw [takePositional_plain optional other reads]
  -- with an option ahead the reading goes on, and without one there is nothing left to read
  split
  · change (if marks.length < marks.length + 1 then
      table.readFrom (steps + (marks.length - steps + spare + 1)) { positional := some [argument] }
        marks else _) = _
    rw [if_pos (Nat.lt_succ_self _), rest]
    exact readFrom_done _ set argument
  next bare =>
    rcases reads.opens with rfl | ⟨first, met, others, rfl⟩
    · rw [← Nat.add_assoc] at rest
      exact (readFrom_done _ [] argument).symm.trans (rest.trans (readFrom_done _ set argument))
    · exact absurd rfl bare

theorem readFrom_dashes {kind : String} (optional : table.positional = .optional kind)
    (argument : String) {set : List (String × String)} {marks : List (String × Mark)}
    {arguments : List String} (reads : table.Reads arguments set marks) {fuel : Nat}
    (long : marks.length + 1 ≤ fuel) :
    table.readFrom fuel {} (marks ++ [("--", .dashes), (argument, .plain)]) =
      .ok (readingOf set argument) := by
  obtain ⟨steps, enough, read⟩ := reads.taken
  obtain ⟨spare, rfl⟩ := Nat.exists_eq_add_of_le long
  have more : marks.length + 1 + spare = steps + ((marks.length - steps + spare) + 1) := by omega
  rw [more, read]
  unfold readFrom
  dsimp only
  split
  next option => exact absurd option Bool.false_ne_true
  next =>
    rw [takePositional_dashes optional argument rfl, List.append_nil]
    rfl

theorem Written.read_plain {kind : String} (optional : table.positional = .optional kind)
    (clear : table.Clear) {arguments : List String} {set : List (String × String)}
    (written : table.Written arguments set) {argument : String}
    (plain : startsWith argument "-" = false) :
    table.read (argument :: arguments) = .ok (readingOf set argument) := by
  obtain ⟨marks, reads⟩ := written.reads clear
  have ends : table.marked [] = .ok [] := rfl
  have marked := marked_cons (plain_ne_dashes plain) (markOf_plain plain) (reads.marked ends)
  rw [List.append_nil, List.append_nil] at marked
  have long : marks.length + 2 ≤ 2 * (marks.length + 1) + 2 := by omega
  have done := readFrom_plain optional (plain_ne_dashes plain) reads long
  rw [Table.read, marked]
  change (table.readFrom (2 * (marks.length + 1) + 2) {} _ >>= _) = _
  rw [done, optional]
  rfl

theorem Written.read_dashes {kind : String} (optional : table.positional = .optional kind)
    (clear : table.Clear) {arguments : List String} {set : List (String × String)}
    (written : table.Written arguments set) (argument : String) :
    table.read (arguments ++ ["--", argument]) = .ok (readingOf set argument) := by
  obtain ⟨marks, reads⟩ := written.reads clear
  have ends : table.marked ["--", argument] = .ok [("--", .dashes), (argument, .plain)] := rfl
  have long : marks.length + 1 ≤
      2 * (marks ++ [("--", Mark.dashes), (argument, .plain)]).length + 2 := by
    rw [List.length_append]
    omega
  have done := readFrom_dashes optional argument reads long
  rw [Table.read, reads.marked ends]
  change (table.readFrom (2 * (marks ++ _).length + 2) {} (marks ++ _) >>= _) = _
  rw [done, optional]
  rfl

end Table

namespace Table

theorem map_marked {table : Table} {arguments : List String} {marks : List (String × Mark)}
    (marked : table.marked arguments = .ok marks) : marks.map Prod.fst = arguments := by
  induction arguments generalizing marks with
  | nil => cases marked; rfl
  | cons argument rest ih =>
      unfold Table.marked at marked
      split at marked
      · cases marked
        rw [List.map_cons, List.map_map]
        exact congrArg _ (List.map_id rest)
      · obtain ⟨mark, _, marked⟩ := exists_of_bind marked
        obtain ⟨later, after, marked⟩ := exists_of_bind marked
        cases marked
        rw [List.map_cons, ih after]

theorem marked_append {table : Table} {arguments : List String}
    (each : ∀ argument ∈ arguments, (argument == "--") = false ∧
      ∃ mark, table.markOf argument = .ok mark) {rest : List String}
    {after : List (String × Mark)} (marked : table.marked rest = .ok after) :
    ∃ marks, table.marked (arguments ++ rest) = .ok marks := by
  induction arguments with
  | nil => exact ⟨after, marked⟩
  | cons argument others ih =>
      obtain ⟨other, mark, taken⟩ := each argument List.mem_cons_self
      obtain ⟨later, onward⟩ := ih fun next member => each next (List.mem_cons_of_mem _ member)
      exact ⟨_, marked_cons other taken onward⟩

end Table

theorem mainTable_read {rest : List String} {marks : List (String × Mark)}
    (marked : mainTable.marked rest = .ok marks) :
    mainTable.read ("generate" :: rest) = .ok { positional := some ("generate" :: rest) } := by
  have front : mainTable.marked ("generate" :: rest) = .ok (("generate", .plain) :: marks) :=
    Table.marked_cons (by decide) (Table.markOf_plain (by decide)) marked
  have reached : Table.reach mainTable.positional (("generate", .plain) :: marks) =
    some (("generate", Mark.plain) :: marks).length := rfl
  have taken : mainTable.takePositional {} (("generate", .plain) :: marks) =
      .ok ({ positional := some ("generate" :: rest) }, []) := by
    unfold Table.takePositional
    dsimp only [Option.isSome]
    rw [reached]
    dsimp only
    rw [List.take_length, List.drop_length, List.map_cons, Table.map_marked marked]
    rfl
  have last (fuel : Nat) : mainTable.readFrom (fuel + 2) {} (("generate", .plain) :: marks) =
      .ok { positional := some ("generate" :: rest) } := by
    unfold Table.readFrom
    dsimp only
    rw [taken]
    split
    · rfl
    · rfl
  rw [Table.read, front]
  change (mainTable.readFrom (2 * marks.length + 2 + 2) {} _ >>= _) = _
  rw [last]
  rfl

/-- An option with its value, in one argument or in two. A value that begins with a minus sign does
not stand by itself. -/
def spelled (whole : Bool) (option : String × String) : List String :=
  if whole || startsWith option.2 "-" then [joined option.1 option.2] else [option.1, option.2]

/-- The command line for an index that is printed. A path that begins with a minus sign comes last,
after two dashes. -/
def printing (verbose whole : Bool) (path : String) (options : List (String × String)) :
    List String :=
  let chosen := (if verbose then ["--verbose"] else []) ++ "--stdout" ::
    options.flatMap (spelled whole)
  "generate" :: if startsWith path "-" then chosen ++ ["--", path] else path :: chosen

structure Offered (option : String × String) : Prop where
  known : ∃ row test, generateTable.Knows option.1 row ∧ row.key = option.1 ∧
    row.effect = .value test ∧ test option.2 = .ok ()
  outside : (mainTable.beginning option.1).length ≤ 1

theorem clear_generateTable : generateTable.Clear := by
  have all : (generateTable.names.map Prod.fst).all (fun name => !name.toList.contains '=') =
    true := by decide
  intro entry listed equals
  have free := List.all_eq_true.mp all _ (List.mem_map_of_mem listed)
  rw [List.contains_iff_mem.mpr equals] at free
  cases free

theorem Offered.written {option : String × String} (offered : Offered option) (whole : Bool) :
    generateTable.Written (spelled whole option) [option] := by
  obtain ⟨name, value⟩ := option
  obtain ⟨row, test, known, named, takes, passes⟩ := offered.known
  dsimp only at known named passes
  have entry : [(name, value)] = [] ++ [(row.key, value)] := by rw [named]; rfl
  unfold spelled
  split
  · rw [entry]
    exact .joined known takes passes .nil
  next apart =>
    rw [Bool.or_eq_true, not_or] at apart
    rw [entry]
    exact .apart known takes passes (Bool.eq_false_iff.mpr apart.2) .nil

theorem written_options {options : List (String × String)}
    (offered : ∀ option ∈ options, Offered option) (whole : Bool) :
    generateTable.Written (options.flatMap (spelled whole)) options.reverse := by
  induction options with
  | nil => exact .nil
  | cons option rest ih =>
      rw [List.flatMap_cons, List.reverse_cons]
      have later := ih fun next member => offered next (List.mem_cons_of_mem _ member)
      exact ((offered option List.mem_cons_self).written whole).append later

def printed (verbose : Bool) (options : List (String × String)) : List (String × String) :=
  options.reverse ++ ("--stdout", "") :: if verbose then [("--verbose", "")] else []

theorem written_printing {options : List (String × String)}
    (offered : ∀ option ∈ options, Offered option) (verbose whole : Bool) :
    generateTable.Written ((if verbose then ["--verbose"] else []) ++ "--stdout" ::
      options.flatMap (spelled whole)) (printed verbose options) := by
  have stdout : generateTable.Knows "--stdout" ⟨["--stdout"], .flag⟩ :=
    ⟨rfl, ⟨_, _, rfl⟩, by decide⟩
  have loud : generateTable.Knows "--verbose" ⟨["-v", "--verbose"], .flag⟩ :=
    ⟨rfl, ⟨_, _, rfl⟩, by decide⟩
  have later := Table.Written.flag stdout rfl (written_options offered whole)
  cases verbose with
  | false => exact later
  | true =>
      have all := Table.Written.flag loud rfl later
      rw [List.append_assoc] at all
      exact all

theorem Offered.marked {option : String × String} (offered : Offered option) {whole : Bool}
    {argument : String} (member : argument ∈ spelled whole option) :
    (argument == "--") = false ∧ ∃ mark, mainTable.markOf argument = .ok mark := by
  obtain ⟨name, value⟩ := option
  obtain ⟨row, _, known, _⟩ := offered.known
  obtain ⟨c, more, dashes⟩ := known.dashes
  have few := offered.outside
  dsimp only at known dashes few
  unfold spelled at member
  split at member
  · obtain rfl := List.mem_singleton.mp member
    rw [← Table.length_candidates_joined dashes known.free value] at few
    exact ⟨Table.joined_ne_dashes name value, Table.markOf_ok few⟩
  next apart =>
    rw [Bool.or_eq_true, not_or] at apart
    rcases List.mem_cons.mp member with rfl | last
    · rw [← Table.length_candidates_free dashes known.free] at few
      exact ⟨known.ne_dashes, Table.markOf_ok few⟩
    · obtain rfl := List.mem_singleton.mp last
      have plain := Bool.eq_false_iff.mpr apart.2
      exact ⟨Table.plain_ne_dashes plain, _, Table.markOf_plain plain⟩

theorem mainTable_marked {options : List (String × String)}
    (offered : ∀ option ∈ options, Offered option) (verbose whole : Bool) {rest : List String}
    {after : List (String × Mark)} (marked : mainTable.marked rest = .ok after) :
    ∃ marks, mainTable.marked ((if verbose then ["--verbose"] else []) ++ "--stdout" ::
      options.flatMap (spelled whole) ++ rest) = .ok marks := by
  refine Table.marked_append (fun argument member => ?_) marked
  rcases List.mem_append.mp member with loud | member
  · cases verbose with
    | false => cases loud
    | true =>
        rw [List.mem_singleton.mp loud]
        exact ⟨by decide, Table.markOf_ok (by decide)⟩
  rcases List.mem_cons.mp member with rfl | member
  · exact ⟨by decide, Table.markOf_ok (by decide)⟩
  · obtain ⟨option, listed, part⟩ := List.mem_flatMap.mp member
    exact (offered option listed).marked part

theorem Offered.ne_verbose {option : String × String} (offered : Offered option) :
    option.1 ≠ "--verbose" := by
  intro same
  obtain ⟨row, test, known, _, takes, _⟩ := offered.known
  have listed : generateTable.names.lookup "--verbose" = some ⟨["-v", "--verbose"], .flag⟩ := rfl
  rw [← same, known.listed] at listed
  rw [Option.some.inj listed] at takes
  cases takes

theorem has_verbose {options : List (String × String)}
    (offered : ∀ option ∈ options, Offered option) (verbose : Bool) (path : String) :
    (Table.readingOf (printed verbose options) path).has "--verbose" = verbose := by
  have others : options.reverse.lookup "--verbose" = none :=
    List.lookup_eq_none_iff.mpr fun option member =>
      bne_iff_ne.mpr (offered option (List.mem_reverse.mp member)).ne_verbose.symm
  rw [Reading.has, Table.readingOf, printed, List.lookup_append, others]
  cases verbose with
  | false => rfl
  | true => rfl

theorem read_printing {options : List (String × String)}
    (offered : ∀ option ∈ options, Offered option) (verbose whole : Bool) (path : String) :
    Invocation.read (printing verbose whole path options) =
      .ok ⟨verbose, .generate (.ofReading (Table.readingOf (printed verbose options) path))⟩ := by
  have written := written_printing offered verbose whole
  have optional : generateTable.positional = .optional "path" := rfl
  have invoked {rest : List String} {marks : List (String × Mark)}
      (marked : mainTable.marked rest = .ok marks)
      (read : generateTable.read rest = .ok (Table.readingOf (printed verbose options) path)) :
      Invocation.read ("generate" :: rest) =
        .ok ⟨verbose, .generate (.ofReading (Table.readingOf (printed verbose options) path))⟩ := by
    unfold Invocation.read
    rw [mainTable_read marked]
    change (generateTable.read rest >>= _) = _
    rw [read]
    change Except.ok (Invocation.mk
      ((Table.readingOf (printed verbose options) path).has "--verbose") _) = _
    rw [has_verbose offered]
    rfl
  unfold printing
  dsimp only
  split
  · have ends : mainTable.marked ["--", path] = .ok [("--", .dashes), (path, .plain)] := rfl
    obtain ⟨marks, marked⟩ := mainTable_marked offered verbose whole ends
    exact invoked marked (written.read_dashes optional clear_generateTable path)
  next plain =>
    have plain := Bool.eq_false_iff.mpr plain
    have ends : mainTable.marked [] = .ok [] := rfl
    obtain ⟨marks, marked⟩ := mainTable_marked offered verbose whole ends
    rw [List.append_nil] at marked
    have front := Table.marked_cons (Table.plain_ne_dashes plain) (Table.markOf_plain plain) marked
    exact invoked front (written.read_plain optional clear_generateTable plain)

end SourceAtlas.CommandLine
