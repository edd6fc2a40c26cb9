import Mathlib.Data.Fin.VecNotation
import Mathlib.Logic.Function.Basic
import Mathlib.Tactic.Set
import SourceAtlas.Indexing
import SourceAtlas.Proofs.NotedWork
import SourceAtlas.Proofs.SiteWrites

/-!
Symbols are read for the candidates one after the other and written into entries that others hold as
well. What a candidate gets is told by its own path, the adapter of its language and the front of
its own file, so neither the other candidates nor their order show in it; and nothing else changes.
-/
namespace SourceAtlas.SymbolReading

open Text Indexing

/-- The last adapter of a list with the name of a language. A file without a language has that of
the empty name, which no registered adapter has. -/
def Speaks (adapters : List Adapter) (language : Option String) (adapter : Adapter) : Prop :=
  ∃ before after, adapters = before ++ adapter :: after ∧ adapter.name = language.getD "" ∧
    ∀ other ∈ after, other.name ≠ adapter.name

/-- The table of a file: what the adapter of its language reads from the front of it, and the empty
one where there is no such adapter, the file cannot be read or the adapter fails. -/
inductive TableOf (room : Nat) (adapters : List Adapter) (language : Option String) (path : String)
    (front : Except OsError Bytes) : SymbolTable → Prop
  | unknown (unspoken : ∀ adapter ∈ adapters, adapter.name ≠ language.getD "") :
      TableOf room adapters language path front {}
  | unreadable {error : OsError} (failed : front = .error error) :
      TableOf room adapters language path front {}
  | failed {adapter : Adapter} {content : Bytes} {reason : String}
      (speaks : Speaks adapters language adapter) (opened : front = .ok content)
      (raised : adapter.read (room - 2) path content = .error reason) :
      TableOf room adapters language path front {}
  | read {adapter : Adapter} {content : Bytes} {extraction : Extraction}
      (speaks : Speaks adapters language adapter) (opened : front = .ok content)
      (done : adapter.read (room - 2) path content = .ok extraction) :
      TableOf room adapters language path front extraction.table

section Tables
variable {room : Nat} {adapters : List Adapter} {language : Option String}

theorem adapterOf?_eq_none_iff :
    adapterOf? adapters language = none ↔
      ∀ adapter ∈ adapters, adapter.name ≠ language.getD "" := by
  simp only [adapterOf?, List.find?_eq_none, List.mem_reverse, beq_iff_eq, ne_eq]

theorem adapterOf?_eq_some_iff {adapter : Adapter} :
    adapterOf? adapters language = some adapter ↔ Speaks adapters language adapter := by
  unfold adapterOf?
  rw [List.find?_eq_some_iff_append]
  constructor
  · rintro ⟨same, after, before, parts, others⟩
    have whole : adapters = before.reverse ++ adapter :: after.reverse := by
      rw [← List.reverse_reverse adapters, parts]
      simp
    rw [beq_iff_eq] at same
    refine ⟨before.reverse, after.reverse, whole, same, fun other later => ?_⟩
    simpa [same] using others other (List.mem_reverse.mp later)
  · rintro ⟨before, after, rfl, same, others⟩
    refine ⟨beq_iff_eq.mpr same, after.reverse, before.reverse, by simp, fun other later => ?_⟩
    simpa [same] using others other (List.mem_reverse.mp later)

def tableFrom (room : Nat) (path : String) :
    Option Adapter → Except OsError Bytes → SymbolTable
  | some adapter, .ok content => (attempt room adapter path content).1
  | _, _ => {}

theorem tableOf_iff {path : String} {front : Except OsError Bytes} {table : SymbolTable} :
    TableOf room adapters language path front table ↔
      table = tableFrom room path (adapterOf? adapters language) front := by
  constructor
  · intro told
    cases told with
    | unknown unspoken => rw [adapterOf?_eq_none_iff.mpr unspoken]; rfl
    | unreadable failed => rw [failed]; cases adapterOf? adapters language <;> rfl
    | failed speaks opened raised =>
        rw [adapterOf?_eq_some_iff.mpr speaks, opened, tableFrom, attempt, raised]
    | read speaks opened done =>
        rw [adapterOf?_eq_some_iff.mpr speaks, opened, tableFrom, attempt, done]
  · rintro rfl
    cases spoken : adapterOf? adapters language with
    | none => exact .unknown (adapterOf?_eq_none_iff.mp spoken)
    | some adapter =>
        have speaks := adapterOf?_eq_some_iff.mp spoken
        cases front with
        | error error => exact .unreadable rfl
        | ok content =>
            rw [tableFrom, attempt]
            cases done : adapter.read (room - 2) path content with
            | error reason => exact .failed speaks rfl done
            | ok extraction => exact .read speaks rfl done

def frontOf (site : Site) (root : Path) (path : String) : Except OsError Bytes :=
  (site.read (root.child path)).map (·.take (32 * 1024))

def Barred (root : Path) (adapters : List Adapter) (entry : Entry) : Prop :=
  (∃ adapter, Speaks adapters entry.language adapter) ∧ hasNul (root.child entry.path) = true

theorem symbolsOf_barred (room : Nat) (site : Site) {root : Path} {entry : Entry}
    (barred : Barred root adapters entry) :
    symbolsOf room site root adapters entry = .error .embeddedNul := by
  obtain ⟨⟨adapter, speaks⟩, nul⟩ := barred
  unfold symbolsOf
  simp only [adapterOf?_eq_some_iff.mpr speaks, nul, if_true]

theorem symbolsOf_free (room : Nat) (site : Site) {root : Path} {entry : Entry}
    (free : ¬ Barred root adapters entry) :
    ∃ notes, symbolsOf room site root adapters entry =
      .ok (tableFrom room entry.path (adapterOf? adapters entry.language)
        (frontOf site root entry.path), notes) := by
  unfold symbolsOf frontOf
  cases spoken : adapterOf? adapters entry.language with
  | none => exact ⟨_, rfl⟩
  | some adapter =>
      have clean : hasNul (root.child entry.path) = false := by
        by_contra nul
        exact free ⟨⟨adapter, adapterOf?_eq_some_iff.mp spoken⟩, by simpa using nul⟩
      simp only [clean, Bool.false_eq_true, if_false]
      cases site.read (root.child entry.path) with
      | error => exact ⟨_, rfl⟩
      | ok => exact ⟨_, rfl⟩

end Tables

/-- The candidates read in turn, with their tables written into entries that others may hold. What
has been written stays there when the reading stops. -/
def attachInto {ι : Type} [DecidableEq ι] (room : Nat) (site : Site) (root : Path)
    (adapters : List Adapter) :
    List ι → (ι → Entry) → Except PathFault Unit × (ι → Entry) × Journal
  | [], entries => (.ok (), entries, [])
  | i :: rest, entries =>
      match symbolsOf room site root adapters (entries i) with
      | .error fault => (.error fault, entries, [])
      | .ok (table, notes) =>
          let (result, after, later) := attachInto room site root adapters rest
            (Function.update entries i { entries i with symbols := some table })
          (result, after, notes ++ later)

section Run
variable {ι : Type} [DecidableEq ι] {room : Nat} {site : Site} {root : Path}
  {adapters : List Adapter}

def withTable (room : Nat) (site : Site) (root : Path) (adapters : List Adapter) (entry : Entry) :
    Entry :=
  { entry with symbols := some (tableFrom room entry.path (adapterOf? adapters entry.language)
      (frontOf site root entry.path)) }

def notesOf (room : Nat) (site : Site) (root : Path) (adapters : List Adapter) (entry : Entry) :
    Journal :=
  ((symbolsOf room site root adapters entry).map (·.2)).toOption.getD []

theorem symbolsOf_eq {entry : Entry} (free : ¬ Barred root adapters entry) :
    symbolsOf room site root adapters entry =
      .ok ((tableFrom room entry.path (adapterOf? adapters entry.language)
        (frontOf site root entry.path)), notesOf room site root adapters entry) := by
  obtain ⟨notes, told⟩ := symbolsOf_free room site free
  rw [notesOf, told]
  rfl

theorem notesOf_congr {first second : Entry} (path : first.path = second.path)
    (language : first.language = second.language) :
    notesOf room site root adapters first = notesOf room site root adapters second := by
  unfold notesOf symbolsOf
  rw [path, language]

theorem barred_congr {first second : Entry} (path : first.path = second.path)
    (language : first.language = second.language) :
    Barred root adapters first ↔ Barred root adapters second := by
  unfold Barred
  rw [path, language]

theorem withTable_withTable (entry : Entry) :
    withTable room site root adapters (withTable room site root adapters entry) =
      withTable room site root adapters entry := rfl

def endAt {α : Type} : List α → Except PathFault Unit
  | [] => .ok ()
  | _ :: _ => .error .embeddedNul

theorem attachInto_rest {rest : List ι} {entries : ι → Entry}
    (stops : ∀ i, rest.head? = some i → Barred root adapters (entries i)) :
    attachInto room site root adapters rest entries = (endAt rest, entries, []) := by
  cases rest with
  | nil => rfl
  | cons i rest => rw [attachInto, symbolsOf_barred room site (stops i rfl)]; rfl

variable (room site) in
theorem attachInto_append {reached rest : List ι} {entries : ι → Entry}
    (free : ∀ i ∈ reached, ¬ Barred root adapters (entries i))
    (stops : ∀ i, rest.head? = some i → Barred root adapters (entries i)) :
    attachInto room site root adapters (reached ++ rest) entries =
      (endAt rest,
        fun i => if i ∈ reached then withTable room site root adapters (entries i)
          else entries i,
        reached.flatMap fun i => notesOf room site root adapters (entries i)) := by
  induction reached generalizing entries with
  | nil => simpa using attachInto_rest stops
  | cons i reached ih =>
      set next := Function.update entries i (withTable room site root adapters (entries i))
        with step
      have own : next i = withTable room site root adapters (entries i) := Function.update_self ..
      have other {j : ι} (apart : j ≠ i) : next j = entries j := Function.update_of_ne apart ..
      have told (j : ι) : (next j).path = (entries j).path ∧
          (next j).language = (entries j).language := by
        by_cases same : j = i
        · rw [same, own]
          exact ⟨rfl, rfl⟩
        · rw [other same]
          exact ⟨rfl, rfl⟩
      have barred (j : ι) : Barred root adapters (next j) ↔ Barred root adapters (entries j) :=
        barred_congr (told j).1 (told j).2
      have notes (j : ι) : notesOf room site root adapters (next j) =
          notesOf room site root adapters (entries j) := notesOf_congr (told j).1 (told j).2
      -- a candidate may come twice: reading it again gives the same table
      have after : (fun j => if j ∈ reached then withTable room site root adapters (next j)
            else next j) =
          fun j => if j ∈ i :: reached then withTable room site root adapters (entries j)
            else entries j := by
        funext j
        by_cases same : j = i
        · rw [same, own, withTable_withTable, ite_self, if_pos List.mem_cons_self]
        · rw [other same]
          simp only [List.mem_cons, same, false_or]
      have later := @ih next
        (fun j member => (barred j).not.mpr (free j (List.mem_cons_of_mem i member)))
        (fun j first => (barred j).mpr (stops j first))
      rw [after] at later
      simp only [notes] at later
      rw [List.cons_append, attachInto, symbolsOf_eq (free i List.mem_cons_self)]
      dsimp only
      rw [← withTable, ← step, later]
      rfl

variable (room site) in
theorem attach_append {reached rest : List Entry}
    (free : ∀ entry ∈ reached, ¬ Barred root adapters entry)
    (stops : ∀ entry, rest.head? = some entry → Barred root adapters entry) :
    attach room site root adapters (reached ++ rest) =
      ((endAt rest).map fun _ => reached.map (withTable room site root adapters),
        reached.flatMap (notesOf room site root adapters)) := by
  induction reached with
  | nil =>
      cases rest with
      | nil => rfl
      | cons entry rest =>
          rw [List.nil_append, attach, symbolsOf_barred room site (stops entry rfl)]
          rfl
  | cons entry reached ih =>
      rw [List.forall_mem_cons] at free
      rw [List.cons_append, attach, symbolsOf_eq free.1]
      dsimp only
      rw [ih free.2]
      cases rest <;> rfl

omit [DecidableEq ι] in
theorem exists_reached (root : Path) (adapters : List Adapter) (candidates : List ι)
    (entries : ι → Entry) :
    ∃ reached rest, candidates = reached ++ rest ∧
      (∀ i ∈ reached, ¬ Barred root adapters (entries i)) ∧
      ∀ i, rest.head? = some i → Barred root adapters (entries i) := by
  induction candidates with
  | nil => exact ⟨[], [], rfl, nofun, nofun⟩
  | cons i candidates ih =>
      by_cases barred : Barred root adapters (entries i)
      · refine ⟨[], i :: candidates, rfl, nofun, ?_⟩
        rintro j ⟨⟩
        exact barred
      · obtain ⟨reached, rest, rfl, free, stops⟩ := ih
        exact ⟨i :: reached, rest, rfl, List.forall_mem_cons.mpr ⟨barred, free⟩, stops⟩

end Run

/-- Extraction only attaches symbols, to the candidates before the first whose path no file can have
and to nothing else, and these tell of one candidate alone: entries that others hold have afterwards
what the candidates by themselves are given, and neither more candidates of the same kind nor
another order change it. -/
theorem extraction_attaches {ι : Type} [DecidableEq ι] (room : Nat) (site : Site) (root : Path)
    (adapters : List Adapter) (candidates : List ι) (entries : ι → Entry) :
    ∃ reached rest result after notes, candidates = reached ++ rest ∧
      attachInto room site root adapters candidates entries = (result, after, notes) ∧
      (∀ i ∈ reached, ¬ Barred root adapters (entries i)) ∧
      (rest = [] ∧ result = .ok () ∨
        ∃ i later, rest = i :: later ∧ Barred root adapters (entries i) ∧
          result = .error .embeddedNul) ∧
      (∀ i ∉ reached, after i = entries i) ∧
      (∀ i ∈ reached, ∃ table, after i = { entries i with symbols := some table } ∧
        ∀ told, TableOf room adapters (entries i).language (entries i).path
          (frontOf site root (entries i).path) told ↔ told = table) ∧
      (result = .ok () → ∀ others : List ι, (∀ i, i ∈ others ↔ i ∈ candidates) → ∃ again,
        attachInto room site root adapters others entries = (.ok (), after, again)) ∧
      attach room site root adapters (candidates.map entries) =
        (result.map fun _ => candidates.map after, notes) := by
  obtain ⟨reached, rest, parts, free, stops⟩ :=
    exists_reached root adapters candidates entries
  have run := attachInto_append room site free stops
  rw [← parts] at run
  refine ⟨reached, rest, _, _, _, parts, run, free, ?_, fun i absent => if_neg absent,
    fun i member => ⟨_, if_pos member, fun told => tableOf_iff⟩, fun whole others same => ?_, ?_⟩
  · cases rest with
    | nil => exact .inl ⟨rfl, rfl⟩
    | cons i later => exact .inr ⟨i, later, rfl, stops i rfl, rfl⟩
  · cases rest with
    | cons i later => cases whole
    | nil =>
        rw [parts, List.append_nil] at same
        have nothing : ∀ i : ι, ([] : List ι).head? = some i →
            Barred root adapters (entries i) := nofun
        have again := attachInto_append room site
          (fun i member => free i ((same i).mp member)) nothing
        simp only [same, List.append_nil] at again
        exact ⟨_, again⟩
  · have apart : attach room site root adapters (reached.map entries ++ rest.map entries) = _ :=
      attach_append room site (by simpa using free) (by simpa using stops)
    rw [parts, List.map_append, apart, List.flatMap_map, List.map_map]
    cases rest with
    | cons i later => rfl
    | nil =>
        rw [List.append_nil]
        refine congrArg (·, _) (congrArg Except.ok (List.map_congr_left fun i member => ?_))
        exact (if_pos member).symm

def measuring (name : String) : Adapter where
  label := "Measuring"
  name := name
  read _ _ content := .ok { table := { constants := [toString content.length] } }

def failing (name : String) : Adapter where
  label := "Failing"
  name := name
  read _ _ _ := .error "no symbols"

def buildSite : Site where
  root := .directory [("repo", .directory
    [("Makefile", .file [97, 58, 10]), ("main.go", .file [120, 10])])]

/-- The build file, the program in two languages, a path that no file can have, and a program that is
no candidate. -/
def buildEntries : Fin 5 → Entry :=
  ![{ path := "Makefile", score := 90 }, { path := "main.go", language := some "go" },
    { path := "main.go", language := some "c" }, { path := "\x00", language := some "go" },
    { path := "other.go", language := some "go" }]

def buildAdapters : List Adapter := [measuring "", measuring "go", failing "c"]

theorem frontOf_buildSite (name : String) (content : Bytes)
    (fits : Fits (.ofPlace (["repo"] ++ [name]))) (down : ".." ∉ ["repo"] ++ [name])
    (below : (Path.ofPlace ["repo"]).child name = .ofPlace (["repo"] ++ [name]))
    (there : [("Makefile", Item.file [97, 58, 10]), ("main.go", .file [120, 10])].lookup name =
      some (.file content)) :
    frontOf buildSite (.ofPlace ["repo"]) name = .ok (content.take (32 * 1024)) := by
  have read : buildSite.read _ = _ := Site.read_file fits down rfl there rfl
  rw [frontOf, below, read]
  rfl

theorem barred_buildEntries (i : Fin 5) :
    Barred (.ofPlace ["repo"]) buildAdapters (buildEntries i) ↔ i = 3 := by
  constructor
  · rintro ⟨-, nul⟩
    revert i
    decide
  · rintro rfl
    exact ⟨⟨measuring "go", [measuring ""], [failing "c"], rfl, rfl, by decide⟩, rfl⟩

theorem buildSite_attaches :
    (buildEntries 0).language = none ∧
    ∃ after notes, attachInto 1000 buildSite (.ofPlace ["repo"]) buildAdapters [0, 1, 2, 3]
        buildEntries = (.error .embeddedNul, after, notes) ∧
      after 0 = { buildEntries 0 with symbols := some { constants := ["3"] } } ∧
      after 1 = { buildEntries 1 with symbols := some { constants := ["2"] } } ∧
      after 2 = { buildEntries 2 with symbols := some {} } ∧
      after 3 = buildEntries 3 ∧ after 4 = buildEntries 4 := by
  have rules : frontOf buildSite (.ofPlace ["repo"]) "Makefile" = .ok [97, 58, 10] :=
    frontOf_buildSite "Makefile" [97, 58, 10] ⟨by decide, by decide, by decide⟩ (by decide)
      (by decide) rfl
  have program : frontOf buildSite (.ofPlace ["repo"]) "main.go" = .ok [120, 10] :=
    frontOf_buildSite "main.go" [120, 10] ⟨by decide, by decide, by decide⟩ (by decide)
      (by decide) rfl
  obtain ⟨reached, rest, result, after, notes, parts, run, free, ends, kept, given, _, _⟩ :=
    extraction_attaches 1000 buildSite (.ofPlace ["repo"]) buildAdapters [0, 1, 2, 3] buildEntries
  simp only [barred_buildEntries] at free ends
  obtain ⟨rfl, stopped⟩ : reached = [0, 1, 2] ∧ result = .error .embeddedNul := by
    rcases ends with ⟨rfl, -⟩ | ⟨i, later, rfl, rfl, stopped⟩
    · rw [List.append_nil] at parts
      exact absurd rfl (free 3 (parts ▸ by decide))
    · obtain _ | ⟨_, _ | ⟨_, _ | ⟨_, _ | ⟨_, reached⟩⟩⟩⟩ := reached <;> simp_all
  rw [stopped] at run
  refine ⟨rfl, after, notes, run, ?_, ?_, ?_, kept 3 (by decide), kept 4 (by decide)⟩
  · obtain ⟨table, same, told⟩ := given 0 (by decide)
    rw [same, ← (told _).mp (.read ⟨[], _, rfl, rfl, by decide⟩ rules rfl)]
    rfl
  · obtain ⟨table, same, told⟩ := given 1 (by decide)
    rw [same, ← (told _).mp (.read ⟨[_], _, rfl, rfl, by decide⟩ program rfl)]
    rfl
  · obtain ⟨table, same, told⟩ := given 2 (by decide)
    rw [same, ← (told {}).mp (.failed ⟨[_, _], [], rfl, rfl, by decide⟩ program rfl)]

end SourceAtlas.SymbolReading
