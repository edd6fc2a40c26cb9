import SourceAtlas.Collection
import SourceAtlas.Proofs.IndexingValue
import SourceAtlas.Proofs.TextPieces

/-!
How the program that keeps collections is called. It is asked for its status, and the collection is
updated or created after that; a context and embeddings follow where they are asked for. Whatever
the program answers, only a collection that cannot be created ends a registration early, and no
registration shows in an index.
-/
namespace SourceAtlas.Collection

open Text

/-- A text begins with the key, a colon and the name of a collection in quotes, with blanks around
the colon. -/
def Names (collection : String) (text : List Char) : Prop :=
  ∃ blanks gap after, text = "\"name\"".toList ++ (blanks ++ [':'] ++
      (gap ++ ('"' :: collection.toList ++ ['"']) ++ after)) ∧
    (∀ c ∈ blanks, isBlank c = true) ∧ ∀ c ∈ gap, isBlank c = true

def Lists (collection : String) (text : List Char) : Prop :=
  ∃ rest, rest <:+ text ∧ Names collection rest

theorem blanksThen_eq_some_iff {first : Char} {more text rest : List Char}
    (solid : isBlank first = false) : blanksThen (first :: more) text = some rest ↔
      ∃ blanks, text = blanks ++ (first :: more) ++ rest ∧ ∀ c ∈ blanks, isBlank c = true := by
  unfold blanksThen
  rw [dropFront?_eq_some_iff]
  constructor
  · intro dropped
    refine ⟨text.takeWhile isBlank, ?_, fun c => List.mem_takeWhile_imp⟩
    rw [List.append_assoc, ← dropped, List.takeWhile_append_dropWhile]
  · rintro ⟨blanks, rfl, blank⟩
    rw [List.append_assoc, List.dropWhile_append_of_pos blank, List.cons_append,
      List.dropWhile_cons_of_neg (by simp [solid])]

theorem names_iff (collection : String) (text : List Char) :
    (((dropFront? "\"name\"".toList text).bind (blanksThen [':'])).bind
      (blanksThen ('"' :: collection.toList ++ ['"']))).isSome = true ↔ Names collection text := by
  have colon : isBlank ':' = false := by decide
  have quote : isBlank '"' = false := by decide
  simp only [Option.isSome_iff_exists, Option.bind_eq_some_iff, dropFront?_eq_some_iff,
    List.cons_append, blanksThen_eq_some_iff colon, blanksThen_eq_some_iff quote]
  constructor
  · rintro ⟨after, _, ⟨_, rfl, blanks, rfl, blank⟩, gap, rfl, free⟩
    exact ⟨blanks, gap, after, rfl, blank, free⟩
  · rintro ⟨blanks, gap, after, rfl, blank, free⟩
    exact ⟨after, _, ⟨_, rfl, blanks, rfl, blank⟩, gap, rfl, free⟩

theorem isListed_iff (collection : String) (text : List Char) :
    isListed collection text = true ↔ Lists collection text := by
  induction text with
  | nil =>
      refine iff_of_false Bool.false_ne_true ?_
      rintro ⟨rest, back, _, _, _, rfl, _⟩
      simp at back
  | cons c rest ih =>
      rw [isListed, Bool.or_eq_true, names_iff, ih]
      unfold Lists
      simp only [List.suffix_cons_iff, or_and_right, exists_or, exists_eq_left]

/-- The program gives output, exits, is late or is not started; nothing else goes wrong. -/
def Tame (program : Program) : Prop := ∀ made reason, program made ≠ .fault reason

/-- Work makes these calls and has this result, whatever has been called and noted before. -/
def Makes {α : Type} (work : Registering α) (calls : List Call) (result : Except Failure α) :
    Prop :=
  ∀ trace, ∃ journal,
    StateT.run (ExceptT.run work) trace = (result, ⟨trace.calls ++ calls, journal⟩)

section Work
variable {α β : Type}

theorem makes_pure (a : α) : Makes (pure a) [] (.ok a) :=
  fun trace => ⟨trace.journal, by rw [List.append_nil]; rfl⟩

theorem makes_throw (failure : Failure) :
    Makes (throw failure : Registering α) [] (.error failure) :=
  fun trace => ⟨trace.journal, by rw [List.append_nil]; rfl⟩

theorem makes_note (record : Record) : Makes (note record) [] (.ok ()) :=
  fun trace => ⟨trace.journal ++ [record], by rw [List.append_nil]; rfl⟩

theorem Makes.seq {work : Registering α} {next : α → Registering β} {a : α}
    {result : Except Failure β} {first later : List Call} (one : Makes work first (.ok a))
    (two : Makes (next a) later result) : Makes (work >>= next) (first ++ later) result := by
  intro trace
  obtain ⟨noted, ran⟩ := one trace
  obtain ⟨journal, went⟩ := two ⟨trace.calls ++ first, noted⟩
  refine ⟨journal, ?_⟩
  rw [run_bind, ran, ← List.append_assoc]
  exact went

theorem Makes.stop {work : Registering α} {failure : Failure} {calls : List Call}
    (failed : Makes work calls (.error failure)) (next : α → Registering β) :
    Makes (work >>= next) calls (.error failure) := by
  intro trace
  obtain ⟨noted, ran⟩ := failed trace
  exact ⟨noted, by rw [run_bind, ran]⟩

theorem makes_call {program : Program} (tame : Tame program) {made : Call} {outcome : Outcome}
    (answered : program made = outcome) {next : Outcome → Registering β} {later : List Call}
    {result : Except Failure β} (goes : Makes (next outcome) later result) :
    Makes (call program made.args made.timeout >>= next) (made :: later) result := by
  have asked : Makes (call program made.args made.timeout) [made] (.ok outcome) := by
    intro trace
    refine ⟨trace.journal, ?_⟩
    unfold call
    dsimp only
    cases outcome with
    | fault reason => exact absurd answered (tame _ reason)
    | output | exit | late | notStarted => rw [answered]; rfl
  exact asked.seq goes

end Work

def statusCall (qmd : String) : Call := ⟨[qmd, "status", "--json"], 10⟩

def updateCall (qmd collection : String) : Call := ⟨[qmd, "update", "-c", collection], 60⟩

def creationCall (settings : CollectionSettings) (index : Path) (qmd collection : String) : Call :=
  ⟨[qmd, "collection", "add", index.parent.toText, "--name", collection, "--mask",
    maskFor settings index], 60⟩

def laterCalls (settings : CollectionSettings) (qmd collection : String) : List Call :=
  let context := settings.context.getD ""
  (if context = "" then []
    else [⟨[qmd, "context", "add", "qmd://" ++ collection, context], 10⟩]) ++
  if settings.embed then [⟨[qmd, "embed", "-c", collection], 600⟩] else []

def Known (program : Program) (qmd collection : String) : Prop :=
  ∃ text, program (statusCall qmd) = .output text ∧ Lists collection text.toList

/-- How a collection fails to be created. -/
inductive Refuses : Outcome → Failure → Prop
  | late : Refuses .late .creationLate
  | exit (command : String) (code : Int) (stdout stderr : String) :
      Refuses (.exit command code stdout stderr)
        (.creation (exitReport command code stdout stderr))
  | notStarted (reason : String) : Refuses (.notStarted reason) (.creation reason)

theorem Refuses.ne_output {outcome : Outcome} {failure : Failure}
    (refuses : Refuses outcome failure) (text : String) : outcome ≠ .output text := by
  cases refuses <;> nofun

theorem Refuses.ne_fault {outcome : Outcome} {failure : Failure} (refuses : Refuses outcome failure)
    (reason : String) : failure ≠ .fault reason := by
  cases refuses <;> nofun

/-- How a registration goes, from where the program was found: the calls that are made, and what
they come to. -/
inductive Course (settings : CollectionSettings) (collection : String) (program : Program)
    (index : Path) (qmd : Option String) : List Call → Except Failure Bool → Prop
  | absent (missing : qmd.getD "" = "") :
      Course settings collection program index qmd [] (.error .notInstalled)
  | updated (found : qmd.getD "" ≠ "") (known : Known program (qmd.getD "") collection) :
      Course settings collection program index qmd
        (statusCall (qmd.getD "") :: updateCall (qmd.getD "") collection ::
          laterCalls settings (qmd.getD "") collection) (.ok true)
  | created {text : String} (found : qmd.getD "" ≠ "")
      (unknown : ¬ Known program (qmd.getD "") collection)
      (made : program (creationCall settings index (qmd.getD "") collection) = .output text) :
      Course settings collection program index qmd
        (statusCall (qmd.getD "") :: creationCall settings index (qmd.getD "") collection ::
          laterCalls settings (qmd.getD "") collection) (.ok true)
  | refused {failure : Failure} (found : qmd.getD "" ≠ "")
      (unknown : ¬ Known program (qmd.getD "") collection)
      (refuses : Refuses (program (creationCall settings index (qmd.getD "") collection)) failure) :
      Course settings collection program index qmd
        [statusCall (qmd.getD ""), creationCall settings index (qmd.getD "") collection]
        (.error failure)

theorem maskFor_ne_empty (settings : CollectionSettings) (index : Path) :
    (maskFor settings index).isEmpty = false := by
  have unset : (maskFor.defaultMask index).isEmpty = false := by
    unfold maskFor.defaultMask
    split
    · rename_i named
      -- an index that has the ending has a name
      cases empty : index.name.isEmpty with
      | false => rfl
      | true =>
          rw [Path.ending, String.isEmpty_iff.mp empty] at named
          exact absurd named (by decide)
    · decide
  unfold maskFor
  cases settings.mask with
  | none => exact unset
  | some mask =>
      cases empty : mask.isEmpty with
      | true => simpa [empty] using unset
      | false => simp [empty]

section Steps
variable {program : Program} (tame : Tame program) (settings : CollectionSettings)
  (qmd collection : String)

include tame in
theorem makes_exists : ∃ known, Makes (exists_ program qmd collection) [statusCall qmd]
    (.ok known) ∧ (known = true ↔ Known program qmd collection) := by
  unfold exists_ Known
  cases answered : program (statusCall qmd) with
  | output text =>
      refine ⟨isListed collection text.toList, makes_call tame answered (makes_pure _), ?_⟩
      rw [isListed_iff]
      simp
  | exit | late | notStarted | fault =>
      exact ⟨false, makes_call tame answered (makes_pure _), by simp⟩

include tame in
theorem makes_attempt (args : List String) (timeout : Nat) (complaint : String) :
    Makes (attempt program args timeout complaint) [⟨args, timeout⟩] (.ok ()) := by
  unfold attempt
  cases answered : program ⟨args, timeout⟩ with
  | late | exit | notStarted => exact makes_call tame answered (makes_note _)
  | output | fault => exact makes_call tame answered (makes_pure ())

include tame in
theorem makes_create (index : Path) :
    (∃ text, program (creationCall settings index qmd collection) = .output text ∧
      Makes (create program qmd collection index.parent.toText (maskFor settings index))
        [creationCall settings index qmd collection] (.ok ())) ∨
    ∃ failure, Refuses (program (creationCall settings index qmd collection)) failure ∧
      Makes (create program qmd collection index.parent.toText (maskFor settings index))
        [creationCall settings index qmd collection] (.error failure) := by
  unfold create
  rw [maskFor_ne_empty]
  cases answered : program (creationCall settings index qmd collection) with
  | output text => exact .inl ⟨text, rfl, makes_call tame answered (makes_pure ())⟩
  | late => exact .inr ⟨_, .late, makes_call tame answered (makes_throw _)⟩
  | exit => exact .inr ⟨_, .exit .., makes_call tame answered (makes_throw _)⟩
  | notStarted => exact .inr ⟨_, .notStarted _, makes_call tame answered (makes_throw _)⟩
  | fault reason => exact absurd answered (tame _ reason)

def embedding (program : Program) (settings : CollectionSettings) (qmd collection : String) :
    Registering Bool := do
  if settings.embed then
    note (.info "qmd" "Running qmd embed (this may take a while)")
    attempt program [qmd, "embed", "-c", collection] embedTimeout "qmd embed failed"
  note (.info "qmd" s!"Registered with qmd as collection '{collection}'")
  return true

def finish (program : Program) (settings : CollectionSettings) (qmd collection : String) :
    Registering Bool := do
  let context := settings.context.getD ""
  if !context.isEmpty then
    attempt program [qmd, "context", "add", "qmd://" ++ collection, context] contextTimeout
      "Failed to add qmd context"
  embedding program settings qmd collection

include tame in
theorem makes_embedding : Makes (embedding program settings qmd collection)
    (if settings.embed then [⟨[qmd, "embed", "-c", collection], 600⟩] else []) (.ok true) := by
  unfold embedding
  cases settings.embed with
  | true =>
      refine (makes_note _).seq ((makes_attempt tame _ _ _).seq ?_)
      exact (makes_note _).seq (makes_pure true)
  | false => exact (makes_note _).seq (makes_pure true)

include tame in
theorem makes_finish : Makes (finish program settings qmd collection)
    (laterCalls settings qmd collection) (.ok true) := by
  have embedded := makes_embedding tame settings qmd collection
  unfold finish laterCalls
  dsimp only
  by_cases bare : settings.context.getD "" = ""
  · rw [bare, if_pos rfl]
    exact embedded
  · have full : (!(settings.context.getD "").isEmpty) = true := by simp [bare]
    rw [if_neg bare, if_pos full]
    exact (makes_attempt tame _ _ _).seq embedded

end Steps

theorem register_course {settings : CollectionSettings} {collection : String}
    (configured : settings.collection = some collection) (named : collection ≠ "")
    {program : Program} (tame : Tame program) (qmd : Option String) (index : Path) :
    ∃ calls result, Makes (register (some settings) qmd program index) calls result ∧
      Course settings collection program index qmd calls result := by
  unfold register
  have name : settings.collection.getD "" = collection := by rw [configured]; rfl
  have full : collection.isEmpty = false := by simp [named]
  dsimp only
  rw [name, full, if_neg Bool.false_ne_true]
  by_cases missing : qmd.getD "" = ""
  · rw [missing]
    exact ⟨_, _, (makes_throw _).stop _, .absent missing⟩
  have found : (qmd.getD "").isEmpty = false := by simp [missing]
  rw [found, if_neg Bool.false_ne_true]
  obtain ⟨known, asked, told⟩ := makes_exists tame (qmd.getD "") collection
  have finished := makes_finish tame settings (qmd.getD "") collection
  cases known with
  | true =>
      refine ⟨_, _, (makes_note _).seq (asked.seq ?_), .updated missing (told.mp rfl)⟩
      exact (makes_note _).seq ((makes_attempt tame _ _ _).seq finished)
  | false =>
      have unknown : ¬ Known program (qmd.getD "") collection :=
        fun known => Bool.false_ne_true (told.mpr known)
      rcases makes_create tame settings (qmd.getD "") collection index with
        ⟨text, made, created⟩ | ⟨failure, refuses, failed⟩
      · exact ⟨_, _, (makes_note _).seq (asked.seq (created.seq finished)),
          .created missing unknown made⟩
      · exact ⟨_, _, (makes_note _).seq (asked.seq (failed.stop _)),
          .refused missing unknown refuses⟩

section Runs
variable {indexing : Settings} {settings : CollectionSettings} {collection : String}
  {outside : Surroundings} (kept : indexing.collection = some settings)
  (configured : settings.collection = some collection) (named : collection ≠ "")
  (tame : Tame outside.program)

include kept configured named tame in
theorem registered_ok (index : Path) :
    ∃ calls, Indexing.registered indexing outside index = .ok calls := by
  obtain ⟨calls, result, makes, course⟩ :=
    register_course configured named tame outside.collector index
  obtain ⟨journal, ran⟩ := makes {}
  have started : (register (some settings) outside.collector outside.program index).run.run {} =
    (result, ⟨[] ++ calls, journal⟩) := ran
  unfold Indexing.registered
  rw [kept]
  dsimp only
  rw [started]
  cases course with
  | absent | updated | created => exact ⟨_, rfl⟩
  | @refused failure _ _ refuses =>
      cases failure with
      | fault reason => exact absurd rfl (refuses.ne_fault reason)
      | notInstalled | creationLate | creation => exact ⟨_, rfl⟩

include kept configured named tame in
theorem register_alike (index : Path) (result : IndexResult) : Act.Alike Prod.fst
    (do return (result, ← Indexing.register indexing outside index))
    (do return (result, ← Indexing.register { indexing with collection := none } outside
      index)) := by
  obtain ⟨calls, done⟩ := registered_ok kept configured named tame index
  refine Act.alike_of_does (a := (result, calls)) (b := (result, [])) (fun site => ?_)
    (fun site => ?_) rfl
  · have does := Indexing.register_does indexing outside index site
    rw [done] at does
    exact does.seq (Act.does_pure _)
  · have does := Indexing.register_does { indexing with collection := none } outside index site
    exact does.seq (Act.does_pure _)

theorem generateAt_unregistered (registry : Registry) (site : Site) (indexing : Settings)
    (room : Nat) (now : Moment) (root : Path) :
    Indexing.generateAt registry site { indexing with collection := none } room now root =
      Indexing.generateAt registry site indexing room now root := by
  unfold Indexing.generateAt Indexing.selectAdapters
  dsimp only

include kept configured named tame in
theorem run_alike (registry : Registry) :
    Act.Alike Prod.fst (Indexing.run registry indexing outside)
      (Indexing.run registry { indexing with collection := none } outside) := by
  unfold Indexing.run
  -- up to the registration both runs are the same work, which does not look at the collection
  refine .after Act.site fun site => .after (Store.ofPath (Indexing.rootOf site indexing))
    fun root => ?_
  rw [generateAt_unregistered]
  refine .after _ fun result => ?_
  have stored : Act.Alike Prod.fst _ _ :=
    .after ((Indexing.storeOf site indexing root).write outside.entropy result.content)
      fun written => register_alike kept configured named tame written
        { result with outputPath := some written.toText }
  dsimp only
  rw [show Indexing.storeOf site { indexing with collection := none } root =
    Indexing.storeOf site indexing root from rfl]
  cases (Indexing.storeOf site indexing root).isKnown with
  | true => exact stored
  | false => exact .after _ fun _ => stored

end Runs

/-- The calls of a registration and their order, what is an error and what is only noted, for every
program that does nothing but answer, exit, come late or not start; and however it behaves, the run
has the result and leaves the site that it has and leaves without any collection. -/
theorem registration_protocol {settings : CollectionSettings} {collection : String}
    (configured : settings.collection = some collection) (named : collection ≠ "")
    {program : Program} (tame : Tame program) :
    (∀ qmd index, ∃ calls result journal,
      (register (some settings) qmd program index).run.run {} = (result, ⟨calls, journal⟩) ∧
      Course settings collection program index qmd calls result ∧
      ((∃ failure, result = .error failure) ↔ qmd.getD "" = "" ∨
        ¬ Known program (qmd.getD "") collection ∧
          ∀ text, program (creationCall settings index (qmd.getD "") collection) ≠ .output text)) ∧
    ∀ registry indexing outside site, indexing.collection = some settings →
      outside.program = program →
      let ran := (Indexing.run registry indexing outside).outcome site
      let bare := (Indexing.run registry { indexing with collection := none } outside).outcome site
      ran.1.map Prod.fst = bare.1.map Prod.fst ∧ ran.2.site = bare.2.site := by
  refine ⟨fun qmd index => ?_, fun registry indexing outside site kept same => ?_⟩
  · obtain ⟨calls, result, makes, course⟩ := register_course configured named tame qmd index
    obtain ⟨journal, ran⟩ := makes {}
    refine ⟨calls, result, journal, ran, course, ?_⟩
    cases course with
    | absent missing => exact iff_of_true ⟨_, rfl⟩ (.inl missing)
    | updated found known => exact iff_of_false nofun (not_or.mpr ⟨found, fun no => no.1 known⟩)
    | created found _ made => exact iff_of_false nofun (not_or.mpr ⟨found, fun no => no.2 _ made⟩)
    | refused _ unknown refuses => exact iff_of_true ⟨_, rfl⟩ (.inr ⟨unknown, refuses.ne_output⟩)
  · have alike := run_alike kept configured named (same ▸ tame) registry
    exact alike.outcome site

def atlasSettings : CollectionSettings where
  collection := some "atlas"
  embed := true
  context := some "maps"

def listing : Program
  | ⟨_ :: "status" :: _, _⟩ => .output "\"name\" : \"atlas\""
  | ⟨_ :: "update" :: _, _⟩ => .late
  | ⟨_ :: "context" :: _, _⟩ => .exit "qmd" 1 "" ""
  | _ => .notStarted "no embeddings"

theorem listing_registers :
    atlasSettings.collection = some "atlas" ∧ "atlas" ≠ "" ∧ Tame listing ∧
    ∃ journal, (register (some atlasSettings) (some "/usr/bin/qmd") listing
        (.ofText "/repo/atlas.md")).run.run {} =
      (.ok true, ⟨[⟨["/usr/bin/qmd", "status", "--json"], 10⟩,
        ⟨["/usr/bin/qmd", "update", "-c", "atlas"], 60⟩,
        ⟨["/usr/bin/qmd", "context", "add", "qmd://atlas", "maps"], 10⟩,
        ⟨["/usr/bin/qmd", "embed", "-c", "atlas"], 600⟩], journal⟩) := by
  have configured : atlasSettings.collection = some "atlas" := rfl
  have tame : Tame listing := by
    intro made reason
    unfold listing
    split <;> nofun
  have known : Known listing "/usr/bin/qmd" "atlas" :=
    ⟨_, rfl, (isListed_iff _ _).mp (by decide)⟩
  obtain ⟨calls, result, journal, ran, course, _⟩ :=
    (registration_protocol configured (by decide) tame).1 (some "/usr/bin/qmd")
      (.ofText "/repo/atlas.md")
  refine ⟨configured, by decide, tame, journal, ran.trans ?_⟩
  cases course with
  | absent missing => exact absurd missing (by decide)
  | updated => rfl
  | created _ unknown => exact absurd known unknown
  | refused _ unknown => exact absurd known unknown

end SourceAtlas.Collection
