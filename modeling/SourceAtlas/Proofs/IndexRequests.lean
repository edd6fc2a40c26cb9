import SourceAtlas.Proofs.CommandArguments
import SourceAtlas.Service.Payload

/-!
What may be asked of either front end, as a command line and as a body. Each is read as what it was
written for.
-/
namespace SourceAtlas.Service

open Text CommandLine

namespace IndexRequest

def labelled {α : Type} (name : String) (value : Option α) : List (String × α) :=
  (value.map fun v => (name, v)).toList

/-- What is asked of a language; nothing is asked for by no names. -/
def languageText (request : IndexRequest) : Option String :=
  if request.languages.isEmpty then none else some (join "," request.languages)

def options (request : IndexRequest) : List (String × String) :=
  labelled "--format" request.tier ++ labelled "--hash" request.hashAlgorithm ++
    labelled "--max-candidates" (request.maxCandidates.map toString) ++
    labelled "--languages" request.languageText

def commandLine (request : IndexRequest) (verbose whole : Bool) : List String :=
  printing verbose whole request.path request.options

def fields (request : IndexRequest) : List (String × Payload) :=
  labelled "path" (some (Payload.text request.path)) ++
    labelled "format" (request.tier.map Payload.text) ++
    labelled "hash_algorithm" (request.hashAlgorithm.map Payload.text) ++
    labelled "max_candidates" (request.maxCandidates.map Payload.int) ++
    labelled "languages" (some (Payload.list (request.languages.map Payload.text)))

def payload (request : IndexRequest) : Payload := .object request.fields

/-- What may be asked for: the choices there are, a positive number that can be written, and names
that are not blank and have no comma. -/
structure Allowed (request : IndexRequest) : Prop where
  tier : ∀ label ∈ request.tier, label ∈ tierNames
  hash : ∀ label ∈ request.hashAlgorithm, label ∈ hashNames
  most : ∀ n ∈ request.maxCandidates, 1 ≤ n ∧ Decimal.writeInteger n = .ok (toString n)
  languages : ∀ name ∈ request.languages, ',' ∉ name.toList ∧ strip name ≠ ""

variable {request : IndexRequest}

theorem lookup_labelled {α : Type} (name key : String) (value : Option α) :
    (labelled name value).lookup key = if key = name then value else none := by
  cases value with
  | none => simp [labelled]
  | some v =>
      simp only [labelled, Option.map_some, Option.toList_some, List.lookup_cons, List.lookup_nil]
      split <;> simp_all

theorem reverse_labelled {α : Type} (name : String) (value : Option α) :
    (labelled name value).reverse = labelled name value := by
  cases value <;> rfl

theorem forall_labelled {α : Type} {name : String} {value : Option α} {p : String × α → Prop}
    (each : ∀ v ∈ value, p (name, v)) : ∀ entry ∈ labelled name value, p entry := by
  cases value with
  | none => exact fun _ member => nomatch member
  | some v =>
      intro entry member
      rw [List.mem_singleton.mp member]
      exact each v rfl

theorem offered_value {name : String} {test : String → Except String Unit}
    (known : generateTable.Knows name ⟨[name], .value test⟩)
    (outside : (mainTable.beginning name).length ≤ 1) {value : String}
    (passes : test value = .ok ()) : Offered (name, value) where
  known := ⟨_, test, known, rfl, rfl, passes⟩
  outside := outside

theorem oneOf_passes {choices : List String} {value : String} (chosen : value ∈ choices) :
    (if choices.contains value then .ok () else .error (invalidChoice value choices) :
      Except String Unit) = .ok () :=
  if_pos (List.contains_iff_mem.mpr chosen)

theorem offered_options (allowed : request.Allowed) :
    ∀ option ∈ request.options, Offered option := by
  have format : generateTable.Knows "--format" ⟨["--format"], oneOf tierNames⟩ :=
    ⟨rfl, ⟨_, _, rfl⟩, by decide⟩
  have hash : generateTable.Knows "--hash" ⟨["--hash"], oneOf hashNames⟩ :=
    ⟨rfl, ⟨_, _, rfl⟩, by decide⟩
  have most : generateTable.Knows "--max-candidates" ⟨["--max-candidates"], positiveValue⟩ :=
    ⟨rfl, ⟨_, _, rfl⟩, by decide⟩
  have languages : generateTable.Knows "--languages" ⟨["--languages"], anyValue⟩ :=
    ⟨rfl, ⟨_, _, rfl⟩, by decide⟩
  simp only [options, List.forall_mem_append]
  refine ⟨⟨⟨forall_labelled fun label given => ?_, forall_labelled fun label given => ?_⟩,
    forall_labelled fun text given => ?_⟩, forall_labelled fun text given => ?_⟩
  · exact offered_value format (by decide) (oneOf_passes (allowed.tier label given))
  · exact offered_value hash (by decide) (oneOf_passes (allowed.hash label given))
  · obtain ⟨n, asked, rfl⟩ := Option.map_eq_some_iff.mp given
    obtain ⟨least, written⟩ := allowed.most n asked
    refine offered_value most (by decide) ?_
    rw [positive_of_written least written]
    rfl
  · exact offered_value languages (by decide) rfl

def asOptions (request : IndexRequest) : GenerateOptions where
  path := request.path
  tier := request.tier
  hashAlgorithm := request.hashAlgorithm
  maxCandidates := request.maxCandidates
  languages := request.languageText
  toStdout := true

theorem lookup_printed (verbose : Bool) {key : String} (other : key ≠ "--stdout")
    (quiet : key ≠ "--verbose") :
    (printed verbose request.options).lookup key =
      (((if key = "--languages" then request.languageText else none).or
        (if key = "--max-candidates" then request.maxCandidates.map toString else none)).or
        (if key = "--hash" then request.hashAlgorithm else none)).or
        (if key = "--format" then request.tier else none) := by
  have flags : (("--stdout", "") :: if verbose then [("--verbose", "")] else []).lookup key =
      none := by
    rw [List.lookup_cons, beq_false_of_ne other]
    cases verbose with
    | false => rfl
    | true =>
        change [("--verbose", "")].lookup key = none
        rw [List.lookup_cons, beq_false_of_ne quiet]
        rfl
  simp only [printed, options, List.reverse_append, reverse_labelled, List.lookup_append, flags,
    lookup_labelled, Option.or_none, Option.or_assoc]

theorem split_languages (allowed : request.Allowed) (filled : request.languages ≠ []) :
    split ',' (join "," request.languages) = request.languages :=
  split_join_of_free rfl filled fun name member => (allowed.languages name member).1

theorem languages_written (allowed : request.Allowed) (filled : request.languages ≠ []) :
    (join "," request.languages).isEmpty = false := by
  refine Bool.eq_false_iff.mpr fun empty => ?_
  have names := split_languages allowed filled
  rw [String.isEmpty_iff.mp empty] at names
  have blank : "" ∈ request.languages := names ▸ List.mem_singleton.mpr rfl
  exact (allowed.languages "" blank).2 rfl

theorem filter_languageText (allowed : request.Allowed) :
    request.languageText.filter (!·.isEmpty) = request.languageText := by
  unfold languageText
  split
  · rfl
  next filled =>
    have written := languages_written allowed fun none => filled (List.isEmpty_iff.mpr none)
    rw [Option.filter_some, written]
    rfl

theorem ofReading_printed (allowed : request.Allowed) (verbose : Bool) :
    GenerateOptions.ofReading (Table.readingOf (printed verbose request.options) request.path) =
      request.asOptions := by
  have number : (request.maxCandidates.map toString).bind (fun text => (positive text).toOption) =
      request.maxCandidates := by
    cases given : request.maxCandidates with
    | none => rfl
    | some n =>
        obtain ⟨least, written⟩ := allowed.most n given
        change (positive (toString n)).toOption = some n
        rw [positive_of_written least written]
        rfl
  have stdout : ((printed verbose request.options).lookup "--stdout").isSome = true := by
    simp [printed, List.lookup_append]
  have first : (Table.readingOf (printed verbose request.options) request.path).first "." =
    request.path := rfl
  simp only [GenerateOptions.ofReading, Reading.get?, Reading.nonEmpty?, Reading.has, first]
  simp [asOptions, Table.readingOf, lookup_printed, number, filter_languageText allowed, stdout]

theorem read_commandLine (allowed : request.Allowed) (verbose whole : Bool) :
    Invocation.read (request.commandLine verbose whole) =
      .ok ⟨verbose, .generate request.asOptions⟩ := by
  rw [← ofReading_printed allowed verbose]
  exact read_printing (offered_options allowed) verbose whole request.path

theorem textItems_map (name : String) (position : Nat) (texts : List String) :
    textItems name position (texts.map .text) = .ok texts := by
  induction texts generalizing position with
  | nil => rfl
  | cons text rest ih =>
      rw [List.map_cons, textItems, ih]
      rfl

theorem field_fields (name : String) : Payload.field? name request.fields =
    (if name = "languages" then some (.list (request.languages.map .text)) else none).or
      ((if name = "max_candidates" then request.maxCandidates.map .int else none).or
        ((if name = "hash_algorithm" then request.hashAlgorithm.map .text else none).or
          ((if name = "format" then request.tier.map .text else none).or
            (if name = "path" then some (.text request.path) else none)))) := by
  simp only [Payload.field?, fields, List.reverse_append, reverse_labelled, List.lookup_append,
    lookup_labelled]

theorem optional_of_field {α : Type} {read : Payload → Except Wrong α} (shape : α → Payload)
    {name : String} {fields : List (String × Payload)} {value : Option α}
    (given : Payload.field? name fields = value.map shape)
    (reads : ∀ v ∈ value, shape v ≠ .null ∧ read (shape v) = .ok v) :
    optional read name fields = .ok value := by
  unfold optional
  rw [given]
  cases value with
  | none => rfl
  | some v =>
      obtain ⟨filled, done⟩ := reads v rfl
      rw [Option.map_some]
      split
      next same => cases same
      next same => exact absurd (Option.some.inj same) filled
      next same =>
        cases same
        rw [done]

theorem ofPayload_payload (allowed : request.Allowed) :
    ofPayload (some request.payload) = .ok request := by
  have path : required Payload.asText "path" request.fields = .ok request.path := by
    unfold required
    rw [show Payload.field? "path" request.fields = some (.text request.path) by
      simp [field_fields]]
    rfl
  have tier : optional Payload.asText "format" request.fields = .ok request.tier :=
    optional_of_field Payload.text (by simp [field_fields]) fun _ _ => ⟨nofun, rfl⟩
  have hash : optional Payload.asText "hash_algorithm" request.fields =
      .ok request.hashAlgorithm :=
    optional_of_field Payload.text (by simp [field_fields]) fun _ _ => ⟨nofun, rfl⟩
  have most : optional Payload.asPositive "max_candidates" request.fields =
      .ok request.maxCandidates := by
    refine optional_of_field Payload.int (by simp [field_fields]) fun n asked => ⟨nofun, ?_⟩
    have above : n > 0 := (allowed.most n asked).1
    exact if_pos above
  have languages : textList "languages" request.fields = .ok request.languages := by
    unfold textList
    rw [show Payload.field? "languages" request.fields =
      some (.list (request.languages.map .text)) by simp [field_fields]]
    exact textItems_map _ _ _
  unfold ofPayload payload
  dsimp only
  rw [path, tier, hash, most, languages]
  rfl

end IndexRequest

end SourceAtlas.Service
