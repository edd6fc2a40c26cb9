import SourceAtlas.Failure
import SourceAtlas.Proofs.LowerCase
import SourceAtlas.Proofs.SettingsRoot

/-!
The settings that a document gives, for every value it may hold. A value that is something and no
mapping is refused. The settings of a mapping are of the kinds that a run takes, each is governed by
one key, and a value that cannot be coerced counts as absent. Only an integer with too many digits
to be written spoils this, where its text is asked for: then there are no settings at all.
-/
namespace SourceAtlas

open Text

namespace Yaml.Value

theorem sameKey_text_iff (key : Value) (name : String) :
    key.sameKey (.text name) = true ↔ key = .text name := by
  unfold sameKey
  cases key with
  | text s => simp [number?]
  | float x => cases whole : x.whole? <;> simp [number?, whole]
  | _ => simp [number?]

def erase (name : String) (entries : List (Value × Value)) : List (Value × Value) :=
  entries.filter fun entry => !entry.1.sameKey (.text name)

theorem get?_erase_self (name : String) (entries : List (Value × Value)) :
    get? name (erase name entries) = none := by
  unfold erase
  induction entries with
  | nil => rfl
  | cons entry rest ih =>
      by_cases same : entry.1.sameKey (.text name) = true
      · rw [List.filter_cons_of_neg (by simp [same])]
        exact ih
      · rw [List.filter_cons_of_pos (by simp [same]), get?, if_neg same]
        exact ih

theorem get?_erase_of_ne {name other : String} (apart : other ≠ name)
    (entries : List (Value × Value)) : get? other (erase name entries) = get? other entries := by
  unfold erase
  induction entries with
  | nil => rfl
  | cons entry rest ih =>
      by_cases same : entry.1.sameKey (.text name) = true
      · have differs : ¬entry.1.sameKey (.text other) = true := by
          rw [sameKey_text_iff] at same ⊢
          rw [same]
          exact fun equal => apart (Value.text.inj equal).symm
        rw [List.filter_cons_of_neg (by simp [same]), ih, get?, if_neg differs]
      · rw [List.filter_cons_of_pos (by simp [same])]
        simp only [get?, ih]

theorem get?_insert_self (name : String) (value : Value) (entries : List (Value × Value)) :
    get? name (insert (.text name) value entries) = some value := by
  induction entries with
  | nil => simp [insert, get?, sameKey_text_iff]
  | cons entry rest ih =>
      by_cases same : entry.1.sameKey (.text name) = true
      · simp only [insert, same, if_true, get?]
      · simp only [insert, if_neg same, get?, ih]

theorem get?_insert_of_ne {name other : String} (apart : other ≠ name) (value : Value)
    (entries : List (Value × Value)) :
    get? other (insert (.text name) value entries) = get? other entries := by
  induction entries with
  | nil => simp [insert, get?, sameKey_text_iff, Ne.symm apart]
  | cons entry rest ih =>
      by_cases same : entry.1.sameKey (.text name) = true
      · simp only [insert, same, if_true, get?]
        rw [sameKey_text_iff] at same
        simp [same, sameKey_text_iff, Ne.symm apart]
      · simp only [insert, if_neg same, get?, ih]

end Yaml.Value

namespace Settings
open Yaml (Value)

def Unwritable (v : Value) : Prop := ∃ n : Int, v = .int n ∧ 10 ^ Decimal.digitLimit ≤ n.natAbs

def membersOf : Option Value → List Value
  | some (.list items) => items
  | _ => []

def askedOfOverride (override : Value × Value) : List Value :=
  let fields := entriesOf (some override.2)
  if fields.isEmpty then []
  else membersOf (Value.get? "ignore_dirs" fields) ++ membersOf (Value.get? "ignore_globs" fields) ++
    membersOf (Value.get? "priority_files" fields) ++ [override.1]

def asked (entries : List (Value × Value)) : List Value :=
  let output := entriesOf (Value.get? "output" entries)
  let collection := entriesOf (Value.get? "qmd" entries)
  (Value.get? "format" output).toList ++ (Value.get? "path" output).toList ++
    (Value.get? "store" output).toList ++ (Value.get? "hash" entries).toList ++
    membersOf (Value.get? "languages" entries) ++
    (entriesOf (Value.get? "adapters" entries)).flatMap askedOfOverride ++
    (Value.get? "collection" collection).toList ++ (Value.get? "context" collection).toList ++
    (Value.get? "mask" collection).toList

/-- A coercion fails exactly under a condition, and then on a number that is too long. -/
def FailsIff {α : Type} (coercion : Coercion α) (condition : Prop) : Prop :=
  (condition → coercion = .error .tooLong) ∧ (¬condition → ∃ a, coercion = .ok a)

namespace FailsIff
variable {α β : Type} {coercion : Coercion α} {p q : Prop}

theorem ok (a : α) : FailsIff (.ok a : Coercion α) False := ⟨False.elim, fun _ => ⟨a, rfl⟩⟩

theorem congr (fails : FailsIff coercion p) (same : p ↔ q) : FailsIff coercion q :=
  ⟨fun holds => fails.1 (same.mpr holds), fun fine => fails.2 fun holds => fine (same.mp holds)⟩

theorem bind {next : α → Coercion β} (first : FailsIff coercion p)
    (second : ∀ a, FailsIff (next a) q) : FailsIff (coercion >>= next) (p ∨ q) := by
  by_cases early : p
  · rw [first.1 early]
    exact ⟨fun _ => rfl, fun fine => absurd (.inl early) fine⟩
  · obtain ⟨a, done⟩ := first.2 early
    rw [done]
    exact (second a).congr (or_iff_right early).symm

theorem map (make : α → β) (first : FailsIff coercion p) :
    FailsIff (coercion >>= fun a => pure (make a)) p :=
  (first.bind fun a => ok (make a)).congr (or_iff_left id)

end FailsIff

def SomeUnwritable (values : List Value) : Prop := ∃ v ∈ values, Unwritable v

theorem someUnwritable_append (first second : List Value) :
    SomeUnwritable (first ++ second) ↔ SomeUnwritable first ∨ SomeUnwritable second := by
  simp only [SomeUnwritable, List.mem_append, or_and_right, exists_or]

theorem someUnwritable_singleton (v : Value) : SomeUnwritable [v] ↔ Unwritable v := by
  simp [SomeUnwritable]

theorem not_someUnwritable_nil : ¬SomeUnwritable [] := by simp [SomeUnwritable]

theorem scalarText_fails (v : Value) : FailsIff v.scalarText (Unwritable v) := by
  cases v with
  | int n =>
      have same : Unwritable (.int n) ↔ 10 ^ Decimal.digitLimit ≤ n.natAbs := by
        simp [Unwritable]
      refine FailsIff.congr ?_ same.symm
      unfold Value.scalarText Decimal.writeInteger
      rw [Nat.pow_eq]
      generalize 10 ^ Decimal.digitLimit = limit
      constructor
      · intro long
        exact if_neg (Nat.not_lt.mpr long)
      · intro short
        exact ⟨_, if_pos (Nat.not_le.mp short)⟩
  | _ => exact (FailsIff.ok _).congr (by simp [Unwritable])

theorem textOf_fails (v : Option Value) : FailsIff (textOf v) (SomeUnwritable v.toList) := by
  cases v with
  | none => exact (FailsIff.ok none).congr (iff_of_false id not_someUnwritable_nil)
  | some v =>
      refine FailsIff.congr ?_ (someUnwritable_singleton v).symm
      change FailsIff (if hasText v then v.scalarText.map some else .ok none) _
      split
      · exact (scalarText_fails v).map some
      next plain =>
        refine (FailsIff.ok none).congr (iff_of_false id ?_)
        rintro ⟨n, rfl, _⟩
        exact plain rfl

theorem choiceOf_fails (names : List String) (v : Option Value) :
    FailsIff (choiceOf names v) (SomeUnwritable v.toList) :=
  (textOf_fails v).map _

theorem texts_fail (values : List Value) :
    FailsIff (values.mapM (·.scalarText)) (SomeUnwritable values) := by
  induction values with
  | nil => exact (FailsIff.ok []).congr (iff_of_false id not_someUnwritable_nil)
  | cons v rest ih =>
      rw [List.mapM_cons]
      refine ((scalarText_fails v).bind fun text => ih.map (text :: ·)).congr ?_
      rw [← someUnwritable_singleton, ← someUnwritable_append, List.singleton_append]

theorem textsOf_fails (v : Option Value) : FailsIff (textsOf v) (SomeUnwritable (membersOf v)) := by
  have none {α : Type} (a : α) : FailsIff (.ok a : Coercion α) (SomeUnwritable []) :=
    (FailsIff.ok a).congr (iff_of_false id not_someUnwritable_nil)
  unfold textsOf
  split
  · exact none _
  next items =>
    refine (texts_fail _).congr ?_
    simp only [SomeUnwritable, membersOf, List.mem_filter]
    constructor
    · rintro ⟨v, ⟨member, _⟩, long⟩
      exact ⟨v, member, long⟩
    · rintro ⟨v, member, n, rfl, long⟩
      exact ⟨.int n, ⟨member, rfl⟩, n, rfl, long⟩
  · exact none _
  next unlisted _ =>
    unfold membersOf
    split
    · exact (unlisted _ rfl).elim
    · exact none _

theorem overrideOf_fails (fields : List (Value × Value)) :
    FailsIff (overrideOf fields)
      (SomeUnwritable (membersOf (Value.get? "ignore_dirs" fields) ++
        membersOf (Value.get? "ignore_globs" fields) ++
        membersOf (Value.get? "priority_files" fields))) := by
  refine FailsIff.congr ((textsOf_fails _).bind fun _ => (textsOf_fails _).bind fun _ =>
    (textsOf_fails _).map _) ?_
  simp only [someUnwritable_append, or_assoc]

theorem override_fails (overrides : Overrides) (override : Value × Value) :
    FailsIff (do
      let fields := entriesOf (some override.2)
      if fields.isEmpty then return overrides
      let made ← overrideOf fields
      return insertOverride (lower (← override.1.scalarText)) made overrides)
      (SomeUnwritable (askedOfOverride override)) := by
  unfold askedOfOverride
  dsimp only
  split
  · exact (FailsIff.ok overrides).congr (iff_of_false id not_someUnwritable_nil)
  · refine FailsIff.congr ((overrideOf_fails _).bind fun _ => (scalarText_fails _).map _) ?_
    rw [← someUnwritable_singleton, ← someUnwritable_append]

theorem overridesOf_fails (entries : List (Value × Value)) :
    FailsIff (overridesOf entries) (SomeUnwritable (entries.flatMap askedOfOverride)) := by
  unfold overridesOf
  generalize ([] : Overrides) = start
  induction entries generalizing start with
  | nil => exact (FailsIff.ok start).congr (iff_of_false id not_someUnwritable_nil)
  | cons override rest ih =>
      rw [List.foldlM_cons, List.flatMap_cons]
      exact ((override_fails start override).bind ih).congr (someUnwritable_append _ _).symm

theorem collectionOf_fails (entries : List (Value × Value)) :
    FailsIff (collectionOf entries)
      (SomeUnwritable ((Value.get? "collection" entries).toList ++
        (Value.get? "context" entries).toList ++ (Value.get? "mask" entries).toList)) := by
  cases entries with
  | nil => exact (FailsIff.ok none).congr (iff_of_false id not_someUnwritable_nil)
  | cons entry rest =>
      refine FailsIff.congr ((textOf_fails _).bind fun _ => (textOf_fails _).bind fun _ =>
        (textOf_fails _).map _) ?_
      simp only [someUnwritable_append, or_assoc]

/-- The entries of a document give settings unless the text of an integer is asked for that has too
many digits. -/
theorem ofEntries_fails (root : Path) (entries : List (Value × Value)) :
    FailsIff (ofEntries root entries) (SomeUnwritable (asked entries)) := by
  refine FailsIff.congr ((choiceOf_fails _ _).bind fun _ => (textOf_fails _).bind fun _ =>
    (choiceOf_fails _ _).bind fun _ => (choiceOf_fails _ _).bind fun _ =>
    (textsOf_fails _).bind fun _ => (overridesOf_fails _).bind fun _ =>
    (collectionOf_fails _).map _) ?_
  simp only [asked, someUnwritable_append, or_assoc]

/-- How the entries of a document give each of the settings. -/
structure FromEntries (root : Path) (entries : List (Value × Value)) (settings : Settings) :
    Prop where
  root : settings.root = root
  noKey : settings.encryptionKey = none
  tier : ∃ chosen, choiceOf tierNames
      (Value.get? "format" (entriesOf (Value.get? "output" entries))) = .ok chosen ∧
    settings.tier = chosen.getD "structured"
  outputPath : textOf (Value.get? "path" (entriesOf (Value.get? "output" entries))) =
    .ok settings.outputPath
  store : ∃ chosen, choiceOf storeNames
      (Value.get? "store" (entriesOf (Value.get? "output" entries))) = .ok chosen ∧
    settings.store = chosen.getD "repo"
  maxOutputKb : settings.maxOutputKb =
    (positiveOf (Value.get? "max_kb" (entriesOf (Value.get? "output" entries)))).getD 100
  hashAlgorithm : ∃ chosen, choiceOf hashNames (Value.get? "hash" entries) = .ok chosen ∧
    settings.hashAlgorithm = chosen.getD "xxhash"
  maxCandidates : settings.maxCandidates =
    (positiveOf (Value.get? "max_candidates" entries)).getD 100
  languages : ∃ names, textsOf (Value.get? "languages" entries) = .ok names ∧
    settings.languages = names.map lower
  overrides : overridesOf (entriesOf (Value.get? "adapters" entries)) = .ok settings.overrides
  encrypt : settings.encrypt = truthOf (Value.get? "encrypt" entries)
  collection : collectionOf (entriesOf (Value.get? "qmd" entries)) = .ok settings.collection
  verbose : settings.verbose = truthOf (Value.get? "verbose" entries)

theorem fromEntries_of_ofEntries {root : Path} {entries : List (Value × Value)}
    {settings : Settings} (done : ofEntries root entries = .ok settings) :
    FromEntries root entries settings := by
  unfold ofEntries at done
  obtain ⟨tier, chosenTier, done⟩ := exists_of_bind done
  obtain ⟨outputPath, givenPath, done⟩ := exists_of_bind done
  obtain ⟨store, chosenStore, done⟩ := exists_of_bind done
  obtain ⟨hash, chosenHash, done⟩ := exists_of_bind done
  obtain ⟨languages, given, done⟩ := exists_of_bind done
  obtain ⟨overrides, made, done⟩ := exists_of_bind done
  obtain ⟨collection, registered, done⟩ := exists_of_bind done
  cases done
  exact {
    root := rfl
    noKey := rfl
    tier := ⟨tier, chosenTier, rfl⟩
    outputPath := givenPath
    store := ⟨store, chosenStore, rfl⟩
    maxOutputKb := rfl
    hashAlgorithm := ⟨hash, chosenHash, rfl⟩
    maxCandidates := rfl
    languages := ⟨languages, given, rfl⟩
    overrides := made
    encrypt := rfl
    collection := registered
    verbose := rfl }

/-- Every setting is of the kind that a run takes. -/
structure Sound (settings : Settings) : Prop where
  tier : settings.tier ∈ tierNames
  store : settings.store ∈ storeNames
  hashAlgorithm : settings.hashAlgorithm ∈ hashNames
  maxCandidates : 1 ≤ settings.maxCandidates
  maxOutputKb : 1 ≤ settings.maxOutputKb
  languages : ∀ name ∈ settings.languages, lower name = name
  overrides : ∀ entry ∈ settings.overrides, lower entry.1 = entry.1
  collection : ∀ c, settings.collection = some c → ∃ name, c.collection = some name ∧ name ≠ ""

theorem choice_mem {names : List String} {v : Option Value} {chosen : Option String}
    (done : choiceOf names v = .ok chosen) {standard : String} (listed : standard ∈ names) :
    chosen.getD standard ∈ names := by
  obtain ⟨text, _, done⟩ := exists_of_bind done
  cases done
  cases kept : (text.map fun text => lower (strip text)).filter names.contains with
  | none => exact listed
  | some name =>
      have ⟨_, passed⟩ := Option.filter_eq_some_iff.mp kept
      exact List.contains_iff_mem.mp passed

theorem positive_getD (v : Option Value) {standard : Int} (positive : 1 ≤ standard) :
    1 ≤ (positiveOf v).getD standard := by
  cases given : positiveOf v with
  | none => exact positive
  | some n =>
      have ⟨_, passed⟩ := Option.filter_eq_some_iff.mp given
      exact of_decide_eq_true passed

theorem mem_insertOverride {name : String} {override : Override} {overrides : Overrides}
    {entry : String × Override} (member : entry ∈ insertOverride name override overrides) :
    entry.1 = name ∨ entry ∈ overrides := by
  induction overrides with
  | nil => exact .inl (congrArg Prod.fst (List.mem_singleton.mp member))
  | cons first rest ih =>
      unfold insertOverride at member
      split at member
      next same =>
        rcases List.mem_cons.mp member with rfl | later
        · exact .inl (eq_of_beq same)
        · exact .inr (List.mem_cons_of_mem _ later)
      · rcases List.mem_cons.mp member with rfl | later
        · exact .inr List.mem_cons_self
        · exact (ih later).imp_right (List.mem_cons_of_mem _)

theorem lower_of_mem_overridesOf {entries : List (Value × Value)} {overrides : Overrides}
    (done : overridesOf entries = .ok overrides) :
    ∀ entry ∈ overrides, lower entry.1 = entry.1 := by
  unfold overridesOf at done
  have start : ∀ entry ∈ ([] : Overrides), lower entry.1 = entry.1 := List.forall_mem_nil _
  generalize ([] : Overrides) = before at done start
  -- what has been taken over so far is in lower case, and so is the next name
  induction entries generalizing before with
  | nil =>
      cases done
      exact start
  | cons override rest ih =>
      rw [List.foldlM_cons] at done
      obtain ⟨next, step, done⟩ := exists_of_bind done
      refine ih next done ?_
      dsimp only at step
      split at step
      · cases step
        exact start
      · obtain ⟨made, _, step⟩ := exists_of_bind step
        obtain ⟨text, _, step⟩ := exists_of_bind step
        cases step
        intro entry member
        rcases mem_insertOverride member with named | earlier
        · rw [named, lower_lower]
        · exact start entry earlier

theorem named_of_collectionOf {entries : List (Value × Value)} {c : CollectionSettings}
    (done : collectionOf entries = .ok (some c)) :
    ∃ name, c.collection = some name ∧ name ≠ "" := by
  unfold collectionOf at done
  split at done
  · cases done
  · obtain ⟨collection, _, done⟩ := exists_of_bind done
    obtain ⟨context, _, done⟩ := exists_of_bind done
    obtain ⟨mask, _, done⟩ := exists_of_bind done
    dsimp only at done
    split at done
    · cases done
    next named =>
      cases done
      cases collection with
      | none => exact absurd rfl named
      | some name =>
          refine ⟨name, rfl, ?_⟩
          rintro rfl
          exact named rfl

theorem FromEntries.sound {root : Path} {entries : List (Value × Value)} {settings : Settings}
    (given : FromEntries root entries settings) : Sound settings where
  tier := by
    obtain ⟨chosen, done, same⟩ := given.tier
    rw [same]
    exact choice_mem done (by decide)
  store := by
    obtain ⟨chosen, done, same⟩ := given.store
    rw [same]
    exact choice_mem done (by decide)
  hashAlgorithm := by
    obtain ⟨chosen, done, same⟩ := given.hashAlgorithm
    rw [same]
    exact choice_mem done (by decide)
  maxCandidates := by
    rw [given.maxCandidates]
    exact positive_getD _ (by decide)
  maxOutputKb := by
    rw [given.maxOutputKb]
    exact positive_getD _ (by decide)
  languages := by
    obtain ⟨names, _, same⟩ := given.languages
    rw [same]
    intro name member
    obtain ⟨text, _, rfl⟩ := List.mem_map.mp member
    exact lower_lower text
  overrides := lower_of_mem_overridesOf given.overrides
  collection c is := named_of_collectionOf (is ▸ given.collection)

/-- The settings with those that a key governs taken from others. -/
def adopting (settings : Settings) (key : String) (others : Settings) : Settings :=
  match key with
  | "output" => { settings with
      tier := others.tier
      outputPath := others.outputPath
      store := others.store
      maxOutputKb := others.maxOutputKb }
  | "hash" => { settings with hashAlgorithm := others.hashAlgorithm }
  | "max_candidates" => { settings with maxCandidates := others.maxCandidates }
  | "languages" => { settings with languages := others.languages }
  | "adapters" => { settings with overrides := others.overrides }
  | "encrypt" => { settings with encrypt := others.encrypt }
  | "qmd" => { settings with collection := others.collection }
  | "verbose" => { settings with verbose := others.verbose }
  | _ => settings

theorem same_choice {names : List String} {standard a b : String} {v : Option Value}
    (first : ∃ chosen, choiceOf names v = .ok chosen ∧ a = chosen.getD standard)
    (second : ∃ chosen, choiceOf names v = .ok chosen ∧ b = chosen.getD standard) : a = b := by
  obtain ⟨chosen, done, rfl⟩ := first
  obtain ⟨again, redone, rfl⟩ := second
  cases done.symm.trans redone
  rfl

namespace FromEntries
variable {root : Path} {entries others : List (Value × Value)} {s t : Settings}
  (first : FromEntries root entries s) (second : FromEntries root others t)
include first second

theorem output_eq (same : Value.get? "output" others = Value.get? "output" entries) :
    t.tier = s.tier ∧ t.outputPath = s.outputPath ∧ t.store = s.store ∧
      t.maxOutputKb = s.maxOutputKb := by
  obtain ⟨_, _, tier, path, store, maxKb, _⟩ := second
  rw [same] at tier path store maxKb
  exact ⟨same_choice tier first.tier, Except.ok.inj (path.symm.trans first.outputPath),
    same_choice store first.store, maxKb.trans first.maxOutputKb.symm⟩

theorem hash_eq (same : Value.get? "hash" others = Value.get? "hash" entries) :
    t.hashAlgorithm = s.hashAlgorithm :=
  same_choice (same ▸ second.hashAlgorithm) first.hashAlgorithm

theorem maxCandidates_eq
    (same : Value.get? "max_candidates" others = Value.get? "max_candidates" entries) :
    t.maxCandidates = s.maxCandidates := by
  rw [first.maxCandidates, second.maxCandidates, same]

theorem languages_eq (same : Value.get? "languages" others = Value.get? "languages" entries) :
    t.languages = s.languages := by
  obtain ⟨names, done, is⟩ := first.languages
  obtain ⟨again, redone, is'⟩ := second.languages
  rw [same] at redone
  rw [is, is', Except.ok.inj (redone.symm.trans done)]

theorem overrides_eq (same : Value.get? "adapters" others = Value.get? "adapters" entries) :
    t.overrides = s.overrides :=
  Except.ok.inj (second.overrides.symm.trans (same ▸ first.overrides))

theorem encrypt_eq (same : Value.get? "encrypt" others = Value.get? "encrypt" entries) :
    t.encrypt = s.encrypt := by
  rw [first.encrypt, second.encrypt, same]

theorem collection_eq (same : Value.get? "qmd" others = Value.get? "qmd" entries) :
    t.collection = s.collection :=
  Except.ok.inj (second.collection.symm.trans (same ▸ first.collection))

theorem verbose_eq (same : Value.get? "verbose" others = Value.get? "verbose" entries) :
    t.verbose = s.verbose := by
  rw [first.verbose, second.verbose, same]

theorem eq_adopting {key : String}
    (same : ∀ name, name ≠ key → Value.get? name others = Value.get? name entries) :
    t = s.adopting key t := by
  have rooted : t.root = s.root := second.root.trans first.root.symm
  have keyless : t.encryptionKey = s.encryptionKey := second.noKey.trans first.noKey.symm
  have output (apart : "output" ≠ key) := first.output_eq second (same _ apart)
  have hash (apart : "hash" ≠ key) := first.hash_eq second (same _ apart)
  have maxCandidates (apart : "max_candidates" ≠ key) :=
    first.maxCandidates_eq second (same _ apart)
  have languages (apart : "languages" ≠ key) := first.languages_eq second (same _ apart)
  have overrides (apart : "adapters" ≠ key) := first.overrides_eq second (same _ apart)
  have encrypt (apart : "encrypt" ≠ key) := first.encrypt_eq second (same _ apart)
  have collection (apart : "qmd" ≠ key) := first.collection_eq second (same _ apart)
  have verbose (apart : "verbose" ≠ key) := first.verbose_eq second (same _ apart)
  cases s
  cases t
  unfold adopting
  split <;> simp_all [eq_comm]

end FromEntries

/-- The keys with a standard value that stands in for a refused one. -/
inductive Fallback
  | format
  | store
  | maxKb
  | hash
  | maxCandidates
  | encrypt
  | verbose

namespace Fallback

def name : Fallback → String
  | format => "format"
  | store => "store"
  | maxKb => "max_kb"
  | hash => "hash"
  | maxCandidates => "max_candidates"
  | encrypt => "encrypt"
  | verbose => "verbose"

def inOutput : Fallback → Bool
  | format | store | maxKb => true
  | hash | maxCandidates | encrypt | verbose => false

def value? (key : Fallback) (entries : List (Value × Value)) : Option Value :=
  Value.get? key.name (if key.inOutput then entriesOf (Value.get? "output" entries) else entries)

def without (key : Fallback) (entries : List (Value × Value)) : List (Value × Value) :=
  if key.inOutput then
    let output := entriesOf (Value.get? "output" entries)
    Value.insert (.text "output") (.mapping (Value.erase key.name output)) entries
  else Value.erase key.name entries

def Refuses : Fallback → Value → Prop
  | format, v => choiceOf tierNames (some v) = .ok none
  | store, v => choiceOf storeNames (some v) = .ok none
  | hash, v => choiceOf hashNames (some v) = .ok none
  | maxKb, v | maxCandidates, v => positiveOf (some v) = none
  | encrypt, v | verbose, v => (∀ b, v ≠ .bool b) ∧
      ∀ s, v = .text s → lower (strip s) ∉ ["true", "yes", "1", "false", "no", "0"]

end Fallback

theorem truthOf_of_refuses {v : Value} (noBool : ∀ b, v ≠ .bool b)
    (noText : ∀ s, v = .text s → lower (strip s) ∉ ["true", "yes", "1", "false", "no", "0"]) :
    truthOf (some v) = false := by
  cases v with
  | bool b => exact absurd rfl (noBool b)
  | text s =>
      have none := noText s rfl
      simp only [List.mem_cons, not_or] at none
      obtain ⟨notTrue, notYes, notOne, _⟩ := none
      simp [truthOf, notTrue, notYes, notOne]
  | _ => rfl

theorem entriesOf_mapping (entries : List (Value × Value)) :
    entriesOf (some (.mapping entries)) = entries := rfl

theorem ofEntries_without (root : Path) {key : Fallback} {entries : List (Value × Value)}
    {v : Value} (present : key.value? entries = some v) (refused : key.Refuses v) :
    ofEntries root (key.without entries) = ofEntries root entries := by
  cases key with
  | format | store | maxKb =>
      simp only [Fallback.value?, Fallback.inOutput, Fallback.name, if_true] at present
      simp only [Fallback.Refuses] at refused
      simp (disch := decide) only [ofEntries, Fallback.without, Fallback.inOutput, Fallback.name,
        if_true, Value.get?_insert_self, Value.get?_insert_of_ne, entriesOf_mapping,
        Value.get?_erase_self, Value.get?_erase_of_ne, present, refused]
      rfl
  | hash | maxCandidates =>
      simp only [Fallback.value?, Fallback.inOutput, Fallback.name, ↓reduceIte,
        Bool.false_eq_true] at present
      simp only [Fallback.Refuses] at refused
      simp (disch := decide) only [ofEntries, Fallback.without, Fallback.inOutput, Fallback.name,
        ↓reduceIte, Bool.false_eq_true, Value.get?_erase_self, Value.get?_erase_of_ne, present,
        refused]
      rfl
  | encrypt | verbose =>
      simp only [Fallback.value?, Fallback.inOutput, Fallback.name, ↓reduceIte,
        Bool.false_eq_true] at present
      have refused := truthOf_of_refuses refused.1 refused.2
      simp (disch := decide) only [ofEntries, Fallback.without, Fallback.inOutput, Fallback.name,
        ↓reduceIte, Bool.false_eq_true, Value.get?_erase_self, Value.get?_erase_of_ne, present,
        refused]
      rfl

theorem ofValue_mapping (root : Path) (entries : List (Value × Value)) :
    ofValue root (.mapping entries) =
      match ofEntries root entries with
      | .ok settings => .ok settings
      | .error fault => .error (.numeral fault) := by
  cases entries with
  | nil => rfl
  | cons entry rest => rfl

theorem ofValue_nothing (root : Path) {v : Value} (nothing : v.isSomething = false) :
    ofValue root v = .ok { root := root } := by
  unfold ofValue
  rw [nothing]
  rfl

theorem ofValue_notAMapping (root : Path) {v : Value} (something : v.isSomething = true)
    (other : ∀ entries, v ≠ .mapping entries) : ofValue root v = .error .notAMapping := by
  unfold ofValue
  rw [something]
  cases v with
  | mapping entries => exact absurd rfl (other entries)
  | _ => rfl

theorem ofEntries_of_ofValue {root : Path} {entries : List (Value × Value)} {settings : Settings}
    (done : ofValue root (.mapping entries) = .ok settings) :
    ofEntries root entries = .ok settings := by
  rw [ofValue_mapping] at done
  cases made : ofEntries root entries with
  | ok other =>
      rw [made] at done
      cases done
      rfl
  | error fault =>
      rw [made] at done
      cases done

/-- A value gives settings in one of three ways: it is something and no mapping, it asks for the
text of an integer that cannot be written, or it gives settings that a run can take. -/
theorem ofValue_cases (root : Path) (v : Value) :
    (v.isSomething = true ∧ (∀ entries, v ≠ .mapping entries) ∧
      ofValue root v = .error .notAMapping) ∨
    (∃ entries, v = .mapping entries ∧ SomeUnwritable (asked entries) ∧
      ofValue root v = .error (.numeral .tooLong)) ∨
    (¬(v.isSomething = true ∧ ∀ entries, v ≠ .mapping entries) ∧
      (∀ entries, v = .mapping entries → ¬SomeUnwritable (asked entries)) ∧
      ∃ settings, ofValue root v = .ok settings ∧ settings.root = root ∧ settings.Sound) := by
  by_cases isMapping : ∃ entries, v = .mapping entries
  · obtain ⟨entries, rfl⟩ := isMapping
    have fails := ofEntries_fails root entries
    by_cases long : SomeUnwritable (asked entries)
    · refine .inr (.inl ⟨entries, rfl, long, ?_⟩)
      rw [ofValue_mapping, fails.1 long]
    · obtain ⟨settings, done⟩ := fails.2 long
      have given := fromEntries_of_ofEntries done
      refine .inr (.inr ⟨fun other => other.2 entries rfl, ?_, settings, ?_, given.root,
        given.sound⟩)
      · rintro others same
        cases same
        exact long
      · rw [ofValue_mapping, done]
  · have other : ∀ entries, v ≠ .mapping entries := fun entries same => isMapping ⟨entries, same⟩
    by_cases something : v.isSomething = true
    · exact .inl ⟨something, other, ofValue_notAMapping root something other⟩
    · have given : FromEntries root [] { root := root } := fromEntries_of_ofEntries rfl
      refine .inr (.inr ⟨fun both => something both.1, fun entries same => absurd same (other _),
        _, ofValue_nothing root (Bool.eq_false_iff.mpr something), rfl, given.sound⟩)

/-- What the text of a file is read as; a blank one is nothing. -/
inductive Reads (text : String) : Value → Prop
  | blank : (strip (universalLines text)).isEmpty = true → Reads text .null
  | document {v : Value} : (strip (universalLines text)).isEmpty = false →
      Yaml.load (universalLines text) = .ok v → Reads text v

/-- The file of settings for a path is in the directory `root` and holds a value. -/
def Holds (site : Site) (path root : Path) (v : Value) : Prop :=
  ∃ file content text, fileFor site path = .ok file ∧ site.resolve file.parent = .ok root ∧
    site.exists? file = .ok true ∧ site.read file = .ok content ∧
    Utf8.decode content = .ok text ∧ Reads text v

theorem ofBytes_of_reads (root : Path) {content : Bytes} {text : String} {v : Value}
    (decoded : Utf8.decode content = .ok text) (loaded : Reads text v) :
    ofBytes root content = ofValue root v := by
  rw [ofBytes, decoded]
  dsimp only
  cases loaded with
  | blank blank =>
      rw [if_pos blank]
      rfl
  | document written loaded => rw [if_neg (Bool.eq_false_iff.mp written), loaded]

def Contains (site : Site) (path root : Path) (content : Bytes) : Prop :=
  ∃ file, fileFor site path = .ok file ∧ site.resolve file.parent = .ok root ∧
    site.exists? file = .ok true ∧ site.read file = .ok content

theorem load_of_contains {site : Site} {path root : Path} {content : Bytes}
    (contains : Contains site path root content) : load site path = ofBytes root content := by
  obtain ⟨file, located, rooted, present, read⟩ := contains
  unfold load
  rw [located]
  change (liftPath (site.resolve file.parent) >>= _) = _
  rw [rooted]
  change (liftOs (site.exists? file) >>= _) = _
  rw [present]
  change (liftOs (site.read file) >>= _) = _
  rw [read]
  rfl

theorem load_of_holds {site : Site} {path root : Path} {v : Value}
    (holds : Holds site path root v) : load site path = ofValue root v := by
  obtain ⟨file, content, text, located, rooted, present, read, decoded, loaded⟩ := holds
  rw [load_of_contains ⟨file, located, rooted, present, read⟩, ofBytes_of_reads root decoded loaded]

/-- What settings a document gives, by its value. Only a value that is something and no mapping is
refused as a document. A mapping that asks for the text of an integer with too many digits gives no
settings either, although each of its keys has a standard value. Every other value gives settings of
the kinds that a run takes. Each of these is governed by one key, and a refused value under a key
with a standard value counts as absent. -/
theorem load_by_value {site : Site} {path root : Path} {v : Value}
    (holds : Holds site path root v) :
    ((∃ fault, load site path = .error fault ∧ fault.kind = .configuration) ↔
      v.isSomething = true ∧ ∀ entries, v ≠ .mapping entries) ∧
    (load site path = .error (.numeral .tooLong) ↔
      ∃ entries, v = .mapping entries ∧ SomeUnwritable (asked entries)) ∧
    ((¬(v.isSomething = true ∧ ∀ entries, v ≠ .mapping entries) ∧
        ∀ entries, v = .mapping entries → ¬SomeUnwritable (asked entries)) →
      ∃ settings, load site path = .ok settings ∧ settings.root = root ∧ settings.Sound) ∧
    (∀ entries, v = .mapping entries → ∀ site' path' others,
      Holds site' path' root (.mapping others) →
        ∀ key, (∀ name, name ≠ key → Value.get? name others = Value.get? name entries) →
          ∀ s t, load site path = .ok s → load site' path' = .ok t → t = s.adopting key t) ∧
    ∀ entries, v = .mapping entries → ∀ site' path' (key : Fallback),
      Holds site' path' root (.mapping (key.without entries)) →
        ∀ value, key.value? entries = some value → key.Refuses value →
          load site' path' = load site path := by
  rw [load_of_holds holds]
  refine ⟨?_, ?_, ?_, ?_, ?_⟩
  · constructor
    · rintro ⟨fault, failed, kind⟩
      rcases ofValue_cases root v with ⟨something, other, _⟩ | ⟨_, _, _, long⟩ | ⟨_, _, _, done, _⟩
      · exact ⟨something, other⟩
      · cases failed.symm.trans long
        cases kind
      · cases failed.symm.trans done
    · rintro ⟨something, other⟩
      exact ⟨_, ofValue_notAMapping root something other, rfl⟩
  · constructor
    · intro failed
      rcases ofValue_cases root v with ⟨_, _, refused⟩ | ⟨entries, is, long, _⟩ |
        ⟨_, _, _, done, _⟩
      · cases failed.symm.trans refused
      · exact ⟨entries, is, long⟩
      · cases failed.symm.trans done
    · rintro ⟨entries, rfl, long⟩
      rw [ofValue_mapping, (ofEntries_fails root entries).1 long]
  · rintro ⟨notRefused, short⟩
    rcases ofValue_cases root v with ⟨something, other, _⟩ | ⟨entries, is, long, _⟩ | ⟨_, _, given⟩
    · exact absurd ⟨something, other⟩ notRefused
    · exact absurd long (short entries is)
    · exact given
  · rintro entries rfl site' path' others holds' key same s t first second
    rw [load_of_holds holds'] at second
    exact (fromEntries_of_ofEntries (ofEntries_of_ofValue first)).eq_adopting
      (fromEntries_of_ofEntries (ofEntries_of_ofValue second)) same
  · rintro entries rfl site' path' key holds' value present refused
    rw [load_of_holds holds', ofValue_mapping, ofValue_mapping,
      ofEntries_without root present refused]

theorem contains_of_file {site : Site} {place : Place} {entries : List (String × Item)}
    {content : Bytes} (fits : Fits (.ofPlace (place ++ [settingsName]))) (down : ".." ∉ place)
    (found : site.root.get? place = some (.directory entries))
    (there : entries.lookup settingsName = some (.file content))
    (readable : site.unreadable.contains (place ++ [settingsName]) = false) :
    Contains site (.ofPlace place) (.ofPlace place) content := by
  have child : (Path.ofPlace place).child settingsName = .ofPlace (place ++ [settingsName]) :=
    properName_settingsName.child _
  have downward : ".." ∉ place ++ [settingsName] := by
    rw [List.mem_append, not_or]
    exact ⟨down, by decide⟩
  have located := Site.locate_file fits downward found there .existing
  obtain ⟨_, way⟩ := exists_way Reach.noConfusion located
  refine ⟨.ofPlace (place ++ [settingsName]), ?_, ?_, ?_, ?_⟩
  · rw [fileFor_directory rfl (Site.isDirectory_directory fits.above down found), child,
      Site.resolve_of_way fits.clean way]
    rfl
  · rw [Site.parent_ofPlace, Site.resolve_directory fits.above down found]
  · rw [Site.exists?, Site.probe_eq fits.clean (Site.item_file fits downward found there)]
    rfl
  · exact Site.read_file fits downward found there readable

theorem holds_of_file {site : Site} {place : Place} {entries : List (String × Item)}
    {content : Bytes} {text : String} {v : Value}
    (fits : Fits (.ofPlace (place ++ [settingsName]))) (down : ".." ∉ place)
    (found : site.root.get? place = some (.directory entries))
    (there : entries.lookup settingsName = some (.file content))
    (readable : site.unreadable.contains (place ++ [settingsName]) = false)
    (decoded : Utf8.decode content = .ok text) (loaded : Reads text v) :
    Holds site (.ofPlace place) (.ofPlace place) v := by
  obtain ⟨file, located, rooted, present, read⟩ := contains_of_file fits down found there readable
  exact ⟨file, content, text, located, rooted, present, read, decoded, loaded⟩

def settledSite (text : String) : Site where
  root := .directory [("app", .directory [(settingsName, .file (Utf8.encode text))])]

theorem settledSite_holds {text : String} {v : Value}
    (decoded : Utf8.decode (Utf8.encode text) = .ok text) (loaded : Reads text v) :
    Holds (settledSite text) (.ofPlace ["app"]) (.ofPlace ["app"]) v :=
  holds_of_file ⟨by decide, by decide, by decide⟩ (by decide) rfl rfl rfl decoded loaded

def shortTexts : Value → Option (List (String × String))
  | .mapping [] => some []
  | .mapping [(.text key, .text value)] => some [(key, value)]
  | _ => none

theorem eq_of_shortTexts {v : Value} {texts : List (String × String)}
    (short : shortTexts v = some texts) :
    v = .mapping (texts.map fun entry => (.text entry.1, .text entry.2)) := by
  unfold shortTexts at short
  split at short <;> cases short <;> rfl

theorem reads_of_shortTexts {text : String} {texts : List (String × String)}
    (filled : (strip (universalLines text)).isEmpty = false)
    (loaded : (Yaml.load (universalLines text)).toOption.bind shortTexts = some texts) :
    Reads text (.mapping (texts.map fun entry => (.text entry.1, .text entry.2))) := by
  obtain ⟨v, loaded, short⟩ := Option.bind_eq_some_iff.mp loaded
  rw [← eq_of_shortTexts short]
  exact .document filled (toOption_eq_some.mp loaded)

theorem reads_samples :
    Reads "{}" (.mapping []) ∧ Reads "hash: md5" (.mapping [(.text "hash", .text "md5")]) :=
  ⟨@reads_of_shortTexts "{}" [] (by decide +kernel) (by decide +kernel),
    @reads_of_shortTexts "hash: md5" [("hash", "md5")] (by decide +kernel) (by decide +kernel)⟩

theorem unknownHash_settings :
    load (settledSite "hash: md5") (.ofPlace ["app"]) = load (settledSite "{}") (.ofPlace ["app"]) ∧
    (∃ settings, load (settledSite "hash: md5") (.ofPlace ["app"]) = .ok settings ∧
      settings.root = .ofPlace ["app"] ∧ settings.Sound) ∧
    ∀ n : Nat, 10 ^ Decimal.digitLimit ≤ n →
      ∀ site path root, Holds site path root (.mapping [(.text "hash", .int n)]) →
        load site path = .error (.numeral .tooLong) := by
  have empty := settledSite_holds (toOption_eq_some.mp (by decide +kernel)) reads_samples.1
  have unknown := settledSite_holds (toOption_eq_some.mp (by decide +kernel)) reads_samples.2
  have refused : Fallback.hash.Refuses (.text "md5") := toOption_eq_some.mp (by decide +kernel)
  have texts : asked [(.text "hash", .text "md5")] = [.text "md5"] := rfl
  obtain ⟨_, _, sound, _, absent⟩ := load_by_value unknown
  refine ⟨(absent _ rfl _ _ .hash empty (.text "md5") rfl refused).symm, sound ⟨?_, ?_⟩, ?_⟩
  · rintro ⟨_, other⟩
    exact other _ rfl
  · rintro entries same
    cases same
    rw [texts, someUnwritable_singleton]
    rintro ⟨n, is, _⟩
    cases is
  · intro n long site path root holds
    exact (load_by_value holds).2.1.mpr ⟨_, rfl, .int n, List.mem_cons_self, n, rfl, long⟩

end Settings
end SourceAtlas
