import SourceAtlas.Profiles
import SourceAtlas.Proofs.IndexNames
import SourceAtlas.Proofs.OverrideGlobs

/-!
The rules of a scan as what its adapters, their overrides and the ignore file say together. Nothing
else counts: neither the order of adapters and overrides, nor how often a pattern is named, nor the
overrides of adapters that are not active. The ignore file can only add to what is ignored.
-/
namespace SourceAtlas

open Text

theorem lookup_filter {α : Type} {entries : List (String × α)} {kept : String × α → Bool}
    {name : String} (keeps : ∀ item, kept (name, item) = true) :
    (entries.filter kept).lookup name = entries.lookup name := by
  induction entries with
  | nil => rfl
  | cons entry rest ih =>
      obtain ⟨other, item⟩ := entry
      by_cases here : name = other
      · subst here
        simp [keeps]
      · have apart : (name == other) = false := beq_false_of_ne here
        cases stays : kept (other, item) <;> simp [stays, List.lookup_cons, apart, ih]

theorem lookup_perm {α : Type} {first second : List (String × α)} (same : first.Perm second)
    (apart : (first.map Prod.fst).Nodup) (name : String) :
    first.lookup name = second.lookup name := by
  have others : (second.map Prod.fst).Nodup := (same.map Prod.fst).nodup_iff.mp apart
  refine Option.ext fun item => ?_
  constructor
  · intro found
    exact lookup_of_mem others (same.mem_iff.mp (mem_of_lookup found))
  · intro found
    exact lookup_of_mem apart (same.mem_iff.mpr (mem_of_lookup found))

namespace ScanRules

def Replaced (overrides : Overrides) (adapter : Adapter) : Prop :=
  ∃ override, overrides.lookup adapter.name = some override ∧ override.replaceDefaults = true

def Named (own : Adapter → List String) (added : Override → List String)
    (adapters : List Adapter) (overrides : Overrides) (pattern : String) : Prop :=
  (∃ adapter ∈ adapters, ¬Replaced overrides adapter ∧ pattern ∈ own adapter) ∨
    ∃ adapter ∈ adapters, ∃ override, overrides.lookup adapter.name = some override ∧
      pattern ∈ added override

/-- The rules decide as adapters, overrides and ignore file say together. -/
structure Unites (adapters : List Adapter) (overrides : Overrides) (ignored : List Rule)
    (rules : ScanRules) : Prop where
  directory : ∀ name path, rules.ignoresDirectory name path = true ↔
    name ∈ neverEntered ∨
      (∃ pattern, Named (·.ignoreDirs) (·.ignoreDirs) adapters overrides pattern ∧
        ∃ rule, directoryRule? pattern = some rule ∧ rule.holds path true = true) ∨
      Rule.ignores ignored path true = true
  file : ∀ path, rules.ignoresFile path = true ↔
    (∃ pattern, Named (·.ignoreGlobs) (·.ignoreGlobs) adapters overrides pattern ∧
      ∃ rule, Rule.build? pattern false = some rule ∧ rule.holds path false = true) ∨
      Rule.ignores ignored path false = true
  eligible : ∀ name, rules.isEligible name = true ↔ ∃ adapter ∈ adapters, adapter.takes name = true

/-- Two sets of rules ignore the same directories and files and let the same names in. -/
structure Agrees (first second : ScanRules) : Prop where
  directory : ∀ name path, first.ignoresDirectory name path = second.ignoresDirectory name path
  file : ∀ path, first.ignoresFile path = second.ignoresFile path
  eligible : ∀ name, first.isEligible name = second.isEligible name

def drawn (own : Adapter → List String) (added : Override → List String)
    (adapters : List Adapter) (overrides : Overrides) : List String :=
  (adapters.filter fun adapter =>
      !((overrides.lookup adapter.name).map (·.replaceDefaults)).getD false).flatMap own ++
    adapters.flatMap fun adapter => ((overrides.lookup adapter.name).map added).getD []

def repeating (adapters : List Adapter) (overrides : Overrides) (ignored : List Rule) :
    ScanRules where
  ignoreFile := ignored
  directories := (drawn (·.ignoreDirs) (·.ignoreDirs) adapters overrides).filterMap directoryRule?
  files := (drawn (·.ignoreGlobs) (·.ignoreGlobs) adapters overrides).filterMap (Rule.build? · false)
  extensions := (adapters.flatMap (·.extensions)).map lower
  configs := adapters.flatMap (·.configs)

variable {adapters : List Adapter} {overrides : Overrides} {ignored : List Rule}

theorem Unites.agrees {first second : ScanRules} (left : Unites adapters overrides ignored first)
    (right : Unites adapters overrides ignored second) : first.Agrees second where
  directory name path := by rw [Bool.eq_iff_iff, left.directory, right.directory]
  file path := by rw [Bool.eq_iff_iff, left.file, right.file]
  eligible name := by rw [Bool.eq_iff_iff, left.eligible, right.eligible]

theorem not_replaced_iff (overrides : Overrides) (adapter : Adapter) :
    ¬Replaced overrides adapter ↔
      ((overrides.lookup adapter.name).map (·.replaceDefaults)).getD false = false := by
  unfold Replaced
  cases overrides.lookup adapter.name <;> simp

theorem mem_added_iff (added : Override → List String) (found : Option Override)
    (pattern : String) : pattern ∈ (found.map added).getD [] ↔
      ∃ override, found = some override ∧ pattern ∈ added override := by
  cases found <;> simp

theorem mem_patterns_iff (own : Adapter → List String) (added : Override → List String)
    (pattern : String) :
    pattern ∈ patterns own added adapters overrides ↔
      Named own added adapters overrides pattern := by
  simp only [mem_patterns, Named, not_replaced_iff, mem_added_iff]

theorem any_filterMap_iff {α : Type} (items : List α) (rule? : α → Option Rule) (path : String)
    (isDirectory : Bool) :
    (items.filterMap rule?).any (·.holds path isDirectory) = true ↔
      ∃ item ∈ items, ∃ rule, rule? item = some rule ∧ rule.holds path isDirectory = true := by
  simp only [List.any_eq_true, List.mem_filterMap]
  constructor
  · rintro ⟨rule, ⟨item, member, made⟩, held⟩
    exact ⟨item, member, rule, made, held⟩
  · rintro ⟨item, member, rule, made, held⟩
    exact ⟨rule, ⟨item, member, made⟩, held⟩

theorem unites_of_mem {rules : ScanRules} {directories files : List String}
    (theirs : rules.ignoreFile = ignored)
    (dirs : rules.directories = directories.filterMap directoryRule?)
    (globs : rules.files = files.filterMap (Rule.build? · false))
    (listed : ∀ pattern, pattern ∈ directories ↔
      Named (·.ignoreDirs) (·.ignoreDirs) adapters overrides pattern)
    (spelled : ∀ pattern, pattern ∈ files ↔
      Named (·.ignoreGlobs) (·.ignoreGlobs) adapters overrides pattern)
    (taken : ∀ name, rules.isEligible name = adapters.any (·.takes name)) :
    Unites adapters overrides ignored rules where
  directory name path := by
    simp only [ignoresDirectory, Bool.or_eq_true, List.contains_iff_mem, dirs, any_filterMap_iff,
      listed, theirs, or_assoc]
  file path := by
    simp only [ignoresFile, Bool.or_eq_true, globs, any_filterMap_iff, spelled, theirs]
    exact or_comm
  eligible name := by rw [taken, List.any_eq_true]

theorem unites_compile : Unites adapters overrides ignored (compile adapters overrides ignored) :=
  unites_of_mem rfl rfl rfl (fun _ => mem_patterns_iff _ _ _) (fun _ => mem_patterns_iff _ _ _)
    (isEligible_compile adapters overrides ignored)

theorem mem_drawn_iff (own : Adapter → List String) (added : Override → List String)
    (pattern : String) :
    pattern ∈ drawn own added adapters overrides ↔
      Named own added adapters overrides pattern := by
  simp only [drawn, Named, not_replaced_iff, ← mem_added_iff, List.mem_append, List.mem_flatMap,
    List.mem_filter, Bool.not_eq_true', and_assoc]

theorem isEligible_repeating (name : String) :
    (repeating adapters overrides ignored).isEligible name = adapters.any (·.takes name) := by
  rw [← isEligible_compile adapters overrides ignored, Bool.eq_iff_iff]
  simp only [isEligible, repeating, compile, unionOf, Bool.or_eq_true, Bool.and_eq_true,
    List.contains_iff_mem, List.any_eq_true, List.mem_map, mem_distinct]

theorem unites_repeating :
    Unites adapters overrides ignored (repeating adapters overrides ignored) :=
  unites_of_mem rfl rfl rfl (fun _ => mem_drawn_iff _ _ _) (fun _ => mem_drawn_iff _ _ _)
    isEligible_repeating

theorem compile_congr {others : Overrides}
    (same : ∀ adapter ∈ adapters, others.lookup adapter.name = overrides.lookup adapter.name) :
    compile adapters others ignored = compile adapters overrides ignored := by
  have drawn (own : Adapter → List String) (added : Override → List String) :
      patterns own added adapters others = patterns own added adapters overrides := by
    have kept : (adapters.filter fun adapter =>
        !((others.lookup adapter.name).map (·.replaceDefaults)).getD false) =
          adapters.filter fun adapter =>
            !((overrides.lookup adapter.name).map (·.replaceDefaults)).getD false :=
      List.filter_congr fun adapter active => by rw [same adapter active]
    have more : (adapters.flatMap fun adapter =>
        ((others.lookup adapter.name).map added).getD []) =
          adapters.flatMap fun adapter => ((overrides.lookup adapter.name).map added).getD [] :=
      List.flatMap_congr fun adapter active => by rw [same adapter active]
    simp only [patterns, kept, more]
  simp only [compile, drawn]

theorem compile_filter : compile adapters
      (overrides.filter fun entry => adapters.any (·.name == entry.1)) ignored =
    compile adapters overrides ignored := by
  refine compile_congr fun adapter active => lookup_filter fun override => ?_
  exact List.any_eq_true.mpr ⟨adapter, active, beq_self_eq_true _⟩

theorem named_congr {others : List Adapter} {more : Overrides} (listed : adapters.Perm others)
    (found : ∀ name, more.lookup name = overrides.lookup name) (own : Adapter → List String)
    (added : Override → List String) (pattern : String) :
    Named own added others more pattern ↔ Named own added adapters overrides pattern := by
  simp only [Named, Replaced, found, listed.mem_iff]

theorem agrees_of_perm {others : List Adapter} {more : Overrides} (listed : adapters.Perm others)
    (permuted : overrides.Perm more) (apart : (overrides.map Prod.fst).Nodup) :
    (compile others more ignored).Agrees (compile adapters overrides ignored) := by
  have found (name : String) : more.lookup name = overrides.lookup name :=
    (lookup_perm permuted apart name).symm
  have there : Unites others more ignored (compile others more ignored) := unites_compile
  have moved : Unites adapters overrides ignored (compile others more ignored) := by
    constructor
    · intro name path
      simp only [there.directory, named_congr listed found]
    · intro path
      simp only [there.file, named_congr listed found]
    · intro name
      simp only [there.eligible, listed.mem_iff]
  exact moved.agrees unites_compile

/-- The rules of a scan ignore what is never entered, what a pattern of an active adapter or of its
override names, and what the last rule of the ignore file that holds ignores. Overrides of other
adapters, patterns that are named again, and the order of adapters and overrides do not count; and
the ignore file takes nothing back of what is ignored without it. -/
theorem compile_unites (adapters : List Adapter) (overrides : Overrides) (ignored : List Rule) :
    Unites adapters overrides ignored (compile adapters overrides ignored) ∧
      compile adapters (overrides.filter fun entry => adapters.any (·.name == entry.1)) ignored =
        compile adapters overrides ignored ∧
      (compile adapters overrides ignored).Agrees (repeating adapters overrides ignored) ∧
      (∀ name path, (compile adapters overrides ignored).ignoresDirectory name path =
        ((compile adapters overrides []).ignoresDirectory name path ||
          Rule.ignores ignored path true)) ∧
      (∀ path, (compile adapters overrides ignored).ignoresFile path =
        ((compile adapters overrides []).ignoresFile path || Rule.ignores ignored path false)) ∧
      ∀ others more, adapters.Perm others → overrides.Perm more →
        (overrides.map Prod.fst).Nodup →
          (compile others more ignored).Agrees (compile adapters overrides ignored) := by
  refine ⟨unites_compile, compile_filter, unites_compile.agrees unites_repeating,
    fun name path => ?_, fun path => ?_, fun others more => agrees_of_perm⟩
  · simp [ignoresDirectory, compile, Rule.ignores]
  · simp [ignoresFile, compile, Rule.ignores, Bool.or_comm]

def mixedOverrides : Overrides :=
  [("go", { ignoreDirs := ["mocks/"], replaceDefaults := true }),
    ("python", { ignoreDirs := ["stubs"] }), ("flutter", { ignoreDirs := ["src"] })]

def takenBack : List Rule :=
  [{ pattern := ".venv", directoryOnly := false, anchored := false, negated := true,
     hasSlash := false }]

theorem mixedOverrides_reverse :
    [Profiles.go, Profiles.python].Perm [Profiles.python, Profiles.go] ∧
      mixedOverrides.Perm mixedOverrides.reverse ∧ (mixedOverrides.map Prod.fst).Nodup ∧
      (compile [Profiles.python, Profiles.go] mixedOverrides.reverse takenBack).Agrees
        (compile [Profiles.go, Profiles.python] mixedOverrides takenBack) ∧
      [".git", "vendor", "mocks", "stubs", ".venv", "src"].map (fun name =>
          (compile [Profiles.go, Profiles.python] mixedOverrides takenBack).ignoresDirectory name
            ("lib/" ++ name)) = [true, false, true, true, true, false] := by
  have listed : [Profiles.go, Profiles.python].Perm [Profiles.python, Profiles.go] :=
    List.Perm.swap _ _ _
  have permuted : mixedOverrides.Perm mixedOverrides.reverse :=
    (List.reverse_perm mixedOverrides).symm
  have apart : (mixedOverrides.map Prod.fst).Nodup := by decide
  obtain ⟨_, _, _, _, _, invariant⟩ :=
    compile_unites [Profiles.go, Profiles.python] mixedOverrides takenBack
  exact ⟨listed, permuted, apart, invariant _ _ listed permuted apart, by decide +kernel⟩

end ScanRules

end SourceAtlas
