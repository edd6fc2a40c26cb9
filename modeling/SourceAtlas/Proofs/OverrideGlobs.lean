import SourceAtlas.Scan
import SourceAtlas.Settings
import SourceAtlas.Proofs.TextOrder
import Mathlib.Data.List.Basic

/-!
One more glob in the override of an adapter. Of the rules of a scan it changes those for files only,
by the rule that the glob makes.
-/
namespace SourceAtlas

open Text

theorem lookup_insertOverride (name : String) (override : Override) (overrides : Overrides)
    (other : String) : (Settings.insertOverride name override overrides).lookup other =
      if other = name then some override else overrides.lookup other := by
  induction overrides with
  | nil =>
      by_cases same : other = name
      · simp [Settings.insertOverride, same]
      · simp [Settings.insertOverride, List.lookup_cons, same, beq_false_of_ne same]
  | cons entry rest ih =>
      obtain ⟨n, o⟩ := entry
      by_cases here : n = name
      · subst here
        by_cases same : other = n
        · simp [Settings.insertOverride, same]
        · simp [Settings.insertOverride, List.lookup_cons, same, beq_false_of_ne same]
      · by_cases same : other = n
        · simp [Settings.insertOverride, here, same]
        · simp [Settings.insertOverride, List.lookup_cons, here, ih, beq_false_of_ne same]

/-- The request with one more glob in the override for a name. -/
def ScanRequest.withGlob (request : ScanRequest) (name pattern : String) : ScanRequest :=
  let own := (request.overrides.lookup name).getD {}
  { request with
    overrides := Settings.insertOverride name
      { own with ignoreGlobs := own.ignoreGlobs ++ [pattern] } request.overrides }

namespace ScanRules

theorem mem_patterns {own : Adapter → List String} {added : Override → List String}
    {adapters : List Adapter} {overrides : Overrides} {pattern : String} :
    pattern ∈ patterns own added adapters overrides ↔
      (∃ adapter ∈ adapters, ((overrides.lookup adapter.name).map (·.replaceDefaults)).getD false =
        false ∧ pattern ∈ own adapter) ∨
      ∃ adapter ∈ adapters, pattern ∈ ((overrides.lookup adapter.name).map added).getD [] := by
  simp only [patterns, unionOf, mem_distinct, List.mem_append, List.mem_flatMap, List.mem_filter,
    Bool.not_eq_true', and_assoc]

variable (request : ScanRequest) (name pattern : String) {adapters : List Adapter}

theorem lookup_withGlob {α : Type} (part : Override → α) (default : α)
    (blank : part {} = default)
    (same : ∀ override : Override, ∀ globs,
      part { override with ignoreGlobs := globs } = part override)
    (other : String) :
    (((request.withGlob name pattern).overrides.lookup other).map part).getD default =
      ((request.overrides.lookup other).map part).getD default := by
  rw [ScanRequest.withGlob, lookup_insertOverride]
  by_cases here : other = name
  · subst here
    rw [if_pos rfl, Option.map_some, Option.getD_some, same]
    cases request.overrides.lookup other with
    | none => exact blank
    | some override => rfl
  · rw [if_neg here]

theorem mem_globs_withGlob {other text : String} :
    text ∈ (((request.withGlob name pattern).overrides.lookup other).map (·.ignoreGlobs)).getD [] ↔
      text ∈ ((request.overrides.lookup other).map (·.ignoreGlobs)).getD [] ∨
        other = name ∧ text = pattern := by
  rw [ScanRequest.withGlob, lookup_insertOverride]
  by_cases here : other = name
  · subst here
    cases request.overrides.lookup other <;> simp
  · simp [here]

theorem directories_withGlob (ignored : List Rule) :
    (compile adapters (request.withGlob name pattern).overrides ignored).directories =
      (compile adapters request.overrides ignored).directories := by
  have replaced := lookup_withGlob request name pattern (·.replaceDefaults) false rfl fun _ _ => rfl
  have added := lookup_withGlob request name pattern (·.ignoreDirs) [] rfl fun _ _ => rfl
  simp only [compile, patterns, replaced, added]

theorem priority_eq (overrides : Overrides) : priority adapters overrides =
    adapters.flatMap fun adapter => ((overrides.lookup adapter.name).map
      fun override => override.priorityFiles.filterMap (Rule.build? · false)).getD [] := by
  refine List.flatMap_congr fun adapter _ => ?_
  cases overrides.lookup adapter.name <;> rfl

theorem priority_withGlob : priority adapters (request.withGlob name pattern).overrides =
    priority adapters request.overrides := by
  rw [priority_eq, priority_eq]
  refine List.flatMap_congr fun adapter _ => ?_
  exact lookup_withGlob request name pattern
    (fun override => override.priorityFiles.filterMap (Rule.build? · false)) [] rfl
    (fun _ _ => rfl) adapter.name

theorem ignoresFile_withGlob (active : ∃ adapter ∈ adapters, adapter.name = name) {rule : Rule}
    (built : Rule.build? pattern false = some rule) (ignored : List Rule) (path : String) :
    (compile adapters (request.withGlob name pattern).overrides ignored).ignoresFile path =
      ((compile adapters request.overrides ignored).ignoresFile path || rule.holds path false) := by
  have replaced := lookup_withGlob request name pattern (·.replaceDefaults) false rfl fun _ _ => rfl
  have members (text : String) :
      text ∈ patterns (·.ignoreGlobs) (·.ignoreGlobs) adapters
          (request.withGlob name pattern).overrides ↔
        text ∈ patterns (·.ignoreGlobs) (·.ignoreGlobs) adapters request.overrides ∨
          text = pattern := by
    simp only [mem_patterns, replaced, mem_globs_withGlob, and_or_left, exists_or, or_assoc]
    refine or_congr_right (or_congr_right ?_)
    constructor
    · rintro ⟨_, _, _, same⟩
      exact same
    · intro same
      obtain ⟨adapter, member, named⟩ := active
      exact ⟨adapter, member, named, same⟩
  simp only [ignoresFile, compile, Bool.or_assoc]
  refine congrArg (Rule.ignores ignored path false || ·) ?_
  rw [Bool.eq_iff_iff, Bool.or_eq_true, List.any_filterMap, List.any_filterMap, List.any_eq_true,
    List.any_eq_true]
  constructor
  · rintro ⟨text, member, held⟩
    rcases (members text).mp member with before | rfl
    · exact .inl ⟨text, before, held⟩
    · rw [built] at held
      exact .inr held
  · rintro (⟨text, before, held⟩ | held)
    · exact ⟨text, (members text).mpr (.inl before), held⟩
    · refine ⟨pattern, (members pattern).mpr (.inr rfl), ?_⟩
      rw [built]
      exact held

end ScanRules

end SourceAtlas
