import SourceAtlas.Proofs.RegistryHistory
import SourceAtlas.Proofs.StrippedCase

/-!
Adapters asked for by name. A name is asked for without its white space and its case, but stands in
the registry as it was given, so an adapter answers to its own name only if that has neither.
-/
namespace SourceAtlas.Registry

open Text

theorem requestKey_eq_self_iff {name : String} :
    requestKey name = name ↔ strip name = name ∧ lower name = name := by
  constructor
  · intro same
    have stripped : strip (requestKey name) = requestKey name := by
      rw [requestKey, strip_lower, strip_strip]
    have lowered : lower (requestKey name) = requestKey name := by
      rw [requestKey, lower_lower]
    rw [same] at stripped lowered
    exact ⟨stripped, lowered⟩
  · rintro ⟨stripped, lowered⟩
    rw [requestKey, stripped, lowered]

/-- The adapters that are found under the names asked for, in a registry of their own. -/
def chosen (registry : Registry) (requested : List String) : Registry :=
  empty.putAll (requested.filterMap fun name => registry.get? (requestKey name))

theorem select_eq_chosen (registry : Registry) (requested : List String) :
    (registry.select requested).1 = (registry.chosen requested).all := rfl

theorem select_single (registry : Registry) (name : String) :
    (registry.select [name]).1 = (registry.get? (requestKey name)).toList := by
  unfold select
  cases found : registry.get? (requestKey name) with
  | none => simp [found, byName]
  | some adapter => simp [found, put, byName]

section Chosen

variable {registry : Registry} (sound : Sound registry) (requested : List String)
include sound

theorem mem_found_iff {adapter : Adapter} :
    adapter ∈ (requested.filterMap fun name => registry.get? (requestKey name)) ↔
      adapter ∈ registry.all ∧ ∃ name ∈ requested, requestKey name = adapter.name := by
  rw [List.mem_filterMap]
  constructor
  · rintro ⟨name, asked, found⟩
    obtain ⟨listed, same⟩ := sound.get?_eq_some_iff.mp found
    exact ⟨listed, name, asked, same.symm⟩
  · rintro ⟨listed, name, asked, same⟩
    exact ⟨name, asked, sound.get?_eq_some_iff.mpr ⟨listed, same.symm⟩⟩

theorem sound_chosen : Sound (registry.chosen requested) := by
  refine sound_empty.putAll fun adapter found => ?_
  obtain ⟨listed, _⟩ := (mem_found_iff sound requested).mp found
  exact sound.filled adapter (registry.all_perm.mem_iff.mp listed)

theorem mem_select_iff {adapter : Adapter} :
    adapter ∈ (registry.select requested).1 ↔
      adapter ∈ registry.all ∧ ∃ name ∈ requested, requestKey name = adapter.name := by
  have nothing : empty.get? adapter.name = none := rfl
  rw [select_eq_chosen, (sound_chosen sound requested).mem_all_iff, chosen, find?_putAll, nothing,
    Option.or_none, ← mem_found_iff sound requested]
  constructor
  · intro last
    exact List.mem_reverse.mp (List.mem_of_find?_eq_some last)
  · -- the last that is found under a name is the one that the registry has under it
    intro found
    cases last : List.find? (fun other => decide (other.name = adapter.name))
        (requested.filterMap fun name => registry.get? (requestKey name)).reverse with
    | none =>
        exact absurd (List.find?_eq_none.mp last adapter (List.mem_reverse.mpr found)) (by simp)
    | some other =>
        have same : other.name = adapter.name := by simpa using List.find?_some last
        have also := List.mem_reverse.mp (List.mem_of_find?_eq_some last)
        have one := (sound.mem_all_iff adapter).mp ((mem_found_iff sound requested).mp found).1
        have two := (sound.mem_all_iff other).mp ((mem_found_iff sound requested).mp also).1
        rw [same, one] at two
        exact two.symm

theorem select_congr {others : List String}
    (keys : ∀ key, key ∈ others.map requestKey ↔ key ∈ requested.map requestKey) :
    (registry.select others).1 = (registry.select requested).1 := by
  rw [select_eq_chosen, select_eq_chosen]
  refine (sound_chosen sound others).all_congr (sound_chosen sound requested) fun adapter => ?_
  have keyed := keys adapter.name
  simp only [List.mem_map] at keyed
  rw [← select_eq_chosen, ← select_eq_chosen, mem_select_iff sound, mem_select_iff sound, keyed]

end Chosen

/-- After any work on a registry, an adapter that it lists answers to its own name exactly if that
name has no white space around it and no upper case. Asking for names gives the adapters that stand
under their keys, in the strict order of their names, and tells of the names only which keys there
are. -/
theorem select_after_history (builtins : Bool) (operations : List Operation) :
    (∀ adapter ∈ ((starting builtins).after operations).all,
      ((((starting builtins).after operations).select [adapter.name]).1 = [adapter] ↔
        strip adapter.name = adapter.name ∧ lower adapter.name = adapter.name)) ∧
      ∀ requested,
        ((((starting builtins).after operations).select requested).1.map (·.name)).Pairwise
          (fun a b => precedes a b = true ∧ a ≠ b) ∧
        (∀ adapter, adapter ∈ (((starting builtins).after operations).select requested).1 ↔
          adapter ∈ ((starting builtins).after operations).all ∧
            ∃ name ∈ requested, lower (strip name) = adapter.name) ∧
        ∀ others, (∀ key, key ∈ others.map requestKey ↔ key ∈ requested.map requestKey) →
          (((starting builtins).after operations).select others).1 =
            (((starting builtins).after operations).select requested).1 := by
  generalize reached : (starting builtins).after operations = registry
  have sound : Sound registry := reached ▸ (sound_starting builtins).after operations
  refine ⟨fun adapter listed => ?_, fun requested => ⟨?_, fun adapter => ?_, fun others keys => ?_⟩⟩
  · have under (found : Option Adapter) : found.toList = [adapter] ↔ found = some adapter := by
      cases found <;> simp
    rw [select_single, under, sound.get?_eq_some_iff, and_iff_right listed, eq_comm,
      requestKey_eq_self_iff]
  · exact (sound_chosen sound requested).names_rising
  · exact mem_select_iff sound requested
  · exact select_congr sound requested keys

theorem zig_not_selected :
    let registry := (starting false).after [.register (.adapter (guestAdapter "Zig" "Zig"))]
    registry.all = [guestAdapter "Zig" "Zig"] ∧
      registry.get? "Zig" = some (guestAdapter "Zig" "Zig") ∧
      (registry.select ["Zig"]).1 ≠ [guestAdapter "Zig" "Zig"] := by
  intro registry
  have listed : registry.all = [guestAdapter "Zig" "Zig"] := List.mergeSort_singleton _
  have known : guestAdapter "Zig" "Zig" ∈ registry.all := listed ▸ List.mem_singleton_self _
  obtain ⟨answers, _⟩ := select_after_history false
    [.register (.adapter (guestAdapter "Zig" "Zig"))]
  have upper : lower "Zig" ≠ "Zig" := by decide +kernel
  refine ⟨listed, rfl, fun selected => ?_⟩
  obtain ⟨_, same⟩ := (answers (guestAdapter "Zig" "Zig") known).mp selected
  exact upper same

end SourceAtlas.Registry
