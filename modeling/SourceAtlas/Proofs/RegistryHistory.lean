import SourceAtlas.Registry
import SourceAtlas.Proofs.TextOrder
import Mathlib.Data.List.Nodup

/-!
What a registry holds after any work on it. The adapters that were accepted, in the order of their
registration, say everything: under a name stands the last of them that bears it. An operation that
fails has done what stands before the failure and nothing else.
-/
namespace SourceAtlas.Registry

open Text

inductive Operation
  | register (offer : Offer)
  | load (plugins : List Plugin)

/-- The registry after an operation. A refused offer leaves it as it is, and of plugins those before
the first that fails are kept. -/
def perform (registry : Registry) : Operation → Registry
  | .register offer => (registry.register offer).toOption.getD registry
  | .load plugins => (registry.load plugins).1

def after (registry : Registry) (operations : List Operation) : Registry :=
  operations.foldl perform registry

/-- The adapter of an offer that is taken: it needs a name. -/
def accepted? : Offer → Option Adapter
  | .adapter adapter => if adapter.name.isEmpty then none else some adapter
  | .other _ => none

def provided? (plugin : Plugin) : Option Adapter :=
  match plugin.provision with
  | .instance adapter | .class adapter | .factory adapter => accepted? (.adapter adapter)
  | .failing _ | .unusable | .broken _ => none

def refusalOf (plugin : Plugin) : RegistryError :=
  match plugin.provision with
  | .instance adapter | .class adapter | .factory adapter => .nameless adapter.label
  | .failing reason => .failed reason
  | .unusable => .notAFactory
  | .broken reason => .broken plugin.name reason

def usable (plugins : List Plugin) : List Plugin :=
  plugins.takeWhile fun plugin => (provided? plugin).isSome

def additions : Operation → List Adapter
  | .register offer => (accepted? offer).toList
  | .load plugins => (usable plugins).filterMap provided?

def history (operations : List Operation) : List Adapter := operations.flatMap additions

def putAll (registry : Registry) (adapters : List Adapter) : Registry :=
  ⟨adapters.foldl (fun known adapter => put adapter known) registry.adapters⟩

theorem putAll_append (registry : Registry) (first second : List Adapter) :
    registry.putAll (first ++ second) = (registry.putAll first).putAll second := by
  simp only [putAll, List.foldl_append]

theorem accepted?_eq_some_iff {offer : Offer} {adapter : Adapter} :
    accepted? offer = some adapter ↔ offer = .adapter adapter ∧ adapter.name ≠ "" := by
  cases offer with
  | other typeName => simp [accepted?]
  | adapter offered =>
      simp only [accepted?, String.isEmpty_iff, Offer.adapter.injEq]
      constructor
      · intro taken
        split at taken
        · cases taken
        next named =>
          cases taken
          exact ⟨rfl, named⟩
      · rintro ⟨rfl, named⟩
        exact if_neg named

theorem accepted?_adapter_eq_none_iff {adapter : Adapter} :
    accepted? (.adapter adapter) = none ↔ adapter.name = "" := by
  simp [accepted?]

theorem named_of_provided {plugin : Plugin} {adapter : Adapter}
    (brings : provided? plugin = some adapter) : adapter.name ≠ "" := by
  obtain ⟨name, provision⟩ := plugin
  cases provision with
  | «instance» offered | «class» offered | factory offered =>
      have taken : accepted? (.adapter offered) = some adapter := brings
      exact (accepted?_eq_some_iff.mp taken).2
  | failing _ | unusable | broken _ => cases brings

theorem register_of_accepted {offer : Offer} {adapter : Adapter}
    (taken : accepted? offer = some adapter) (registry : Registry) :
    registry.register offer = .ok (registry.putAll [adapter]) := by
  obtain ⟨rfl, named⟩ := accepted?_eq_some_iff.mp taken
  exact if_neg (mt String.isEmpty_iff.mp named)

theorem register_of_refused {offer : Offer} (refused : accepted? offer = none)
    (registry : Registry) : ∃ e, registry.register offer = .error e := by
  cases offer with
  | other typeName => exact ⟨_, rfl⟩
  | adapter offered =>
      have nameless := accepted?_adapter_eq_none_iff.mp refused
      exact ⟨.nameless offered.label, if_pos (String.isEmpty_iff.mpr nameless)⟩

theorem load_cons_of_provided {plugin : Plugin} {adapter : Adapter}
    (brings : provided? plugin = some adapter) (registry : Registry) (rest : List Plugin) :
    registry.load (plugin :: rest) =
      (((registry.putAll [adapter]).load rest).1,
        adapter.name :: ((registry.putAll [adapter]).load rest).2.1,
        ((registry.putAll [adapter]).load rest).2.2) := by
  obtain ⟨name, provision⟩ := plugin
  cases provision with
  | «instance» offered | «class» offered | factory offered =>
      have taken : accepted? (.adapter offered) = some adapter := brings
      cases (accepted?_eq_some_iff.mp taken).1
      simp only [load, offerOf, register_of_accepted taken]
  | failing _ | unusable | broken _ => cases brings

theorem load_cons_of_refused {plugin : Plugin} (refused : provided? plugin = none)
    (registry : Registry) (rest : List Plugin) :
    registry.load (plugin :: rest) = (registry, [], some (refusalOf plugin)) := by
  obtain ⟨name, provision⟩ := plugin
  cases provision with
  | «instance» offered | «class» offered | factory offered =>
      have nameless : offered.name.isEmpty = true :=
        String.isEmpty_iff.mpr (accepted?_adapter_eq_none_iff.mp refused)
      simp only [load, offerOf, register, nameless, if_true, refusalOf]
  | failing _ | unusable | broken _ => rfl

theorem load_eq (registry : Registry) (plugins : List Plugin) :
    registry.load plugins =
      (registry.putAll ((usable plugins).filterMap provided?),
        ((usable plugins).filterMap provided?).map (·.name),
        (plugins.drop (usable plugins).length).head?.map refusalOf) := by
  induction plugins generalizing registry with
  | nil => rfl
  | cons plugin rest ih =>
      unfold usable at ih ⊢
      cases brings : provided? plugin with
      | none =>
          rw [load_cons_of_refused brings, List.takeWhile_cons_of_neg (by simp [brings])]
          rfl
      | some adapter =>
          rw [load_cons_of_provided brings, List.takeWhile_cons_of_pos (by simp [brings]), ih,
            List.filterMap_cons_some brings, ← List.singleton_append, putAll_append]
          rfl

theorem perform_eq (registry : Registry) (operation : Operation) :
    registry.perform operation = registry.putAll (additions operation) := by
  cases operation with
  | register offer =>
      cases taken : accepted? offer with
      | some adapter =>
          rw [perform, register_of_accepted taken, additions, taken]
          rfl
      | none =>
          obtain ⟨e, refused⟩ := register_of_refused taken registry
          rw [perform, refused, additions, taken]
          rfl
  | load plugins => rw [perform, load_eq, additions]

theorem after_eq (registry : Registry) (operations : List Operation) :
    registry.after operations = registry.putAll (history operations) := by
  induction operations generalizing registry with
  | nil => rfl
  | cons operation rest ih =>
      have onward := ih (registry.perform operation)
      rw [perform_eq, ← putAll_append] at onward
      rw [after, List.foldl_cons, perform_eq]
      exact onward

theorem named_of_mem_additions {operation : Operation} {adapter : Adapter}
    (member : adapter ∈ additions operation) : adapter.name ≠ "" := by
  cases operation with
  | register offer => exact (accepted?_eq_some_iff.mp (Option.mem_toList.mp member)).2
  | load plugins =>
      obtain ⟨plugin, _, brings⟩ := List.mem_filterMap.mp member
      exact named_of_provided brings

theorem find?_put (adapter : Adapter) (known : List Adapter) (name : String) :
    (put adapter known).find? (·.name = name) =
      if adapter.name = name then some adapter else known.find? (·.name = name) := by
  induction known with
  | nil => by_cases same : adapter.name = name <;> simp [put, same]
  | cons first rest ih =>
      by_cases taken : first.name = adapter.name
      · by_cases same : adapter.name = name <;> simp [put, taken, same]
      · by_cases same : first.name = name
        · subst same
          simp [put, taken, Ne.symm taken]
        · simp [put, taken, same, ih]

theorem find?_putAll (registry : Registry) (adapters : List Adapter) (name : String) :
    (registry.putAll adapters).get? name =
      (adapters.reverse.find? (·.name = name)).or (registry.get? name) := by
  induction adapters generalizing registry with
  | nil => rfl
  | cons adapter rest ih =>
      have first : (registry.putAll [adapter]).get? name =
          if adapter.name = name then some adapter else registry.get? name :=
        find?_put adapter registry.adapters name
      rw [← List.singleton_append, putAll_append, ih, first, List.singleton_append,
        List.reverse_cons, List.find?_append, List.find?_singleton, Option.or_assoc]
      by_cases same : adapter.name = name <;> simp [same]

theorem names_put (adapter : Adapter) (known : List Adapter) :
    (put adapter known).map (·.name) =
      if adapter.name ∈ known.map (·.name) then known.map (·.name)
      else known.map (·.name) ++ [adapter.name] := by
  induction known with
  | nil => rfl
  | cons first rest ih =>
      by_cases taken : first.name = adapter.name
      · simp [put, taken]
      · have other : adapter.name ≠ first.name := Ne.symm taken
        by_cases later : adapter.name ∈ rest.map (·.name) <;> simp [put, taken, other, ih, later]

/-- Every adapter of a registry bears a name of its own, which is not empty. -/
structure Sound (registry : Registry) : Prop where
  filled : ∀ adapter ∈ registry.adapters, adapter.name ≠ ""
  apart : (registry.adapters.map (·.name)).Nodup

theorem sound_empty : Sound empty := ⟨List.forall_mem_nil _, List.nodup_nil⟩

theorem Sound.put {registry : Registry} (sound : Sound registry) {adapter : Adapter}
    (named : adapter.name ≠ "") : Sound ⟨Registry.put adapter registry.adapters⟩ where
  filled := by
    intro other member
    have listed := List.mem_map_of_mem (f := (·.name)) member
    rw [names_put] at listed
    have before (earlier : other.name ∈ registry.adapters.map (·.name)) : other.name ≠ "" := by
      obtain ⟨old, stood, same⟩ := List.mem_map.mp earlier
      exact same ▸ sound.filled old stood
    split at listed
    · exact before listed
    · rcases List.mem_append.mp listed with earlier | new
      · exact before earlier
      · exact List.mem_singleton.mp new ▸ named
  apart := by
    rw [names_put]
    split
    · exact sound.apart
    next new =>
      refine List.nodup_append.mpr ⟨sound.apart, List.nodup_singleton _, ?_⟩
      rintro name stood _ last rfl
      exact new (List.mem_singleton.mp last ▸ stood)

theorem Sound.putAll {registry : Registry} (sound : Sound registry) {adapters : List Adapter}
    (named : ∀ adapter ∈ adapters, adapter.name ≠ "") : Sound (registry.putAll adapters) := by
  induction adapters generalizing registry with
  | nil => exact sound
  | cons adapter rest ih =>
      rw [List.forall_mem_cons] at named
      exact ih (sound.put named.1) named.2

theorem Sound.after {registry : Registry} (sound : Sound registry) (operations : List Operation) :
    Sound (registry.after operations) := by
  rw [after_eq]
  refine sound.putAll fun adapter member => ?_
  obtain ⟨operation, _, added⟩ := List.mem_flatMap.mp member
  exact named_of_mem_additions added

theorem all_perm (registry : Registry) : registry.all.Perm registry.adapters :=
  List.mergeSort_perm _ _

theorem Sound.mem_all_iff {registry : Registry} (sound : Sound registry) (adapter : Adapter) :
    adapter ∈ registry.all ↔ registry.get? adapter.name = some adapter := by
  rw [registry.all_perm.mem_iff]
  constructor
  · intro member
    unfold get?
    cases found : registry.adapters.find? (·.name = adapter.name) with
    | none => exact absurd (List.find?_eq_none.mp found adapter member) (by simp)
    | some other =>
        have same : other.name = adapter.name := by simpa using List.find?_some found
        exact congrArg some (List.inj_on_of_nodup_map sound.apart
          (List.mem_of_find?_eq_some found) member same)
  · exact List.mem_of_find?_eq_some

theorem Sound.names_rising {registry : Registry} (sound : Sound registry) :
    registry.names.Pairwise fun a b => precedes a b = true ∧ a ≠ b := by
  have ordered : registry.names.Pairwise fun a b => precedes a b = true :=
    List.pairwise_map.mpr (pairwise_mergeSort (·.name) registry.adapters)
  have apart : (registry.all.map (·.name)).Nodup :=
    (registry.all_perm.map (·.name)).nodup_iff.mpr sound.apart
  exact ordered.and apart

theorem Sound.get?_eq_some_iff {registry : Registry} (sound : Sound registry) {name : String}
    {adapter : Adapter} :
    registry.get? name = some adapter ↔ adapter ∈ registry.all ∧ adapter.name = name := by
  rw [sound.mem_all_iff]
  constructor
  · intro found
    have same : adapter.name = name := by simpa using List.find?_some found
    exact ⟨same ▸ found, same⟩
  · rintro ⟨found, rfl⟩
    exact found

theorem Sound.all_congr {first second : Registry} (one : Sound first) (two : Sound second)
    (same : ∀ adapter, adapter ∈ first.all ↔ adapter ∈ second.all) : first.all = second.all := by
  have perm : first.adapters.Perm second.adapters := by
    refine (List.perm_ext_iff_of_nodup one.apart.of_map two.apart.of_map).mpr fun adapter => ?_
    rw [← first.all_perm.mem_iff, ← second.all_perm.mem_iff, same]
  exact mergeSort_eq_of_perm (·.name) perm fun a member b other alike =>
    List.inj_on_of_nodup_map one.apart member other alike

theorem Sound.get?_names {registry : Registry} (sound : Sound registry) :
    registry.names.map registry.get? = registry.all.map some := by
  rw [names, List.map_map]
  exact List.map_congr_left fun adapter member => (sound.mem_all_iff adapter).mp member

/-- The registry that work starts with: empty, or with the adapters that are always there. -/
def starting (builtins : Bool) : Registry := if builtins then standard else empty

def firsts (builtins : Bool) : List Adapter := if builtins then Profiles.all else []

theorem starting_eq (builtins : Bool) : starting builtins = empty.putAll (firsts builtins) := by
  cases builtins <;> rfl

theorem sound_starting (builtins : Bool) : Sound (starting builtins) := by
  rw [starting_eq]
  refine sound_empty.putAll ?_
  cases builtins <;> decide

theorem exists_of_load_error {registry : Registry} {plugins : List Plugin} {e : RegistryError}
    (failed : (registry.load plugins).2.2 = some e) :
    ∃ (before : List Plugin) (plugin : Plugin) (rest : List Plugin) (adapters : List Adapter),
      plugins = before ++ plugin :: rest ∧ before.map provided? = adapters.map some ∧
      provided? plugin = none ∧ e = refusalOf plugin ∧
      (registry.load plugins).1 =
        registry.after (adapters.map fun adapter => .register (.adapter adapter)) := by
  induction plugins generalizing registry with
  | nil => cases failed
  | cons plugin rest ih =>
      cases brings : provided? plugin with
      | none =>
          rw [load_cons_of_refused brings] at failed ⊢
          exact ⟨[], plugin, rest, [], rfl, rfl, brings, (Option.some.inj failed).symm, rfl⟩
      | some adapter =>
          rw [load_cons_of_provided brings] at failed ⊢
          obtain ⟨before, stop, others, adapters, parts, kept, refused, same, state⟩ := ih failed
          have taken : accepted? (.adapter adapter) = some adapter :=
            accepted?_eq_some_iff.mpr ⟨rfl, named_of_provided brings⟩
          have first : registry.perform (.register (.adapter adapter)) =
              registry.putAll [adapter] := by
            rw [perform_eq, additions, taken]
            rfl
          refine ⟨plugin :: before, stop, others, adapter :: adapters, ?_, ?_, refused, same, ?_⟩
          · rw [parts, List.cons_append]
          · rw [List.map_cons, brings, kept, List.map_cons]
          · rw [state, ← first]
            rfl

/-- A registry holds what a list of registered adapters says: each name is that of its adapter and
not empty, there is one adapter under a name, and it is the last that was registered under it. The
names rise strictly, and the adapters are listed in the order of their names. -/
structure Reflects (registry : Registry) (registered : List Adapter) : Prop where
  keyed : ∀ name adapter, registry.get? name = some adapter → adapter.name = name ∧ name ≠ ""
  apart : (registry.adapters.map (·.name)).Nodup
  last : ∀ name, registry.get? name = registered.reverse.find? (·.name = name)
  rising : registry.names.Pairwise fun a b => precedes a b = true ∧ a ≠ b
  listed : registry.names.map registry.get? = registry.all.map some
  members : ∀ adapter, adapter ∈ registry.all ↔ registry.get? adapter.name = some adapter

theorem reflects_after (builtins : Bool) (operations : List Operation) :
    Reflects ((starting builtins).after operations) (firsts builtins ++ history operations) := by
  have sound := (sound_starting builtins).after operations
  exact {
    keyed := by
      intro name adapter found
      have same : adapter.name = name := by simpa using List.find?_some found
      exact ⟨same, same ▸ sound.filled adapter (List.mem_of_find?_eq_some found)⟩
    apart := sound.apart
    last := by
      intro name
      have nothing : empty.get? name = none := rfl
      rw [after_eq, starting_eq, ← putAll_append, find?_putAll, nothing, Option.or_none]
    rising := sound.names_rising
    listed := sound.get?_names
    members := sound.mem_all_iff }

/-- After any work a registry reflects the adapters that were registered. A refused offer leaves it
as it is. Loading fails at the first plugin that provides nothing, and has then registered the
adapters of the plugins before it, in order and nothing else. -/
theorem registry_reflects_history (builtins : Bool) (operations : List Operation) :
    Reflects ((starting builtins).after operations) (firsts builtins ++ history operations) ∧
      (∀ offer e, ((starting builtins).after operations).register offer = .error e →
        (starting builtins).after (operations ++ [.register offer]) =
          (starting builtins).after operations) ∧
      ∀ plugins e, (((starting builtins).after operations).load plugins).2.2 = some e →
        ∃ (before : List Plugin) (plugin : Plugin) (rest : List Plugin) (adapters : List Adapter),
          plugins = before ++ plugin :: rest ∧ before.map provided? = adapters.map some ∧
          provided? plugin = none ∧ e = refusalOf plugin ∧
          (starting builtins).after (operations ++ [.load plugins]) =
            (starting builtins).after
              (operations ++ adapters.map fun adapter => .register (.adapter adapter)) := by
  have onward (more : List Operation) : (starting builtins).after (operations ++ more) =
      ((starting builtins).after operations).after more := List.foldl_append
  refine ⟨reflects_after builtins operations, fun offer e refused => ?_,
    fun plugins e failed => ?_⟩
  · have kept : ((starting builtins).after operations).perform (.register offer) =
        (starting builtins).after operations := by
      rw [perform, refused]
      rfl
    exact (onward [.register offer]).trans kept
  · obtain ⟨before, plugin, rest, adapters, parts, kept, stops, same, state⟩ :=
      exists_of_load_error failed
    refine ⟨before, plugin, rest, adapters, parts, kept, stops, same, ?_⟩
    rw [onward, onward, ← state]
    rfl

def guestAdapter (label name : String) : Adapter where
  label := label
  name := name
  read := fun _ _ _ => .ok { table := {} }

def guestPlugins : List Plugin :=
  [⟨"zig", .factory (guestAdapter "Zig" "zig")⟩, ⟨"ada", .broken "no module named plugin"⟩,
    ⟨"nim", .instance (guestAdapter "Nim" "nim")⟩]

theorem guests_reflected :
    ((starting true).register (.adapter (guestAdapter "Mute" "")) = .error (.nameless "Mute")) ∧
      ((starting true).after [.register (.adapter (guestAdapter "Mute" ""))] = starting true) ∧
      (((starting true).after [.register (.adapter (guestAdapter "Gopher" "go"))]).load
        guestPlugins).2.2 = some (.broken "ada" "no module named plugin") ∧
      let registry := (starting true).after
        [.register (.adapter (guestAdapter "Gopher" "go")), .load guestPlugins]
      registry.get? "go" = some (guestAdapter "Gopher" "go") ∧
        registry.get? "zig" = some (guestAdapter "Zig" "zig") ∧ registry.get? "nim" = none ∧
        registry = (starting true).after [.register (.adapter (guestAdapter "Gopher" "go")),
          .register (.adapter (guestAdapter "Zig" "zig"))] := by
  have refused : (starting true).register (.adapter (guestAdapter "Mute" "")) =
    .error (.nameless "Mute") := rfl
  have failed : (((starting true).after [.register (.adapter (guestAdapter "Gopher" "go"))]).load
      guestPlugins).2.2 = some (.broken "ada" "no module named plugin") := rfl
  obtain ⟨_, unchanged, _⟩ := registry_reflects_history true []
  obtain ⟨_, _, stopped⟩ := registry_reflects_history true
    [.register (.adapter (guestAdapter "Gopher" "go"))]
  obtain ⟨reflects, _⟩ := registry_reflects_history true
    [.register (.adapter (guestAdapter "Gopher" "go")), .load guestPlugins]
  obtain ⟨before, plugin, rest, adapters, parts, kept, stops, same, state⟩ := stopped _ _ failed
  -- the first plugin provides an adapter and the second does not, so loading stops at the second
  have first : adapters = [guestAdapter "Zig" "zig"] := by
    rcases before with _ | ⟨front, _ | ⟨next, more⟩⟩
    · cases parts
      cases stops
    · cases parts
      match adapters, kept with
      | [_], kept => cases kept; rfl
    · have second : next = ⟨"ada", .broken "no module named plugin"⟩ := by
        simp only [guestPlugins, List.cons_append, List.cons.injEq] at parts
        exact parts.2.1.symm
      have missing : none ∈ adapters.map some := by
        rw [← kept, second]
        exact List.mem_cons_of_mem _ List.mem_cons_self
      obtain ⟨_, _, wrong⟩ := List.mem_map.mp missing
      cases wrong
  refine ⟨refused, unchanged _ _ refused, failed, ?_, ?_, ?_, ?_⟩
  · exact (reflects.last "go").trans rfl
  · exact (reflects.last "zig").trans rfl
  · exact (reflects.last "nim").trans rfl
  · rw [first] at state
    exact state

end SourceAtlas.Registry
