import SourceAtlas.Profiles

/-!
The registry of adapters. Adapters are known by name, a later one taking the place of an earlier one
of the same name, and are listed in the order of their names.
-/
namespace SourceAtlas

open Text

/-- What is offered for registration: an adapter, or a value of another type. -/
inductive Offer
  | adapter (adapter : Adapter)
  | other (typeName : String)

/-- What a plugin provides when it is loaded. -/
inductive Provision
  | instance (adapter : Adapter)
  | class (adapter : Adapter)
  | factory (adapter : Adapter)
  /-- a class or a factory that fails -/
  | failing (reason : String)
  /-- a factory of something else, or a value that is no factory at all -/
  | unusable
  | broken (reason : String)

structure Plugin where
  name : String
  provision : Provision

inductive RegistryError
  | notAnAdapter (typeName : String)
  | nameless (label : String)
  | notAFactory
  | broken (plugin reason : String)
  | failed (reason : String)
  deriving BEq, DecidableEq, Repr

def RegistryError.message : RegistryError → String
  | .notAnAdapter typeName => s!"Expected an Adapter instance, got {typeName}"
  | .nameless label => s!"{label} does not declare a name"
  | .notAFactory => "Adapter entry point must be an Adapter subclass or factory"
  | .broken plugin reason => s!"Failed to load adapter entry point '{plugin}': {reason}"
  | .failed reason => reason

/-- The known adapters in the order of their registration, one for each name. -/
structure Registry where
  adapters : List Adapter

namespace Registry

def empty : Registry := ⟨[]⟩

def put (adapter : Adapter) : List Adapter → List Adapter
  | [] => [adapter]
  | first :: rest =>
      if first.name = adapter.name then adapter :: rest else first :: put adapter rest

def register (registry : Registry) : Offer → Except RegistryError Registry
  | .other typeName => .error (.notAnAdapter typeName)
  | .adapter adapter =>
      if adapter.name.isEmpty then .error (.nameless adapter.label)
      else .ok ⟨put adapter registry.adapters⟩

def standard : Registry := ⟨Profiles.all.foldl (fun known adapter => put adapter known) []⟩

def get? (registry : Registry) (name : String) : Option Adapter :=
  registry.adapters.find? (·.name = name)

def all (registry : Registry) : List Adapter := byName registry.adapters

def names (registry : Registry) : List String := registry.all.map (·.name)

def requestKey (name : String) : String := lower (strip name)

/-- The named adapters in the order of their names, each once. Unknown names are noted. -/
def select (registry : Registry) (requested : List String) : List Adapter × Journal :=
  let found := requested.filterMap fun name => registry.get? (requestKey name)
  let unknown := requested.filter fun name => (registry.get? (requestKey name)).isNone
  (byName (found.foldl (fun known adapter => put adapter known) []),
    unknown.map fun name => .warning "adapters" s!"Unknown language adapter requested: {name}")

def offerOf (plugin : Plugin) : Except RegistryError Offer :=
  match plugin.provision with
  | .instance adapter | .class adapter | .factory adapter => .ok (.adapter adapter)
  | .failing reason => .error (.failed reason)
  | .unusable => .error .notAFactory
  | .broken reason => .error (.broken plugin.name reason)

/-- Registers what plugins provide, in order, up to the first that fails. Gives the registry, the
names registered, and the failure if there is one. -/
def load (registry : Registry) : List Plugin → Registry × List String × Option RegistryError
  | [] => (registry, [], none)
  | plugin :: rest =>
      match offerOf plugin with
      | .error e => (registry, [], some e)
      | .ok offer =>
          match offer, registry.register offer with
          | .adapter adapter, .ok next =>
              let (last, names, failure) := next.load rest
              (last, adapter.name :: names, failure)
          | .other _, .ok next => next.load rest
          | _, .error e => (registry, [], some e)

end Registry

end SourceAtlas
