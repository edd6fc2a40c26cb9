import Mathlib.Data.List.Induction
import SourceAtlas.Proofs.ModuleSymbols
import SourceAtlas.Proofs.TextOrder

/-!
The modules that a program imports. Wherever a statement stands, the module it imports from is
listed, once and in the order of the levels; on the outermost level that is the order of the source.
-/
namespace SourceAtlas.Source.Python

open Text

/-- A statement stands so many levels below the outermost ones of a program. -/
inductive StandsAt (program : List Stmt) : Nat → Stmt → Prop
  | outermost {s : Stmt} : s ∈ program → StandsAt program 0 s
  | inside {level down : Nat} {outer s : Stmt} : StandsAt program level outer →
      (down, s) ∈ outer.inner → StandsAt program (level + down) s

def ImportsAt (program : List Stmt) (level : Nat) (module : String) : Prop :=
  ∃ s, StandsAt program level s ∧ module ∈ s.modules

theorem Origin.text_ne_empty (origin : Origin) : origin.text ≠ "" := by
  intro none
  rw [Origin.text, String.append_eq_empty_iff, String.ofList_eq_empty_iff,
    List.replicate_eq_nil_iff] at none
  rcases origin.named with upwards | named
  · exact absurd none.1 (Nat.ne_of_gt upwards)
  · obtain ⟨name, module⟩ := Option.isSome_iff_exists.mp named
    rw [module] at none
    exact name.filled none.2

theorem Stmt.modules_filled (s : Stmt) : "" ∉ s.modules := by
  intro member
  cases s with
  | importModules names =>
      obtain ⟨name, -, none⟩ := List.mem_map.mp member
      exact name.filled none
  | importFrom origin => exact origin.text_ne_empty (List.mem_singleton.mp member).symm
  | _ => cases member

theorem ImportsAt.filled {program : List Stmt} {level : Nat} {module : String}
    (imported : ImportsAt program level module) : module ≠ "" := by
  obtain ⟨s, -, named⟩ := imported
  rintro rfl
  exact s.modules_filled named

def Handler.body : Handler → List Stmt
  | .mk _ body => body

theorem Handler.children_eq (h : Handler) : (Node.handler h).children = h.body.map .stmt := by
  cases h
  rfl

theorem Handler.inner_eq (h : Handler) : h.inner = h.body.map (2, ·) := by
  cases h
  rfl

theorem mem_inner {down : Nat} {outer s : Stmt} : (down, s) ∈ outer.inner ↔
    down = 1 ∧ .stmt s ∈ (Node.stmt outer).children ∨
      down = 2 ∧ ∃ h, .handler h ∈ (Node.stmt outer).children ∧ s ∈ h.body := by
  have nested (handlers : List Handler) : (down, s) ∈ handlers.flatMap Handler.inner ↔
      down = 2 ∧ ∃ h ∈ handlers, s ∈ h.body := by
    simp only [List.mem_flatMap, Handler.inner_eq, List.mem_map, Prod.mk.injEq]
    grind
  cases outer <;> simp [Stmt.inner, Node.children, nested] <;> grind

def levelBelow : Nat → List Node → List Node
  | 0, level => level
  | n + 1, level => levelBelow n (nextLevel level)

def levelsTo : Nat → List Node → List Node
  | 0, level => level
  | n + 1, level => level ++ levelsTo n (nextLevel level)

theorem walk_eq (level : List Node) : walk level = level ++ walk (nextLevel level) := by
  cases level with
  | nil => simp [walk, nextLevel]
  | cons node rest => rw [walk]

theorem walk_eq_levels (n : Nat) (level : List Node) :
    walk level = levelsTo n level ++ walk (levelBelow (n + 1) level) := by
  induction n generalizing level with
  | zero => exact walk_eq level
  | succ n ih =>
      rw [walk_eq, ih (nextLevel level), levelsTo, List.append_assoc]
      rfl

theorem mem_levelsTo {n : Nat} {level : List Node} {node : Node} :
    node ∈ levelsTo n level ↔ ∃ k ≤ n, node ∈ levelBelow k level := by
  induction n generalizing level with
  | zero => simp [levelsTo, levelBelow]
  | succ n ih =>
      rw [levelsTo, List.mem_append, ih]
      constructor
      · rintro (here | ⟨k, bound, below⟩)
        · exact ⟨0, by omega, here⟩
        · exact ⟨k + 1, by omega, below⟩
      · rintro ⟨_ | k, bound, below⟩
        · exact .inl below
        · exact .inr ⟨k, by omega, below⟩

theorem mem_walk {level : List Node} {node : Node} :
    node ∈ walk level ↔ ∃ n, node ∈ levelBelow n level := by
  constructor
  · fun_induction walk level
    case case1 => simp
    case case2 first rest ih =>
      intro member
      rcases List.mem_append.mp member with here | later
      · exact ⟨0, here⟩
      · obtain ⟨n, below⟩ := ih later
        exact ⟨n + 1, below⟩
  · rintro ⟨n, below⟩
    rw [walk_eq_levels n, List.mem_append]
    exact .inl (mem_levelsTo.mpr ⟨n, Nat.le_refl n, below⟩)

theorem levelBelow_succ (n : Nat) (level : List Node) :
    levelBelow (n + 1) level = nextLevel (levelBelow n level) := by
  induction n generalizing level with
  | zero => rfl
  | succ n ih => exact ih (nextLevel level)

theorem mem_levelBelow_succ {n : Nat} {level : List Node} {node : Node} :
    node ∈ levelBelow (n + 1) level ↔ ∃ outer ∈ levelBelow n level, node ∈ outer.children := by
  rw [levelBelow_succ, nextLevel, List.mem_flatMap]

theorem exists_of_handler_child {node : Node} {h : Handler} (child : .handler h ∈ node.children) :
    ∃ outer, node = .stmt outer := by
  cases node with
  | stmt outer => exact ⟨outer, rfl⟩
  | handler other =>
      rw [other.children_eq] at child
      obtain ⟨_, -, same⟩ := List.mem_map.mp child
      cases same

theorem StandsAt.mem_levelBelow {program : List Stmt} {level : Nat} {s : Stmt}
    (stands : StandsAt program level s) : .stmt s ∈ levelBelow level (program.map .stmt) := by
  induction stands with
  | outermost member => exact List.mem_map_of_mem member
  | inside outer inner ih =>
      rcases mem_inner.mp inner with ⟨rfl, child⟩ | ⟨rfl, h, handler, child⟩
      · exact mem_levelBelow_succ.mpr ⟨_, ih, child⟩
      · refine mem_levelBelow_succ.mpr ⟨_, mem_levelBelow_succ.mpr ⟨_, ih, handler⟩, ?_⟩
        rw [h.children_eq]
        exact List.mem_map_of_mem child

theorem standsAt_of_mem_levelBelow {program : List Stmt} {level : Nat} {s : Stmt}
    (member : .stmt s ∈ levelBelow level (program.map .stmt)) : StandsAt program level s := by
  induction level using Nat.strongRecOn generalizing s with
  | ind level ih =>
    match level with
    | 0 =>
        obtain ⟨t, listed, same⟩ := List.mem_map.mp member
        cases same
        exact .outermost listed
    | level + 1 =>
        obtain ⟨outer, above, child⟩ := mem_levelBelow_succ.mp member
        cases outer with
        | stmt outer => exact .inside (ih level (by omega) above) (mem_inner.mpr (.inl ⟨rfl, child⟩))
        | handler h =>
            rw [h.children_eq] at child
            obtain ⟨t, listed, same⟩ := List.mem_map.mp child
            cases same
            match level with
            | 0 => simp [levelBelow] at above
            | level + 1 =>
                obtain ⟨outer, higher, handler⟩ := mem_levelBelow_succ.mp above
                obtain ⟨outer, rfl⟩ := exists_of_handler_child handler
                have stands : StandsAt program (level + 2) s :=
                  .inside (ih level (by omega) higher)
                    (mem_inner.mpr (.inr ⟨rfl, h, handler, listed⟩))
                exact stands

theorem standsAt_iff {program : List Stmt} {level : Nat} {s : Stmt} :
    StandsAt program level s ↔ .stmt s ∈ levelBelow level (program.map .stmt) :=
  ⟨StandsAt.mem_levelBelow, standsAt_of_mem_levelBelow⟩

/-- What comes out of a queue of nodes when the contents of each go to its end. -/
inductive Drains : List Node → List Node → Prop
  | empty : Drains [] []
  | next {node : Node} {queue rest : List Node} : Drains (queue ++ node.children) rest →
      Drains (node :: queue) (node :: rest)

theorem Drains.level {level later rest : List Node}
    (drains : Drains (later ++ nextLevel level) rest) : Drains (level ++ later) (level ++ rest) := by
  induction level generalizing later with
  | nil => simpa [nextLevel] using drains
  | cons node level ih =>
      rw [List.cons_append, List.cons_append]
      refine .next ?_
      rw [List.append_assoc]
      refine ih ?_
      rwa [List.append_assoc]

theorem drains_walk (level : List Node) : Drains level (walk level) := by
  fun_induction walk level
  case case1 => exact .empty
  case case2 node rest ih =>
    have whole : Drains (node :: rest ++ []) (node :: rest ++ walk (nextLevel (node :: rest))) :=
      .level ih
    rwa [List.append_nil] at whole

theorem distinct_concat {α : Type} [BEq α] [LawfulBEq α] (items : List α) (item : α)
    [Decidable (item ∈ items)] :
    distinct (items ++ [item]) =
      if item ∈ items then distinct items else distinct items ++ [item] := by
  have seen : (items.foldl (fun seen item => if seen.contains item then seen else item :: seen)
      []).contains item = decide (item ∈ items) := by
    rw [Bool.eq_iff_iff, List.contains_iff_mem, decide_eq_true_iff, ← List.mem_reverse]
    exact mem_distinct
  rw [distinct, List.foldl_append, List.foldl_cons, List.foldl_nil, seen]
  by_cases known : item ∈ items <;> simp [known, distinct]

theorem idxOf_distinct_lt_iff {α : Type} [DecidableEq α] {items : List α} {first second : α}
    (listed : first ∈ items) (listed' : second ∈ items) :
    (distinct items).idxOf first < (distinct items).idxOf second ↔
      items.idxOf first < items.idxOf second := by
  have place {items : List α} {item a : α} (member : a ∈ items ++ [item]) :
      (items ++ [item]).idxOf a = if a ∈ items then items.idxOf a else items.length := by
    rw [List.idxOf_append]
    split
    case isTrue => rfl
    case isFalse new =>
      obtain rfl : a = item := by simpa [new] using member
      rw [List.idxOf_cons_self, Nat.zero_add]
  induction items using List.reverseRecOn with
  | nil => cases listed
  | append_singleton items item ih =>
      rw [distinct_concat]
      split
      case isTrue known =>
        have earlier {a : α} (member : a ∈ items ++ [item]) : a ∈ items := by
          rcases List.mem_append.mp member with here | last
          · exact here
          · exact List.mem_singleton.mp last ▸ known
        rw [List.idxOf_append, List.idxOf_append, if_pos (earlier listed), if_pos (earlier listed')]
        exact ih (earlier listed) (earlier listed')
      case isFalse =>
        have kept {a : α} (member : a ∈ items ++ [item]) : a ∈ distinct items ++ [item] := by
          simpa [mem_distinct] using member
        rw [place listed, place listed', place (kept listed), place (kept listed')]
        simp only [mem_distinct]
        split <;> split
        · next known known' => exact ih known known'
        · next known new =>
            exact iff_of_true (List.idxOf_lt_length_of_mem (mem_distinct.mpr known))
              (List.idxOf_lt_length_of_mem known)
        · next new known' =>
            exact iff_of_false (Nat.not_lt_of_le List.idxOf_le_length)
              (Nat.not_lt_of_le List.idxOf_le_length)
        · exact iff_of_false (Nat.lt_irrefl _) (Nat.lt_irrefl _)

theorem idxOf_filter_lt_iff {α : Type} [DecidableEq α] {p : α → Bool} {items : List α}
    {first second : α} (taken : p first = true) (taken' : p second = true) :
    (items.filter p).idxOf first < (items.filter p).idxOf second ↔
      items.idxOf first < items.idxOf second := by
  induction items with
  | nil => rfl
  | cons item rest ih =>
      have place (rest : List α) (a : α) : (item :: rest).idxOf a =
          if item = a then 0 else rest.idxOf a + 1 := by
        simp [List.idxOf_cons, cond_eq_ite]
      by_cases kept : p item = true
      · rw [List.filter_cons_of_pos kept, place, place, place, place]
        split <;> split <;> omega
      · have other {a : α} (taken : p a = true) : item ≠ a := fun same => kept (same ▸ taken)
        rw [List.filter_cons_of_neg kept, place, place, if_neg (other taken),
          if_neg (other taken'), ih, Nat.succ_lt_succ_iff]

theorem mem_moduleNames {names : List String} {name : String} :
    name ∈ moduleNames names ↔ name ≠ "" ∧ name ∈ names := by
  rw [moduleNames, mem_distinct, List.mem_filter, and_comm]
  simp

theorem idxOf_moduleNames_lt_iff {names : List String} {first second : String}
    (named : first ∈ moduleNames names) (named' : second ∈ moduleNames names) :
    (moduleNames names).idxOf first < (moduleNames names).idxOf second ↔
      names.idxOf first < names.idxOf second := by
  have listed {name : String} (named : name ∈ moduleNames names) :
      name ∈ names.filter (!·.isEmpty) := mem_distinct.mp named
  rw [moduleNames, idxOf_distinct_lt_iff (listed named) (listed named')]
  exact idxOf_filter_lt_iff (List.mem_filter.mp (listed named)).2
    (List.mem_filter.mp (listed named')).2

def walkedModules (program : List Stmt) : List String :=
  (walk (program.map .stmt)).flatMap Node.modules

def modulesTo (level : Nat) (program : List Stmt) : List String :=
  (levelsTo level (program.map .stmt)).flatMap Node.modules

theorem importsAt_iff {program : List Stmt} {level : Nat} {module : String} :
    ImportsAt program level module ↔
      ∃ node ∈ levelBelow level (program.map .stmt), module ∈ node.modules := by
  constructor
  · rintro ⟨s, stands, named⟩
    exact ⟨.stmt s, standsAt_iff.mp stands, named⟩
  · rintro ⟨node, below, named⟩
    cases node with
    | stmt s => exact ⟨s, standsAt_iff.mpr below, named⟩
    | handler h => cases named

theorem mem_walkedModules {program : List Stmt} {module : String} :
    module ∈ walkedModules program ↔ ∃ level, ImportsAt program level module := by
  simp only [walkedModules, List.mem_flatMap, mem_walk, importsAt_iff]
  grind

theorem mem_modulesTo {program : List Stmt} {level : Nat} {module : String} :
    module ∈ modulesTo level program ↔ ∃ k ≤ level, ImportsAt program k module := by
  simp only [modulesTo, List.mem_flatMap, mem_levelsTo, importsAt_iff]
  grind

theorem walkedModules_eq (level : Nat) (program : List Stmt) :
    ∃ deeper, walkedModules program = modulesTo level program ++ deeper :=
  ⟨(walk (levelBelow (level + 1) (program.map .stmt))).flatMap Node.modules, by
    rw [walkedModules, walk_eq_levels level, List.flatMap_append, modulesTo]⟩

theorem modulesTo_zero (program : List Stmt) :
    modulesTo 0 program = program.flatMap Stmt.modules := by
  rw [modulesTo, levelsTo, List.flatMap_map]
  rfl

theorem mem_importedModules {program : List Stmt} {module : String} :
    module ∈ importedModules program ↔ ∃ level, ImportsAt program level module := by
  rw [importedModules, ← walkedModules, mem_moduleNames, mem_walkedModules]
  constructor
  · exact fun ⟨_, imported⟩ => imported
  · exact fun ⟨level, imported⟩ => ⟨imported.filled, level, imported⟩

theorem idxOf_importedModules_lt_iff {program : List Stmt} {first second : String}
    (listed : first ∈ importedModules program) (listed' : second ∈ importedModules program) :
    (importedModules program).idxOf first < (importedModules program).idxOf second ↔
      (walkedModules program).idxOf first < (walkedModules program).idxOf second :=
  idxOf_moduleNames_lt_iff listed listed'

/-- The list of the modules that a program imports from: each of them once, those of outer levels
first, and those of the outermost level in the order of the source. -/
structure ImportsListed (program : List Stmt) (imports : List String) : Prop where
  once : imports.Nodup
  filled : "" ∉ imports
  complete : ∀ module, module ∈ imports ↔ ∃ level, ImportsAt program level module
  sourceOrder : ∀ first second, ImportsAt program 0 first → ImportsAt program 0 second →
    (imports.idxOf first < imports.idxOf second ↔
      (program.flatMap Stmt.modules).idxOf first < (program.flatMap Stmt.modules).idxOf second)
  outerFirst : ∀ level first second, ImportsAt program level first → second ∈ imports →
    (∀ k ≤ level, ¬ImportsAt program k second) → imports.idxOf first < imports.idxOf second
  breadthFirst : ∃ nodes, Drains (program.map .stmt) nodes ∧
    imports = moduleNames (nodes.flatMap Node.modules)

theorem importsListed (program : List Stmt) : ImportsListed program (importedModules program) where
  once := nodup_distinct _
  filled listed := (mem_moduleNames.mp listed).1 rfl
  complete _ := mem_importedModules
  sourceOrder first second here here' := by
    obtain ⟨deeper, parts⟩ := walkedModules_eq 0 program
    have outer {module : String} (here : ImportsAt program 0 module) :
        module ∈ program.flatMap Stmt.modules := by
      rw [← modulesTo_zero, mem_modulesTo]
      exact ⟨0, Nat.le_refl 0, here⟩
    rw [idxOf_importedModules_lt_iff (mem_importedModules.mpr ⟨0, here⟩)
      (mem_importedModules.mpr ⟨0, here'⟩), parts, modulesTo_zero, List.idxOf_append,
      List.idxOf_append, if_pos (outer here), if_pos (outer here')]
  outerFirst level first second here listed later := by
    obtain ⟨deeper, parts⟩ := walkedModules_eq level program
    have outer : first ∈ modulesTo level program := mem_modulesTo.mpr ⟨level, Nat.le_refl _, here⟩
    have inner : second ∉ modulesTo level program := fun member => by
      obtain ⟨k, bound, there⟩ := mem_modulesTo.mp member
      exact later k bound there
    rw [idxOf_importedModules_lt_iff (mem_importedModules.mpr ⟨level, here⟩) listed, parts,
      List.idxOf_append, List.idxOf_append, if_pos outer, if_neg inner]
    have := List.idxOf_lt_length_of_mem outer
    omega
  breadthFirst := ⟨_, drains_walk _, rfl⟩

/-- Of every program that is read the modules it imports from are listed, wherever it names them. -/
theorem imports_listed {room : Nat} {path : String} {content : Bytes} {program : List Stmt}
    {result : Extraction} (parsed : parse (Utf8.decodeReplacing content).toList = .ok program)
    (read : extraction room path content = .ok result) :
    ImportsListed program result.table.imports := by
  obtain ⟨_, -, -, -, imports, -⟩ := table_of_extraction parsed read
  rw [imports]
  exact importsListed program

def guardedText : String :=
  "try:\n  if a:\n    import z\n  import b\nexcept E:\n  from . import c\n" ++
    "import d.e, b\nfrom ..f import *\n"

theorem guardedText_listed : ∃ program result,
    parse (Utf8.decodeReplacing (Utf8.encode guardedText)).toList = .ok program ∧
      extraction 990 "guarded.py" (Utf8.encode guardedText) = .ok result ∧
      result.table.imports = ["d.e", "b", "..f", "z", "."] ∧
      ImportsListed program result.table.imports := by
  obtain ⟨program, result, parsed, read, imports⟩ := exists_of_checked 990 "guarded.py"
    (Utf8.encode guardedText)
    (fun result => result.table.imports = ["d.e", "b", "..f", "z", "."])
    (by decide +kernel) (by decide +kernel)
  exact ⟨program, result, parsed, read, of_decide_eq_true imports, imports_listed parsed read⟩

end SourceAtlas.Source.Python
