import SourceAtlas.Proofs.NotedWork
import SourceAtlas.Proofs.TextPieces
import SourceAtlas.Source.PythonSymbols

/-!
The symbol table of a module that the grammar accepts. It says the same in each of its parts: what
its types have as methods is what its functions have as receivers, and the names that the module
assigns are split between constants and variables.
-/
namespace SourceAtlas.Source.Python

open Text

def functionKey (function : FunctionSymbol) : Bool × Option String × String :=
  (function.method, function.receiver, function.name)

theorem functionKey_of_functionSymbol {room : Nat} {receiver : Option String} {isAsync : Bool}
    {name : String} {params : Params} {returns : Option Expr} {function : FunctionSymbol}
    (made : functionSymbol room receiver isAsync name params returns = .ok function) :
    functionKey function = (receiver.isSome, receiver, name) := by
  unfold functionSymbol at made
  dsimp only at made
  by_cases deep : (params.steps ++ returns.toList.map Step.into).any
      (Step.exceeds Step.calls (callLimit room)) = true
  · rw [if_pos deep] at made
    cases made
  · rw [if_neg deep] at made
    obtain ⟨_, _, made⟩ := exists_of_bind made
    obtain ⟨_, _, made⟩ := exists_of_bind made
    cases made
    rfl

theorem keys_of_definedFunctions {room : Nat} {receiver : Option String} {statements : List Stmt}
    {functions : List FunctionSymbol}
    (defined : definedFunctions room receiver statements = .ok functions) :
    functions.map functionKey =
      (statements.filterMap methodName).map fun name => (receiver.isSome, receiver, name) := by
  fun_induction definedFunctions room receiver statements generalizing functions
  case case1 =>
    cases defined
    rfl
  case case2 isAsync name params returns decorators body rest ih =>
    obtain ⟨first, made, defined⟩ := exists_of_bind defined
    obtain ⟨others, later, defined⟩ := exists_of_bind defined
    cases defined
    rw [List.map_cons, functionKey_of_functionSymbol made, ih later]
    rfl
  case case3 statement rest other ih =>
    have none : methodName statement = none := by
      cases statement <;> first | rfl | exact (other _ _ _ _ _ _ rfl).elim
    rw [ih defined, List.filterMap_cons_none none]

def placeKeys : Stmt → List (Bool × Option String × String)
  | .classDef name _ _ _ body =>
      (body.filterMap methodName).map fun method => (true, some name, method)
  | .function _ name _ _ _ _ => [(false, none, name)]
  | _ => []

theorem keys_of_moduleFunctions {room : Nat} {program : List Stmt} {functions : List FunctionSymbol}
    (defined : moduleFunctions room program = .ok functions) :
    functions.map functionKey = program.flatMap placeKeys := by
  fun_induction moduleFunctions room program generalizing functions
  case case1 =>
    cases defined
    rfl
  case case2 name bases keywords decorators body rest ih =>
    obtain ⟨methods, here, defined⟩ := exists_of_bind defined
    obtain ⟨others, later, defined⟩ := exists_of_bind defined
    cases defined
    rw [List.map_append, keys_of_definedFunctions here, ih later]
    rfl
  case case3 statement rest other ih =>
    obtain ⟨own, here, defined⟩ := exists_of_bind defined
    obtain ⟨others, later, defined⟩ := exists_of_bind defined
    cases defined
    have place : (List.filterMap methodName [statement]).map
        (fun name => ((none : Option String).isSome, (none : Option String), name)) =
          placeKeys statement := by
      cases statement <;> first | rfl | exact (other _ _ _ _ _ rfl).elim
    rw [List.map_append, keys_of_definedFunctions here, ih later, place, List.flatMap_cons]

theorem methods_placeKeys (program : List Stmt) :
    ((program.flatMap placeKeys).filter (·.1)).map (·.2) =
      (program.filterMap classSymbol).flatMap fun type =>
        type.methods.map fun method => (some type.name, method) := by
  induction program with
  | nil => rfl
  | cons statement rest ih =>
      rw [List.flatMap_cons, List.filter_append, List.map_append, ih]
      cases statement with
      | classDef name bases keywords decorators body =>
          have own : ((placeKeys (.classDef name bases keywords decorators body)).filter (·.1)).map
              (·.2) = (body.filterMap methodName).map fun method => (some name, method) := by
            rw [placeKeys, List.filter_eq_self.mpr (by simp), List.map_map]
            rfl
          rw [own]
          rfl
      | _ => rfl

theorem functions_placeKeys (program : List Stmt) :
    ((program.flatMap placeKeys).filter (!·.1)).map (·.2) =
      (program.filterMap methodName).map fun name => (none, name) := by
  induction program with
  | nil => rfl
  | cons statement rest ih =>
      rw [List.flatMap_cons, List.filter_append, List.map_append, ih]
      cases statement with
      | classDef name bases keywords decorators body =>
          have own : ((placeKeys (.classDef name bases keywords decorators body)).filter (!·.1)) =
              [] := by
            simp [placeKeys, List.filter_map, Function.comp_def]
          rw [own]
          rfl
      | _ => rfl

def Stmt.targets : Stmt → List Expr
  | .assign targets _ => targets
  | .annotated target _ _ => [target]
  | _ => []

/-- The names that an assignment to a name, or to a flat tuple of names, binds. -/
inductive Binds : Expr → List String → Prop
  | name (id : String) : Binds (.name id) [id]
  | tuple (names : List String) : Binds (.tuple (names.map .name)) names

/-- The names that the assignments of a module bind, in order; of a tuple with other parts, those
that are parts by themselves. -/
def boundNames (program : List Stmt) : List String :=
  (program.flatMap Stmt.targets).flatMap targetNames

theorem targetNames_of_binds {target : Expr} {names : List String} (binds : Binds target names) :
    targetNames target = names := by
  cases binds with
  | name id => rfl
  | tuple names =>
      rw [targetNames, List.filterMap_map]
      exact List.filterMap_some

theorem assignedNames_eq (statement : Stmt) :
    assignedNames statement = statement.targets.flatMap targetNames := by
  cases statement <;> simp [assignedNames, Stmt.targets]

theorem flatMap_assignedNames (program : List Stmt) :
    program.flatMap assignedNames = boundNames program := by
  rw [boundNames, List.flatMap_assoc, funext assignedNames_eq]

theorem isReserved_iff (name : String) : isReserved name = true ↔
    "__".toList <+: name.toList ∧ "__".toList <:+ name.toList := by
  rw [isReserved, Bool.and_eq_true, startsWith_iff, endsWith_iff]

theorem table_of_extraction {room : Nat} {path : String} {content : Bytes} {program : List Stmt}
    {result : Extraction}
    (parsed : parse (Utf8.decodeReplacing content).toList = .ok program)
    (read : extraction room path content = .ok result) :
    ∃ functions, moduleFunctions room program = .ok functions ∧
      result.table.functions = functions ∧
      result.table.types = program.filterMap classSymbol ∧
      result.table.imports = importedModules program ∧
      result.table.constants = ((boundNames program).filter (!isReserved ·)).filter isConstant ∧
      result.table.variableNames =
        ((boundNames program).filter (!isReserved ·)).filter (!isConstant ·) := by
  unfold extraction at read
  dsimp only at read
  rw [parsed] at read
  dsimp only at read
  split at read
  · cases read
  · split at read
    case h_2 => cases read
    case h_1 table made =>
      cases read
      obtain ⟨functions, defined, made⟩ := exists_of_bind made
      cases made
      refine ⟨functions, defined, rfl, rfl, rfl, ?_, ?_⟩ <;> rw [← flatMap_assignedNames] <;> rfl

structure SelfConsistent (program : List Stmt) (table : SymbolTable) : Prop where
  types : table.types = program.filterMap classSymbol
  methods : (table.functions.filter (·.method)).map (fun f => (f.receiver, f.name)) =
    table.types.flatMap fun type => type.methods.map fun method => (some type.name, method)
  functions : (table.functions.filter (!·.method)).map (fun f => (f.receiver, f.name)) =
    (program.filterMap methodName).map fun name => (none, name)
  bound : ∀ target ∈ program.flatMap Stmt.targets, ∀ names, Binds target names →
    targetNames target = names
  constants : table.constants = ((boundNames program).filter (!isReserved ·)).filter isConstant
  variableNames : table.variableNames =
    ((boundNames program).filter (!isReserved ·)).filter (!isConstant ·)
  reserved : ∀ name, isReserved name = true ↔
    "__".toList <+: name.toList ∧ "__".toList <:+ name.toList
  once : ∀ name, isReserved name = false →
    table.constants.count name = (boundNames program).count name ∧ name ∉ table.variableNames ∨
    table.variableNames.count name = (boundNames program).count name ∧ name ∉ table.constants

/-- Of every program that is read the table is consistent with itself. -/
theorem symbols_consistent {room : Nat} {path : String} {content : Bytes} {program : List Stmt}
    {result : Extraction} (parsed : parse (Utf8.decodeReplacing content).toList = .ok program)
    (read : extraction room path content = .ok result) : SelfConsistent program result.table := by
  obtain ⟨functions, defined, here, types, -, constants, variableNames⟩ :=
    table_of_extraction parsed read
  have keys := keys_of_moduleFunctions defined
  have chosen (p : Bool → Bool) : (result.table.functions.filter (p ·.method)).map
      (fun f => (f.receiver, f.name)) = ((program.flatMap placeKeys).filter (p ·.1)).map (·.2) := by
    rw [here, ← keys, List.filter_map, List.map_map]
    rfl
  exact {
    types := types
    methods := by
      rw [types]
      exact (chosen id).trans (methods_placeKeys program)
    functions := (chosen not).trans (functions_placeKeys program)
    bound := fun _ _ _ => targetNames_of_binds
    constants := constants
    variableNames := variableNames
    reserved := isReserved_iff
    once := by
      intro name plain
      have counted (p : String → Bool) (taken : p name = true) : ((((boundNames program).filter
          (!isReserved ·)).filter p).count name) = (boundNames program).count name :=
        (List.count_filter taken).trans (List.count_filter (by rw [plain]; rfl))
      rw [constants, variableNames]
      cases capital : isConstant name with
      | true =>
          refine .inl ⟨counted isConstant capital, fun listed => ?_⟩
          simp [capital] at listed
      | false =>
          refine .inr ⟨counted (!isConstant ·) (by rw [capital]; rfl), fun listed => ?_⟩
          simp [capital] at listed }

theorem exists_of_checked (room : Nat) (path : String) (content : Bytes) (check : Extraction → Bool)
    (accepted : (parse (Utf8.decodeReplacing content).toList).toOption.isSome = true)
    (checked : (extraction room path content).toOption.any check = true) :
    ∃ program result, parse (Utf8.decodeReplacing content).toList = .ok program ∧
      extraction room path content = .ok result ∧ check result = true := by
  cases parsed : parse (Utf8.decodeReplacing content).toList with
  | error fault =>
      rw [parsed] at accepted
      cases accepted
  | ok program =>
      cases read : extraction room path content with
      | error message =>
          rw [read] at checked
          cases checked
      | ok result =>
          rw [read] at checked
          exact ⟨program, result, rfl, rfl, checked⟩

def shelfText : String :=
  "A, b = 1, 2\n__all__ = x = A\nclass C:\n  def put(self): pass\ndef run(): pass\n"

theorem shelfText_consistent : ∃ program result,
    parse (Utf8.decodeReplacing (Utf8.encode shelfText)).toList = .ok program ∧
      extraction 990 "shelf.py" (Utf8.encode shelfText) = .ok result ∧
      result.table.types.map (·.methods) = [["put"]] ∧ result.table.constants = ["A"] ∧
      result.table.variableNames = ["b", "x"] ∧ SelfConsistent program result.table := by
  obtain ⟨program, result, parsed, read, known⟩ := exists_of_checked 990 "shelf.py"
    (Utf8.encode shelfText) (fun result => result.table.types.map (·.methods) = [["put"]] ∧
      result.table.constants = ["A"] ∧ result.table.variableNames = ["b", "x"])
    (by decide +kernel) (by decide +kernel)
  obtain ⟨methods, constants, variableNames⟩ := of_decide_eq_true known
  exact ⟨program, result, parsed, read, methods, constants, variableNames,
    symbols_consistent parsed read⟩

end SourceAtlas.Source.Python
