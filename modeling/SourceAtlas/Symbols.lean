/-!
The shallow symbol table of one source file.
-/
namespace SourceAtlas

structure FunctionSymbol where
  name : String
  exported : Bool := false
  method : Bool := false
  receiver : Option String := none
  signature : Option String := none
  deriving BEq, DecidableEq, Repr

/-- A type definition: a struct, class, interface, enumeration and so on. -/
structure TypeSymbol where
  name : String
  kind : String
  exported : Bool := false
  fields : List String := []
  methods : List String := []
  deriving BEq, DecidableEq, Repr

structure SymbolTable where
  package : Option String := none
  imports : List String := []
  functions : List FunctionSymbol := []
  types : List TypeSymbol := []
  constants : List String := []
  variableNames : List String := []
  frameworks : List String := []
  risks : List String := []
  deriving BEq, DecidableEq, Repr

def SymbolTable.isEmpty (table : SymbolTable) : Bool :=
  (table.package.getD "").isEmpty && table.imports.isEmpty && table.functions.isEmpty &&
    table.types.isEmpty && table.constants.isEmpty && table.variableNames.isEmpty

end SourceAtlas
