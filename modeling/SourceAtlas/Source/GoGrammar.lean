import SourceAtlas.Parsing.Grammar

/-!
The grammar of Go programs. It is a lenient one: it takes statements at the top level, a program
without a package clause, and functions without bodies. A line end is a token that closes
statements, declarations and specifications; where it cannot do so it is mere layout.

Where a name could be an expression, a type or the head of a literal, all of these are read, and
points tell which reading counts. A brace after a bare name opens a literal only where no block
could follow.
-/
namespace SourceAtlas.Source.Go

open Parsing Shape

def name : Shape := .token "name"

def typeName : Shape := .named "type name" name

def fieldName : Shape := .named "field name" name

def packageName : Shape := .named "package name" name

def labelName : Shape := .named "label" name

def stringLiteral : Shape := .token "string"

def expression : Shape := .phrase "expression"

def type : Shape := .choice [.phrase "simple type", .phrase "parenthesized type"]

def parameters : Shape := .phrase "parameter list"

def block : Shape := .phrase "block"

/-- The result of a function, which may be missing. -/
def result : Shape := .optional (.choice [parameters, .phrase "simple type"])

/-- What closes a statement. -/
def terminator : Shape := .choice ["\n", ";", "\x00"]

/-- Items with ends between them; the last one needs none. -/
def ended (name : String) (item : Shape) : Shape :=
  .optional (.seq [item, .many name (.seq [terminator, item]), .optional terminator])

/-- Items with commas between them, a last comma being free. -/
def listed (name : String) (item : Shape) : Shape :=
  .seq [.commas name item, .optional ","]

def primaryLevel : Int := 7
def unaryLevel : Int := 6
def literalLevel : Int := -1

/-- The operators between two operands, the tightest first, with their levels. -/
def binaryOperators : List (Int × List String) :=
  [(5, ["*", "/", "%", "<<", ">>", "&", "&^"]), (4, ["+", "-", "|", "^"]),
    (3, ["==", "!=", "<", "<=", ">", ">="]), (2, ["&&"]), (1, ["||"])]

def assignments : List String :=
  ["*=", "/=", "%=", "<<=", ">>=", "&=", "&^=", "+=", "-=", "|=", "^=", "="]

def oneOf (tokens : List String) : Shape := .choice (tokens.map .token)

def primary (body : Shape) : Shape := .level primaryLevel none body

def leftward (body : Shape) : Shape := .level 0 (some .left) body

def rightward (body : Shape) : Shape := .level 0 (some .right) body

def topLevel : Shape :=
  .choice [.phrase "package clause", .phrase "function declaration", .phrase "method declaration",
    .phrase "import declaration"]

def typeSpecs : Shape := .choice [.phrase "type spec", .phrase "type alias"]

/-- The names of a constant specification; the commas between them are names too. -/
def constantNames : Shape :=
  .seq [.named "constant name" name,
    .many "constant names" (.seq [.named "constant name" ",", .named "constant name" name])]

def declarationShapes : List (String × Shape) :=
  [("program", .seq [.many "declarations" (.choice [.seq [.phrase "statement", terminator],
      .seq [topLevel, terminator]]), .optional topLevel]),
    ("package clause", .seq ["package", packageName]),
    ("import declaration", .seq ["import",
      .choice [.phrase "import spec", .phrase "import spec list"]]),
    ("import spec", .seq [.optional (.choice [".", "_", packageName]), stringLiteral]),
    ("import spec list", .seq ["(", ended "import specs" (.phrase "import spec"), ")"]),
    ("declaration", .choice [.phrase "constant declaration", .phrase "type declaration",
      .phrase "variable declaration"]),
    ("constant declaration", .seq ["const", .choice [.phrase "constant spec",
      .seq ["(", .many "constant specs" (.seq [.phrase "constant spec", terminator]), ")"]]]),
    ("constant spec", leftward (.seq [constantNames,
      .optional (.seq [.optional type, "=", .phrase "expression list"])])),
    ("variable declaration", .seq ["var", .choice [.phrase "variable spec",
      .seq ["(", .many "variable specs" (.seq [.phrase "variable spec", terminator]), ")"]]]),
    ("variable spec", .seq [.commas "variable names" (.named "variable name" name),
      .choice [.seq [type, .optional (.seq ["=", .phrase "expression list"])],
        .seq ["=", .phrase "expression list"]]]),
    ("function declaration", .level 1 (some .right) (.seq ["func", .named "function name" name,
      .optional (.phrase "type parameter list"), parameters, result, .optional block])),
    ("method declaration", .level 1 (some .right) (.seq ["func", .named "receiver" parameters,
      .named "function name" name, parameters, result, .optional block])),
    ("type declaration", .seq ["type", .choice [typeSpecs,
      .seq ["(", ended "type specs" typeSpecs, ")"]]]),
    ("type spec", .points 1 (.seq [typeName, .optional (.phrase "type parameter list"), type])),
    ("type alias", .seq [typeName, .optional (.phrase "type parameter list"), "=", type]),
    ("type parameter list",
      .seq ["[", listed "type parameters" (.phrase "type parameter declaration"), "]"]),
    ("type parameter declaration", .seq [.commas "type parameter names" name, .phrase "type elem"]),
    ("parameter list", .seq ["(", .optional (.commas "parameters"
      (.choice [.phrase "parameter declaration", .phrase "variadic parameter declaration"])),
      .optional ",", ")"]),
    ("parameter declaration", .seq [.optional (.commas "parameter names" name), type]),
    ("variadic parameter declaration", .seq [.optional name, "...", type])]

def typeShapes : List (String × Shape) :=
  [("parenthesized type", .seq ["(", type, ")"]),
    ("simple type", .choice [.points (-1) typeName, .phrase "generic type",
      .phrase "qualified type",
      .phrase "pointer type", .phrase "struct type", .phrase "interface type", .phrase "array type",
      .phrase "slice type", .phrase "map type", .phrase "channel type", .phrase "function type",
      .phrase "negated type"]),
    ("generic type", .points 1 (.seq [.choice [typeName, .phrase "qualified type",
      .phrase "negated type"], .phrase "type arguments"])),
    ("type arguments", .points 2
      (.seq ["[", listed "type argument list" (.phrase "type elem"), "]"])),
    ("qualified type", .seq [packageName, ".", typeName]),
    ("pointer type", .level unaryLevel none (.seq ["*", type])),
    ("array type", rightward (.seq ["[", expression, "]", type])),
    ("open array type", .seq ["[", "...", "]", type]),
    ("slice type", rightward (.seq ["[", "]", type])),
    ("struct type", .seq ["struct", .phrase "field list"]),
    ("negated type", leftward (.seq ["~", type])),
    ("field list", .seq ["\x7b", ended "fields" (.phrase "field declaration"), "\x7d"]),
    ("field declaration", .seq [.choice [.seq [.commas "field names" fieldName, type],
      .seq [.optional "*", .choice [typeName, .phrase "qualified type", .phrase "generic type"]]],
      .optional stringLiteral]),
    ("interface type", .seq ["interface", "\x7b", ended "elems"
      (.choice [.phrase "method elem", .phrase "type elem"]), "\x7d"]),
    ("method elem", .seq [.named "method name" name, parameters, result]),
    ("type elem", .seq [type, .many "type alternatives" (.seq ["|", type])]),
    ("map type", rightward (.seq ["map", "[", type, "]", type])),
    ("channel type", leftward (.choice [.seq ["chan", type], .seq ["chan", "<-", type],
      .level unaryLevel none (.seq ["<-", "chan", type])])),
    ("function type", rightward (.seq ["func", parameters, result]))]

def simpleStatement : Shape := .phrase "simple statement"

def statements : Shape := .optional (.phrase "statement list")

/-- A simple statement that stands before what a statement is about. -/
def initializer : Shape := .optional (.seq [simpleStatement, ";"])

def bareLabel : Shape := .phrase "empty labeled statement"

def statementShapes : List (String × Shape) :=
  [("block", .seq ["\x7b", statements, "\x7d"]),
    ("statement list", .choice [.seq [.phrase "statement",
      .many "statements" (.seq [terminator, .phrase "statement"]),
      .optional (.seq [terminator, .optional bareLabel])], bareLabel]),
    ("statement", .choice [.phrase "declaration", simpleStatement, .phrase "return statement",
      .phrase "go statement", .phrase "defer statement", .phrase "if statement",
      .phrase "for statement", .phrase "expression switch", .phrase "type switch",
      .phrase "select statement", .phrase "labeled statement", .phrase "fallthrough statement",
      .phrase "break statement", .phrase "continue statement", .phrase "goto statement", block,
      .phrase "empty statement"]),
    ("empty statement", ";"),
    ("simple statement", .choice [.phrase "expression statement", .phrase "send statement",
      .phrase "increment", .phrase "decrement", .phrase "assignment",
      .phrase "short variable declaration"]),
    ("expression statement", expression),
    ("send statement", .seq [expression, "<-", expression]),
    ("receive statement", .seq [.optional (.seq [.phrase "expression list", oneOf ["=", ":="]]),
      expression]),
    ("increment", .seq [expression, "++"]),
    ("decrement", .seq [expression, "--"]),
    ("assignment", .seq [.phrase "expression list", oneOf assignments, .phrase "expression list"]),
    ("short variable declaration", .seq [.phrase "expression list", ":=",
      .phrase "expression list"]),
    ("labeled statement", .seq [labelName, ":", .phrase "statement"]),
    ("empty labeled statement", .seq [labelName, ":"]),
    ("fallthrough statement", leftward "fallthrough"),
    ("break statement", .seq ["break", .optional labelName]),
    ("continue statement", .seq ["continue", .optional labelName]),
    ("goto statement", .seq ["goto", labelName]),
    ("return statement", .seq ["return", .optional (.phrase "expression list")]),
    ("go statement", .seq ["go", expression]),
    ("defer statement", .seq ["defer", expression]),
    ("if statement", .seq ["if", initializer, expression, block,
      .optional (.seq ["else", .choice [block, .phrase "if statement"]])]),
    ("for statement", .seq ["for", .optional (.choice [expression, .phrase "for clause",
      .phrase "range clause"]), block]),
    ("for clause", .seq [.optional simpleStatement, ";", .optional expression, ";",
      .optional simpleStatement]),
    ("range clause", .seq [.optional (.seq [.phrase "expression list", oneOf ["=", ":="]]), "range",
      expression]),
    ("expression switch", .seq ["switch", initializer, .optional expression, "\x7b",
      .many "expression cases" (.choice [.phrase "expression case", .phrase "default case"]),
      "\x7d"]),
    ("expression case", .seq ["case", .phrase "expression list", ":", statements]),
    ("default case", .seq ["default", ":", statements]),
    ("type switch", .seq ["switch", .phrase "type switch header", "\x7b",
      .many "type cases" (.choice [.phrase "type case", .phrase "default case"]), "\x7d"]),
    ("type switch header", .seq [initializer, .optional (.seq [.phrase "expression list", ":="]),
      expression, ".", "(", "type", ")"]),
    ("type case", .seq ["case", .commas "case types" type, ":", statements]),
    ("select statement", .seq ["select", "\x7b",
      .many "communication cases" (.choice [.phrase "communication case", .phrase "default case"]),
      "\x7d"]),
    ("communication case", .seq ["case", .choice [.phrase "send statement",
      .phrase "receive statement"], ":", statements])]

/-- The functions that take a type. -/
def allocators : Shape := oneOf ["new", "make"]

def argument : Shape := .choice [expression, .phrase "variadic argument"]

def binaryShape : Shape :=
  .choice (binaryOperators.map fun (tightness, operators) =>
    .level tightness (some .left) (.seq [expression, oneOf operators, expression]))

def expressionShapes : List (String × Shape) :=
  [("expression list", .commas "expressions" expression),
    ("expression", .choice [.phrase "unary expression", .phrase "binary expression",
      .phrase "selector", .phrase "index", .phrase "slice", .phrase "call",
      .phrase "type assertion", .phrase "type conversion", .phrase "type instantiation", name,
      allocators, .phrase "composite literal", .phrase "function literal", stringLiteral, "number",
      "rune", "nil", "true", "false", "iota", .phrase "parenthesized expression"]),
    ("parenthesized expression", .seq ["(", expression, ")"]),
    ("call", primary (.choice [.seq [allocators, .phrase "allocation list"],
      .seq [expression, .optional (.phrase "type arguments"), .phrase "argument list"]])),
    ("variadic argument", rightward (.seq [expression, "..."])),
    ("allocation list", .seq ["(", .optional (.seq [type,
      .many "allocation arguments" (.seq [",", expression]), .optional ","]), ")"]),
    ("argument list", .seq ["(", .optional (listed "arguments" argument), ")"]),
    ("selector", primary (.seq [expression, ".", fieldName])),
    ("index", primary (.seq [expression, "[", expression, "]"])),
    ("slice", primary (.seq [expression, "[", .choice [
      .seq [.optional expression, ":", .optional expression],
      .seq [.optional expression, ":", expression, ":", expression]], "]"])),
    ("type assertion", primary (.seq [expression, ".", "(", type, ")"])),
    ("type conversion", .points (-1) (.seq [type, "(", expression, .optional ",", ")"])),
    ("type instantiation", primary (.seq [type, "[", listed "instance types" type, "]"])),
    ("composite literal", .level literalLevel none (.seq [.choice [.phrase "map type",
      .phrase "slice type", .phrase "array type", .phrase "open array type", .phrase "struct type",
      typeName, .phrase "generic type", .phrase "qualified type"], .phrase "literal value"])),
    ("literal value", .seq ["\x7b", .optional (.commas "literal elements"
      (.choice [.phrase "literal element", .phrase "keyed element"])), .optional ",", "\x7d"]),
    ("literal element", .choice [expression, .phrase "literal value"]),
    ("keyed element", .seq [.phrase "literal element", ":", .phrase "literal element"]),
    ("function literal", .seq ["func", parameters, result, block]),
    ("unary expression", .level unaryLevel none
      (.seq [oneOf ["+", "-", "!", "^", "*", "&", "<-"], expression])),
    ("binary expression", binaryShape)]

/-- The grammar of programs. -/
def grammar : Grammar where
  start := "program"
  shapes := declarationShapes ++ typeShapes ++ statementShapes ++ expressionShapes
  hidden := ["declaration", "statement", "simple statement", "simple type", "expression"]

/-- The table of the grammar. -/
def table : Table := grammar.table

end SourceAtlas.Source.Go
