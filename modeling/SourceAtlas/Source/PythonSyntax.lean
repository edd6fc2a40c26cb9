import SourceAtlas.Decimal.Binary64
import SourceAtlas.Text.Quoted
import SourceAtlas.Text.Utf8

/-!
Syntax trees of Python programs. Expressions keep all that their text needs; statements keep their
expressions and bodies, patterns aside, and what a symbol table asks for.
-/
namespace SourceAtlas.Source.Python

open Text

inductive Constant
  | none
  | true
  | false
  | ellipsis
  | int (value : Nat)
  | float (value : Decimal.Magnitude)
  | imaginary (value : Decimal.Magnitude)
  | text (points : Points) (marked : Bool)
  | bytes (data : Text.Bytes)
  deriving BEq, Repr

inductive UnaryOp
  | invert
  | not
  | plus
  | minus
  deriving BEq, DecidableEq, Repr

inductive BinaryOp
  | add
  | sub
  | mul
  | matMul
  | div
  | mod
  | floorDiv
  | pow
  | shiftLeft
  | shiftRight
  | bitOr
  | bitXor
  | bitAnd
  deriving BEq, DecidableEq, Repr

inductive CompareOp
  | eq
  | notEq
  | less
  | lessEq
  | greater
  | greaterEq
  | is
  | isNot
  | isIn
  | notIn
  deriving BEq, DecidableEq, Repr

/-- The three displays that a comprehension without keys can build. -/
inductive Display
  | list
  | set
  | generator
  deriving BEq, DecidableEq, Repr

mutual

inductive Expr
  | name (id : String)
  | constant (value : Constant)
  | joined (parts : List Expr)
  | formatted (value : Expr) (conversion : Option Char) (spec : Option Expr)
  | unary (op : UnaryOp) (operand : Expr)
  | binary (op : BinaryOp) (left right : Expr)
  | all (operands : List Expr)
  | any (operands : List Expr)
  | compare (left : Expr) (ops : List CompareOp) (others : List Expr)
  | call (function : Expr) (args : List Expr) (keywords : List Keyword)
  | attribute (value : Expr) (name : String)
  | subscript (value index : Expr)
  | slice (lower upper step : Option Expr)
  | starred (value : Expr)
  | tuple (items : List Expr)
  | list (items : List Expr)
  | set (items : List Expr)
  | dict (items : List Item)
  | comprehension (display : Display) (element : Expr) (clauses : List Clause)
  | dictComprehension (key value : Expr) (clauses : List Clause)
  | function (params : Params) (body : Expr)
  | conditional (test body orelse : Expr)
  | await (value : Expr)
  | yield (value : Option Expr)
  | yieldFrom (value : Expr)
  | named (target value : Expr)

/-- An argument by name, or an unpacked mapping. -/
inductive Keyword
  | mk (name : Option String) (value : Expr)

inductive Item
  | mk (key : Option Expr) (value : Expr)

inductive Clause
  | mk (isAsync : Bool) (target source : Expr) (conditions : List Expr)

inductive Param
  | mk (name : String) (hint default : Option Expr)

/-- The parameters of a function: by position only, plain, collecting positions, by name only, and
collecting names. -/
inductive Params
  | mk (positional plain : List Param) (rest : Option Param) (named : List Param)
      (namedRest : Option Param)

end

def Params.empty : Params := .mk [] [] none [] none

def Expr.isConstant : Expr → Bool
  | .constant _ => true
  | _ => false

structure Name where
  text : String
  filled : text ≠ ""

/-- Where a `from` imports from: so many packages upwards, and the module there if one is named. -/
structure Origin where
  level : Nat
  module : Option Name
  named : 0 < level ∨ module.isSome

mutual

inductive Stmt
  | function (isAsync : Bool) (name : String) (params : Params) (returns : Option Expr)
      (decorators : List Expr) (body : List Stmt)
  | classDef (name : String) (bases : List Expr) (keywords : List Keyword) (decorators : List Expr)
      (body : List Stmt)
  | assign (targets : List Expr) (value : Expr)
  | annotated (target hint : Expr) (value : Option Expr)
  | importModules (names : List Name)
  | importFrom (origin : Origin)
  | branch (test : Expr) (body orelse : List Stmt)
  | loop (heads : List Expr) (body orelse : List Stmt)
  | withBlock (contexts : List Expr) (body : List Stmt)
  | tryBlock (body : List Stmt) (handlers : List Handler) (orelse final : List Stmt)
  | matchBlock (subjects : List Expr) (cases : List Handler)
  | simple (parts : List Expr)

/-- A handler of exceptions or a case of a match: a block one level further down than the blocks of
its statement. -/
inductive Handler
  | mk (heads : List Expr) (body : List Stmt)

end

end SourceAtlas.Source.Python
