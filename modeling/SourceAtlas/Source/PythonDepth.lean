import SourceAtlas.Source.PythonSyntax

/-!
How deep programs go. A tree below a bound of levels is read, and an expression is written as long
as its writing stays within a bound of nested calls.
-/
namespace SourceAtlas.Source.Python

/-- A step from an expression to one inside it: the levels of the tree that it goes down, and the
calls that lead from writing the outer one to writing the inner one. -/
structure Step where
  levels : Nat
  calls : Nat
  inner : Expr

namespace Step

/-- A step with calls on the way besides the three that every expression takes. A constant takes one
call more. -/
def through (levels extra : Nat) (e : Expr) : Step :=
  ⟨levels, extra + (if e.isConstant then 4 else 3), e⟩

def into (e : Expr) : Step := through 1 0 e

end Step

def Params.steps : Params → List Step
  | .mk positional plain rest named namedRest =>
      (positional ++ plain ++ rest.toList ++ named ++ namedRest.toList).flatMap fun
        | .mk _ hint default =>
            hint.toList.map (Step.through 3 6) ++ default.toList.map (Step.through 2 3)

def Keyword.step : Keyword → Step
  | .mk _ value => .through 2 3 value

def Item.steps : Item → List Step
  | .mk none value => [.through 1 2 value]
  | .mk (some key) value => [.through 1 3 key, .through 1 3 value]

def Clause.steps : Clause → List Step
  | .mk _ target source conditions => (target :: source :: conditions).map (Step.through 2 3)

def tupleCalls (items : List Expr) : Nat := if items.length = 1 then 1 else 2

def indexSteps : Expr → List Step
  | .tuple items => if items.isEmpty then [.into (.tuple items)]
      else items.map (Step.through 2 (tupleCalls items))
  | index => [.into index]

def Expr.steps : Expr → List Step
  | .name _ | .constant _ => []
  | .joined parts => parts.map fun part => ⟨1, 1, part⟩
  | .formatted value _ spec => .through 1 1 value :: spec.toList.map fun part => ⟨1, 1, part⟩
  | .unary _ operand => [.into operand]
  | .binary _ left right => [.into left, .into right]
  | .all operands | .any operands => operands.map (Step.through 1 2)
  | .compare left _ others => (left :: others).map Step.into
  | .call callee args keywords => (callee :: args).map Step.into ++ keywords.map Keyword.step
  | .attribute value _ => [.into value]
  | .subscript value index => .into value :: indexSteps index
  | .slice lower upper step => (lower.toList ++ upper.toList ++ step.toList).map Step.into
  | .starred value => [.into value]
  | .tuple items => items.map (Step.through 1 (tupleCalls items))
  | .list items | .set items => items.map (Step.through 1 1)
  | .dict items => items.flatMap Item.steps
  | .comprehension _ element clauses => .into element :: clauses.flatMap Clause.steps
  | .dictComprehension key value clauses =>
      .into key :: .into value :: clauses.flatMap Clause.steps
  | .function params body => params.steps ++ [.into body]
  | .conditional test body orelse => [.into test, .into body, .into orelse]
  | .await value | .yieldFrom value => [.into value]
  | .yield value => value.toList.map Step.into
  | .named target value => [.into target, .into value]

/-- Whether some chain of steps costs more than a limit, each step costing one at least. -/
def Step.exceeds (cost : Step → Nat) (limit : Nat) (step : Step) : Bool :=
  match limit with
  | 0 => true
  | n + 1 => cost step > n + 1 ||
      step.inner.steps.any fun next => exceeds cost (n - (cost step - 1)) next
termination_by limit
decreasing_by omega

def Handler.steps : Handler → List Step
  | .mk heads _ => heads.map (Step.through 2 3)

def Handler.inner : Handler → List (Nat × Stmt)
  | .mk _ body => body.map (2, ·)

def Stmt.steps : Stmt → List Step
  | .function _ _ params returns decorators _ =>
      params.steps ++ (returns.toList ++ decorators).map Step.into
  | .classDef _ bases keywords decorators _ =>
      (bases ++ decorators).map Step.into ++ keywords.map Keyword.step
  | .assign targets value => (targets ++ [value]).map Step.into
  | .annotated target hint value => (target :: hint :: value.toList).map Step.into
  | .branch test _ _ => [.into test]
  | .loop heads _ _ => heads.map Step.into
  | .withBlock contexts _ => contexts.map (Step.through 2 3)
  | .tryBlock _ handlers _ _ => handlers.flatMap Handler.steps
  | .matchBlock subjects cases => subjects.map Step.into ++ cases.flatMap Handler.steps
  | .simple parts => parts.map Step.into
  | .importModules _ | .importFrom _ => []

def Stmt.inner : Stmt → List (Nat × Stmt)
  | .function _ _ _ _ _ body | .classDef _ _ _ _ body | .withBlock _ body => body.map (1, ·)
  | .branch _ body orelse | .loop _ body orelse => (body ++ orelse).map (1, ·)
  | .tryBlock body handlers orelse final =>
      (body ++ orelse ++ final).map (1, ·) ++ handlers.flatMap Handler.inner
  | .matchBlock _ cases => cases.flatMap Handler.inner
  | _ => []

/-- Whether a statement reaches below so many levels under it. -/
def Stmt.isDeeper (levels : Nat) (stmt : Stmt) : Bool :=
  match levels with
  | 0 => !stmt.steps.isEmpty || !stmt.inner.isEmpty
  | n + 1 => stmt.steps.any (Step.exceeds Step.levels (n + 1)) ||
      stmt.inner.any fun (down, inner) => isDeeper (n - (down - 1)) inner
termination_by levels
decreasing_by omega

/-- How many levels of a tree may stand below a statement of a program. Three calls lead to the
making of the tree, where each call that is left counts for three levels, and the program and the
statement are two of them. -/
def treeLimit (room : Nat) : Nat := 3 * (room - 3) - 2

/-- How many calls the writing of a signature may nest; seven lead to it. -/
def callLimit (room : Nat) : Nat := room - 7

def isTooDeep (room : Nat) (program : List Stmt) : Bool :=
  program.any (Stmt.isDeeper (treeLimit room))

end SourceAtlas.Source.Python
