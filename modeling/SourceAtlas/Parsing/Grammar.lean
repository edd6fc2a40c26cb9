import Std.Data.HashMap

/-!
Grammars and their tables. A grammar gives every phrase a shape over tokens and other phrases. Its
table numbers the tokens and the phrases, and spells every shape out into productions without
choices. No phrase is empty: a production without parts is left out.
-/
namespace SourceAtlas.Parsing

/-- The side that operators of one level lean to. -/
inductive Side
  | left
  | right
  deriving BEq, DecidableEq, Repr

/-- What a phrase can be made of. -/
inductive Shape
  | token (name : String)
  | phrase (name : String)
  | seq (parts : List Shape)
  | choice (options : List Shape)
  /-- the body any number of times; the phrase that holds the bodies has the name -/
  | many (name : String) (body : Shape)
  /-- the body binds at a level, the higher the tighter, and may lean to a side -/
  | level (n : Int) (side : Option Side) (body : Shape)
  /-- of two readings of a text the one with more points counts -/
  | points (n : Int) (body : Shape)
  /-- the parts of the body go by another name -/
  | named (name : String) (body : Shape)

instance : Coe String Shape := ⟨.token⟩

namespace Shape

def optional (body : Shape) : Shape := .choice [body, .seq []]

def commas (name : String) (body : Shape) : Shape :=
  .seq [body, .many name (.seq [.token ",", body])]

end Shape

structure Grammar where
  start : String
  shapes : List (String × Shape)
  /-- phrases that do not show: their parts stand in their places -/
  hidden : List String

/-- A token or a phrase. -/
inductive Symbol (α : Type)
  | token (id : α)
  | phrase (id : α)
  deriving BEq, Repr

/-- One part of a production. -/
structure Step (α : Type) where
  symbol : Symbol α
  level : Option Int := none
  side : Option Side := none
  name : Option String := none
  deriving BEq, Repr

/-- One way to make a phrase, by names. -/
structure Draft where
  steps : List (Step String)
  points : Int := 0
  deriving BEq

namespace Draft

def single (symbol : Symbol String) : Draft := ⟨[{ symbol := symbol }], 0⟩

def append (a b : Draft) : Draft := ⟨a.steps ++ b.steps, a.points + b.points⟩

def withLevel (n : Int) (side : Option Side) (draft : Draft) : Draft :=
  { draft with steps := draft.steps.map fun step =>
      { step with level := step.level.or (some n), side := step.side.or side } }

def withName (name : String) (draft : Draft) : Draft :=
  { draft with steps := draft.steps.map fun step => { step with name := some name } }

end Draft

namespace Shape

mutual

def drafts : Shape → List Draft
  | .token name => [.single (.token name)]
  | .phrase name => [.single (.phrase name)]
  | .seq parts => draftsOfSeq parts
  | .choice options => draftsOfChoice options
  | .many name _ => [.single (.phrase name), ⟨[], 0⟩]
  | .level n side body => (drafts body).map (Draft.withLevel n side)
  | .points n body => (drafts body).map fun draft => { draft with points := draft.points + n }
  | .named name body => (drafts body).map (Draft.withName name)

def draftsOfSeq : List Shape → List Draft
  | [] => [⟨[], 0⟩]
  | shape :: rest =>
      let tails := draftsOfSeq rest
      (drafts shape).flatMap fun head => tails.map head.append

def draftsOfChoice : List Shape → List Draft
  | [] => []
  | shape :: rest => drafts shape ++ draftsOfChoice rest

end

def distinctDrafts (shape : Shape) : List Draft :=
  (shape.drafts.filter fun draft => !draft.steps.isEmpty).eraseDups

mutual

/-- The shapes of the phrases that hold repetitions: a list before one more body, or one body. -/
def repetitions : Shape → List (String × Shape)
  | .token _ | .phrase _ => []
  | .seq parts | .choice parts => repetitionsOfList parts
  | .many name body => (name, .choice [.seq [.phrase name, body], body]) :: repetitions body
  | .level _ _ body | .points _ body | .named _ body => repetitions body

def repetitionsOfList : List Shape → List (String × Shape)
  | [] => []
  | shape :: rest => repetitions shape ++ repetitionsOfList rest

end

end Shape

/-- One way to make a phrase, by numbers. -/
structure Production where
  head : Nat
  steps : Array (Step Nat)
  points : Int

/-- How the first part of a phrase leads to another phrase: what can follow that one inside of the
phrase, and whether what follows the phrase can follow it too. -/
structure Opening where
  head : Nat
  follow : Nat
  inherits : Bool

/-- A grammar by numbers. Sets of tokens are numbers whose bits are the members. -/
structure Table where
  tokens : Array String
  heads : Array String
  isList : Array Bool
  isHidden : Array Bool
  tokenIds : Std.HashMap String Nat
  productions : Array Production
  firsts : Array Nat
  openings : Array (List Opening)
  byToken : Array (List Nat)
  byHead : Array (List Nat)

def only (token : Nat) : Nat := Nat.shiftLeft 1 token

def firstsOf (firsts : Array Nat) : Symbol Nat → Nat
  | .token id => only id
  | .phrase id => firsts.getD id 0

def firstsRound (productions : Array Production) (firsts : Array Nat) : Array Nat :=
  productions.foldl (fun firsts production =>
    match production.steps[0]? with
    | some step => firsts.modify production.head (· ||| firstsOf firsts step.symbol)
    | none => firsts) firsts

def firstsFrom (productions : Array Production) : Nat → Array Nat → Array Nat
  | 0, firsts => firsts
  | n + 1, firsts =>
      let next := firstsRound productions firsts
      if next == firsts then firsts else firstsFrom productions n next

def addOpening (new : Opening) : List Opening → List Opening
  | [] => [new]
  | old :: rest =>
      if old.head == new.head then
        ⟨old.head, old.follow ||| new.follow, old.inherits || new.inherits⟩ :: rest
      else old :: addOpening new rest

def openingsOf (firsts : Array Nat) (heads : Nat) (productions : Array Production) :
    Array (List Opening) :=
  productions.foldl (fun openings production =>
    match production.steps.toList.map Step.symbol with
    | .phrase first :: second :: _ =>
        openings.modify production.head (addOpening ⟨first, firstsOf firsts second, false⟩)
    | [.phrase first] => openings.modify production.head (addOpening ⟨first, 0, true⟩)
    | _ => openings) (Array.replicate heads [])

/-- The productions by their first part, where it is one that `pick` numbers. -/
def startingWith (pick : Symbol Nat → Option Nat) (size : Nat) (productions : Array Production) :
    Array (List Nat) :=
  (List.range productions.size).foldl (fun lists index =>
    match (productions[index]?).bind fun p => (p.steps[0]?).bind fun step => pick step.symbol with
    | some id => lists.modify id (index :: ·)
    | none => lists) (Array.replicate size [])

def endToken : String := ""

def draftTokens (drafts : List Draft) : List String :=
  drafts.flatMap fun draft => draft.steps.filterMap fun step =>
    match step.symbol with
    | .token name => some name
    | .phrase _ => none

def numbered (names : Array String) : Std.HashMap String Nat :=
  (List.range names.size).foldl (fun ids index => ids.insert (names.getD index "") index) {}

def numberedStep (tokenIds headIds : Std.HashMap String Nat) (step : Step String) : Step Nat where
  symbol := match step.symbol with
    | .token name => .token (tokenIds.getD name 0)
    | .phrase name => .phrase (headIds.getD name 0)
  level := step.level
  side := step.side
  name := step.name

def numberedDraft (tokenIds headIds : Std.HashMap String Nat) (head : Nat) (draft : Draft) :
    Production where
  head := head
  steps := (draft.steps.map (numberedStep tokenIds headIds)).toArray
  points := draft.points

def distinctNames (names : List String) : Array String :=
  (names.foldl (fun (seen : Std.HashMap String Unit × Array String) name =>
    if seen.1.contains name then seen else (seen.1.insert name (), seen.2.push name))
    ({}, #[])).2

/-- The table of a grammar. Its first production leads from a phrase of its own to the start. -/
def Grammar.table (grammar : Grammar) : Table :=
  let lists := grammar.shapes.flatMap fun (_, shape) => shape.repetitions
  let shapes := ("", Shape.phrase grammar.start) :: grammar.shapes ++ lists
  let drafts := shapes.map fun (name, shape) => (name, shape.distinctDrafts)
  let tokens := distinctNames (endToken :: drafts.flatMap fun (_, ds) => draftTokens ds)
  let heads := distinctNames (shapes.map Prod.fst)
  let tokenIds := numbered tokens
  let headIds := numbered heads
  let listIds := numbered (distinctNames (lists.map Prod.fst))
  let productions := (drafts.flatMap fun (name, ds) =>
    ds.map (numberedDraft tokenIds headIds (headIds.getD name 0))).toArray
  let firsts := firstsFrom productions heads.size (Array.replicate heads.size 0)
  { tokens := tokens
    heads := heads
    isList := heads.map listIds.contains
    isHidden := heads.map grammar.hidden.contains
    tokenIds := tokenIds
    productions := productions
    firsts := firsts
    openings := openingsOf firsts heads.size productions
    byToken := startingWith (fun symbol => match symbol with
      | .token id => some id
      | .phrase _ => none) tokens.size productions
    byHead := startingWith (fun symbol => match symbol with
      | .phrase id => some id
      | .token _ => none) heads.size productions }

namespace Table

def tokenId (table : Table) (name : String) : Nat := table.tokenIds.getD name table.tokens.size

/-- What follows the first `dot` steps of a production. -/
def symbolAt? (table : Table) (production dot : Nat) : Option (Symbol Nat) :=
  (table.productions[production]?).bind fun p => (p.steps[dot]?).map (·.symbol)

end Table

end SourceAtlas.Parsing
