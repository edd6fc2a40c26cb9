import SourceAtlas.Parsing.Grammar

/-!
The states of a reader that takes tokens from the left. A state knows which productions may be under
way and what may follow each of them; from that comes what it does at a token. Where taking the
token and closing a phrase are both possible, levels and sides decide, and where they do not, both
are done.

States are made as they are met and are kept.
-/
namespace SourceAtlas.Parsing

/-- A production of which some steps have been read, with the tokens that may follow it. -/
structure Item where
  production : Nat
  dot : Nat
  follow : Nat
  deriving BEq, Hashable, Repr

structure State where
  kernel : List Item
  /-- the phrases that may start here, by what may follow them; no token for those that may not -/
  starting : Array Nat
  taken : Nat
  valid : Nat

/-- What is done at a token: it is taken, or productions are closed. -/
structure Action where
  takes : Bool
  closes : List Nat

/-- The states met so far. -/
structure Machine where
  states : Array State := #[]
  ids : Std.HashMap (List Item) Nat := {}
  moves : Std.HashMap Nat Nat := {}
  actions : Std.HashMap Nat Action := {}

namespace Table

def followAfter (table : Table) (item : Item) : Nat :=
  match table.symbolAt? item.production (item.dot + 1) with
  | some symbol => firstsOf table.firsts symbol
  | none => item.follow

def startingRound (table : Table) (starting : Array Nat) : Array Nat :=
  (List.range starting.size).foldl (fun starting head =>
    let follow := starting.getD head 0
    if follow == 0 then starting
    else (table.openings.getD head []).foldl (fun starting opening =>
      starting.modify opening.head
        (· ||| opening.follow ||| (if opening.inherits then follow else 0))) starting) starting

/-- Rounds until nothing is added. -/
def startingFrom (table : Table) : Nat → Array Nat → Array Nat
  | 0, starting => starting
  | n + 1, starting =>
      let next := table.startingRound starting
      if next == starting then starting else table.startingFrom n next

def mayStart (table : Table) (starting : Array Nat) (production : Nat) : Bool :=
  match table.productions[production]? with
  | some p => starting.getD p.head 0 != 0
  | none => false

def opened (table : Table) (starting : Array Nat) : Nat :=
  (List.range table.byToken.size).foldl (fun set token =>
    if (table.byToken.getD token []).any (table.mayStart starting) then set ||| only token
    else set) 0

def stateOf (table : Table) (kernel : List Item) : State :=
  let seeds := kernel.foldl (fun starting item =>
    match table.symbolAt? item.production item.dot with
    | some (.phrase head) => starting.modify head (· ||| table.followAfter item)
    | _ => starting) (Array.replicate table.heads.size 0)
  let starting := table.startingFrom (table.heads.size * table.heads.size) seeds
  let taken := kernel.foldl (fun set item =>
    match table.symbolAt? item.production item.dot with
    | some (.token id) => set ||| only id
    | _ => set) (table.opened starting)
  let closed := kernel.foldl (fun set item =>
    if (table.symbolAt? item.production item.dot).isNone then set ||| item.follow else set) 0
  ⟨kernel, starting, taken, taken ||| closed⟩

def itemBefore (a b : Item) : Bool :=
  a.production < b.production || (a.production == b.production && a.dot ≤ b.dot)

def after (table : Table) (state : State) (symbol : Symbol Nat) : List Item :=
  let onward := state.kernel.filterMap fun item =>
    if table.symbolAt? item.production item.dot == some symbol then
      some { item with dot := item.dot + 1 }
    else none
  let candidates := match symbol with
    | .token id => table.byToken.getD id []
    | .phrase id => table.byHead.getD id []
  let fresh := candidates.filterMap fun production =>
    match table.productions[production]? with
    | some p =>
        let follow := state.starting.getD p.head 0
        if follow == 0 then none else some ⟨production, 1, follow⟩
    | none => none
  (onward ++ fresh).mergeSort itemBefore

def stepBefore? (table : Table) (item : Item) : Option (Step Nat) :=
  (table.productions[item.production]?).bind fun p => p.steps[item.dot - 1]?

/-- The level at which an item is bound by the last step that was read. -/
def levelOf (table : Table) (item : Item) : Int :=
  ((table.stepBefore? item).bind (·.level)).getD 0

def sideOf (table : Table) (item : Item) : Option Side :=
  (table.stepBefore? item).bind (·.side)

/-- What a state does at a token. Of productions to close only those of the highest level count.
Taking the token wins against them if all that it goes on with binds tighter, or as tight where they
lean to the right; it loses if all of that binds looser, or as tight where they lean to the left. -/
def decide (table : Table) (state : State) (token : Nat) : Action :=
  let closing := state.kernel.filter fun item =>
    (table.symbolAt? item.production item.dot).isNone && item.follow.testBit token
  let level := (closing.map table.levelOf).foldl max ((closing.head?.map table.levelOf).getD 0)
  let closing := closing.filter fun item => table.levelOf item == level
  let productions := closing.map (·.production)
  let takes := state.taken.testBit token
  if !takes || closing.isEmpty then ⟨takes, productions⟩
  else
    let levels := (state.kernel.filter fun item =>
      match table.symbolAt? item.production item.dot with
      | some symbol => item.dot > 0 && (firstsOf table.firsts symbol).testBit token
      | none => false).map table.levelOf
    let tighter := levels.any (· > level)
    let looser := levels.any (· < level)
    let sides := closing.map table.sideOf
    if tighter && !looser then ⟨true, []⟩
    else if looser && !tighter then ⟨false, productions⟩
    else if tighter then ⟨true, productions⟩
    else if sides.all (· == some .left) then ⟨false, productions⟩
    else if sides.all (· == some .right) then ⟨true, []⟩
    else ⟨true, productions⟩

end Table

namespace Machine

def stateId (table : Table) (machine : Machine) (kernel : List Item) : Nat × Machine :=
  match machine.ids.get? kernel with
  | some id => (id, machine)
  | none =>
      let id := machine.states.size
      (id, { machine with
        states := machine.states.push (table.stateOf kernel)
        ids := machine.ids.insert kernel id })

/-- A number for a state together with a token or a phrase. -/
def keyOf (table : Table) (state : Nat) : Symbol Nat → Nat
  | .token id => state * (table.tokens.size + table.heads.size) + id
  | .phrase id => state * (table.tokens.size + table.heads.size) + table.tokens.size + id

def move (table : Table) (machine : Machine) (state : Nat) (symbol : Symbol Nat) : Nat × Machine :=
  let key := keyOf table state symbol
  match machine.moves.get? key with
  | some next => (next, machine)
  | none =>
      match machine.states[state]? with
      | none => (0, machine)
      | some found =>
          let (next, machine) := machine.stateId table (table.after found symbol)
          (next, { machine with moves := machine.moves.insert key next })

def act (table : Table) (machine : Machine) (state token : Nat) : Action × Machine :=
  let key := keyOf table state (.token token)
  match machine.actions.get? key with
  | some action => (action, machine)
  | none =>
      match machine.states[state]? with
      | none => (⟨false, []⟩, machine)
      | some found =>
          let action := table.decide found token
          (action, { machine with actions := machine.actions.insert key action })

def start (table : Table) : Machine :=
  (Machine.stateId table {} [⟨0, 0, only (table.tokenId endToken)⟩]).2

def valid (machine : Machine) (state : Nat) : Nat :=
  ((machine.states[state]?).map (·.valid)).getD 0

end Machine

end SourceAtlas.Parsing
