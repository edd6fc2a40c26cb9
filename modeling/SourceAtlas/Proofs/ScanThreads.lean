import SourceAtlas.Scan
import Mathlib.Data.List.FinRange
import Mathlib.Logic.Function.Basic

/-!
The threads of a scan. One thread walks the tree and queues files, a number of workers take them
from the queue and queue their entries, and one more thread collects the entries. Each queue holds
at most four parcels for every worker; putting into a full queue and taking from an empty one wait,
so such a step does not exist until another thread has moved.

A step is one operation on a queue, one file worked, or one turn of a thread's own. The walk reads
the tree only, which nobody changes meanwhile, so its thread is described by the files that it still
has to queue. Its end is the same whether the walk returns or fails: one stop for every worker, the
workers joined in their order, one stop for the collector, and the collector joined.
-/
namespace SourceAtlas.ScanThreads

/-- What goes through a queue: a load, or the mark after which nothing comes. -/
inductive Parcel (α : Type)
  | load (content : α)
  | stop

/-- What the threads are to do: the files of the walk in its order, what the walk fails with after
them if it does, and how a file is worked. -/
structure Plan where
  items : List WorkItem
  failure : Option Failure := none
  process : WorkItem → Except EntryFault Entry

inductive Walker (workers : Nat)
  | walking (rest : List WorkItem)
  | stopping (left : Nat)
  | joining (left : List (Fin workers))
  | awaiting
  | ended

inductive Worker
  | waiting
  | busy (item : WorkItem)
  | holding (entry : Entry)
  | stopped

structure State (workers : Nat) where
  walker : Walker workers
  work : List (Parcel WorkItem) := []
  pool : Fin workers → Worker := fun _ => .waiting
  results : List (Parcel Entry) := []
  collecting : Bool := true
  collected : List Entry := []

def capacity (workers : Nat) : Nat := workers * 4

def start (plan : Plan) (workers : Nat) : State workers where
  walker := .walking plan.items

inductive Event (workers : Nat)
  | queue (item : WorkItem)
  | leave
  | signal
  | turn
  | join (worker : Fin workers)
  | close
  | finish
  | take (worker : Fin workers) (item : WorkItem)
  | retire (worker : Fin workers)
  | work (worker : Fin workers) (item : WorkItem) (entry : Entry)
  | skip (worker : Fin workers) (item : WorkItem) (fault : EntryFault)
  | deliver (worker : Fin workers) (entry : Entry)
  | collect (entry : Entry)
  | halt

variable {workers : Nat}

inductive Step (plan : Plan) : State workers → Event workers → State workers → Prop
  | queue {s : State workers} {item : WorkItem} {rest : List WorkItem}
      (here : s.walker = .walking (item :: rest)) (room : s.work.length < capacity workers) :
      Step plan s (.queue item) { s with walker := .walking rest, work := s.work ++ [.load item] }
  | leave {s : State workers} (here : s.walker = .walking []) :
      Step plan s .leave { s with walker := .stopping workers }
  | signal {s : State workers} {left : Nat}
      (here : s.walker = .stopping (left + 1)) (room : s.work.length < capacity workers) :
      Step plan s .signal { s with walker := .stopping left, work := s.work ++ [.stop] }
  | turn {s : State workers} (here : s.walker = .stopping 0) :
      Step plan s .turn { s with walker := .joining (List.finRange workers) }
  | join {s : State workers} {i : Fin workers} {left : List (Fin workers)}
      (here : s.walker = .joining (i :: left)) (gone : s.pool i = .stopped) :
      Step plan s (.join i) { s with walker := .joining left }
  | close {s : State workers}
      (here : s.walker = .joining []) (room : s.results.length < capacity workers) :
      Step plan s .close { s with walker := .awaiting, results := s.results ++ [.stop] }
  | finish {s : State workers} (here : s.walker = .awaiting) (gone : s.collecting = false) :
      Step plan s .finish { s with walker := .ended }
  | take {s : State workers} {i : Fin workers} {item : WorkItem} {rest : List (Parcel WorkItem)}
      (here : s.pool i = .waiting) (front : s.work = .load item :: rest) :
      Step plan s (.take i item)
        { s with work := rest, pool := Function.update s.pool i (.busy item) }
  | retire {s : State workers} {i : Fin workers} {rest : List (Parcel WorkItem)}
      (here : s.pool i = .waiting) (front : s.work = .stop :: rest) :
      Step plan s (.retire i)
        { s with work := rest, pool := Function.update s.pool i .stopped }
  | work {s : State workers} {i : Fin workers} {item : WorkItem} {entry : Entry}
      (here : s.pool i = .busy item) (result : plan.process item = .ok entry) :
      Step plan s (.work i item entry)
        { s with pool := Function.update s.pool i (.holding entry) }
  | skip {s : State workers} {i : Fin workers} {item : WorkItem} {fault : EntryFault}
      (here : s.pool i = .busy item) (result : plan.process item = .error fault) :
      Step plan s (.skip i item fault) { s with pool := Function.update s.pool i .waiting }
  | deliver {s : State workers} {i : Fin workers} {entry : Entry}
      (here : s.pool i = .holding entry) (room : s.results.length < capacity workers) :
      Step plan s (.deliver i entry)
        { s with
          results := s.results ++ [.load entry], pool := Function.update s.pool i .waiting }
  | collect {s : State workers} {entry : Entry} {rest : List (Parcel Entry)}
      (here : s.collecting = true) (front : s.results = .load entry :: rest) :
      Step plan s (.collect entry) { s with results := rest, collected := s.collected ++ [entry] }
  | halt {s : State workers} {rest : List (Parcel Entry)}
      (here : s.collecting = true) (front : s.results = .stop :: rest) :
      Step plan s .halt { s with results := rest, collecting := false }

/-- Runs with what their steps show, in the order of the steps. -/
inductive Run (plan : Plan) (s : State workers) : List (Event workers) → State workers → Prop
  | nil : Run plan s [] s
  | snoc {trace : List (Event workers)} {t u : State workers} {event : Event workers}
      (run : Run plan s trace t) (step : Step plan t event u) : Run plan s (trace ++ [event]) u

def Plan.outcome (plan : Plan) (entries : List Entry) : Except Failure (List Entry) :=
  match plan.failure with
  | some failure => .error failure
  | none => .ok entries

def State.outcome? (plan : Plan) (s : State workers) : Option (Except Failure (List Entry)) :=
  match s.walker with
  | .ended => some (plan.outcome s.collected)
  | _ => none

def State.Joined (s : State workers) : Prop :=
  (∀ i, s.pool i = .stopped) ∧ s.collecting = false

/-- What a scan has settled when its threads start: the walk, and the entries of its root or why
they cannot be listed. -/
structure Setting where
  request : ScanRequest
  walk : Walk
  listing : Except OsError (List (String × Item))

/-- What is settled for a root: one that is not there or is no directory is refused. -/
def settleAt (site : Site) (shown : String) (request : ScanRequest) (root : Path) :
    Except Failure Setting := do
  if !(← (site.exists? root).mapError .os) then throw (.rootMissing shown)
  if !(← (site.isDirectory? root).mapError .os) then throw (.rootNotDirectory shown)
  let rules := ScanRules.compile (byName request.adapters) request.overrides
    (Scan.ignoreFile site root).1
  return { request := request
           walk := { site := site, root := root.names, rules := rules }
           listing := site.list root }

def settle (site : Site) (shown : String) (request : ScanRequest) : Except Failure Setting :=
  (do site.resolve (← site.expandHome (.ofText shown))).mapError .path >>=
    settleAt site shown request

namespace Setting

/-- What the walk finds; nothing where the root cannot be listed. -/
def findings (setting : Setting) : Findings :=
  match setting.listing with
  | .ok entries => setting.walk.all entries
  | .error _ => {}

def failure (setting : Setting) : Option Failure :=
  match setting.listing with
  | .ok _ => none
  | .error error => some (.os error)

def process (setting : Setting) : WorkItem → Except EntryFault Entry :=
  let adapters := byName setting.request.adapters
  Scan.process setting.walk adapters (ScanRules.priority adapters setting.request.overrides)
    setting.request.hashAlgorithm

def plan (setting : Setting) : Plan where
  items := setting.findings.work
  failure := setting.failure
  process := setting.process

def result (setting : Setting) (entries : List Entry) : ScanResult :=
  Scan.assemble setting.findings entries setting.request.maxCandidates

def Shallow (setting : Setting) : Prop :=
  Scan.callsFor setting.findings.levels ≤ setting.request.room

instance (setting : Setting) : Decidable setting.Shallow := Nat.decLe _ _

/-- What is answered when the entries are there: the tree is pruned then, and may be too deep. -/
def answer (setting : Setting) (entries : List Entry) : Except Failure ScanResult :=
  if setting.Shallow then .ok (setting.result entries) else .error .tooNested

def sequential (setting : Setting) : Except Failure ScanResult :=
  let entries := (Scan.processAll setting.process setting.findings.work).1
  setting.plan.outcome entries >>= setting.answer

end Setting

/-- What a scan with so many workers can answer, whatever the order of the steps. -/
inductive Answers (site : Site) (shown : String) (request : ScanRequest) (workers : Nat) :
    Except Failure ScanResult → Prop
  | refused {failure : Failure} (refused : settle site shown request = .error failure) :
      Answers site shown request workers (.error failure)
  | ended {setting : Setting} {trace : List (Event workers)} {s : State workers}
      {outcome : Except Failure (List Entry)} (settled : settle site shown request = .ok setting)
      (run : Run setting.plan (start setting.plan workers) trace s)
      (handed : s.outcome? setting.plan = some outcome) :
      Answers site shown request workers (outcome >>= setting.answer)

end SourceAtlas.ScanThreads
