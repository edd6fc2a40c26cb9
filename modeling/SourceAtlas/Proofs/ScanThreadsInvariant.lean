import SourceAtlas.Proofs.ScanThreads
import Mathlib.Algebra.BigOperators.Fin
import Mathlib.Algebra.Order.BigOperators.Group.Finset
import Mathlib.Tactic.Abel

/-!
What every step of the threads keeps. In both queues the stops come last. The stops that are still
to be queued, those in the work queue and the workers that have taken one are as many as there are
workers, and the collector takes the only stop of its queue once all workers are joined.
-/
namespace SourceAtlas.ScanThreads
open scoped BigOperators

namespace Parcel
variable {α : Type}

def load? : Parcel α → Option α
  | .load content => some content
  | .stop => none

def isStop : Parcel α → Bool
  | .load _ => false
  | .stop => true

def loads (queue : List (Parcel α)) : List α := queue.filterMap load?

def stops (queue : List (Parcel α)) : Nat := queue.countP isStop

/-- After a stop come only stops. -/
def InOrder (queue : List (Parcel α)) : Prop :=
  queue.Pairwise fun earlier later => earlier.isStop = true → later.isStop = true

@[simp] theorem loads_nil : loads ([] : List (Parcel α)) = [] := rfl

@[simp] theorem stops_nil : stops ([] : List (Parcel α)) = 0 := rfl

@[simp] theorem inOrder_nil : InOrder ([] : List (Parcel α)) := List.Pairwise.nil

@[simp] theorem loads_load_cons (content : α) (queue : List (Parcel α)) :
    loads (.load content :: queue) = content :: loads queue := rfl

@[simp] theorem loads_stop_cons (queue : List (Parcel α)) :
    loads (.stop :: queue) = loads queue := rfl

@[simp] theorem stops_load_cons (content : α) (queue : List (Parcel α)) :
    stops (.load content :: queue) = stops queue :=
  List.countP_cons_of_neg Bool.false_ne_true

@[simp] theorem stops_stop_cons (queue : List (Parcel α)) :
    stops (.stop :: queue) = stops queue + 1 := List.countP_cons_of_pos rfl

@[simp] theorem loads_append (front back : List (Parcel α)) :
    loads (front ++ back) = loads front ++ loads back := List.filterMap_append

@[simp] theorem stops_append (front back : List (Parcel α)) :
    stops (front ++ back) = stops front + stops back := List.countP_append

theorem InOrder.tail {first : Parcel α} {rest : List (Parcel α)}
    (order : InOrder (first :: rest)) : InOrder rest := List.Pairwise.of_cons order

theorem InOrder.append_stop {queue : List (Parcel α)} (order : InOrder queue) :
    InOrder (queue ++ [.stop]) := by
  refine List.pairwise_append.mpr ⟨order, List.pairwise_singleton _ _, ?_⟩
  intro earlier _ later member _
  rw [List.mem_singleton.mp member]
  rfl

theorem InOrder.append_load {queue : List (Parcel α)} (order : InOrder queue)
    (unmarked : stops queue = 0) (content : α) : InOrder (queue ++ [.load content]) := by
  refine List.pairwise_append.mpr ⟨order, List.pairwise_singleton _ _, ?_⟩
  intro earlier member _ _ stop
  exact absurd stop (List.countP_eq_zero.mp unmarked earlier member)

theorem InOrder.loads_eq_nil {rest : List (Parcel α)}
    (order : InOrder (.stop :: rest)) : loads rest = [] := by
  refine List.filterMap_eq_nil_iff.mpr fun parcel member => ?_
  have stop := List.rel_of_pairwise_cons order member rfl
  cases parcel with
  | load content => cases stop
  | stop => rfl

end Parcel

open Parcel

variable {workers : Nat}

/-- The files that the walk has still to queue. -/
def Walker.rest : Walker workers → List WorkItem
  | .walking rest => rest
  | _ => []

def Walker.stopsLeft : Walker workers → Nat
  | .walking _ => workers
  | .stopping left => left
  | _ => 0

/-- The workers that are not joined yet. -/
def Walker.unjoined : Walker workers → List (Fin workers)
  | .walking _ | .stopping _ => List.finRange workers
  | .joining left => left
  | .awaiting | .ended => []

def Walker.closings : Walker workers → Nat
  | .awaiting | .ended => 1
  | _ => 0

def Worker.gone : Worker → Nat
  | .stopped => 1
  | _ => 0

theorem Worker.gone_eq_zero {worker : Worker} : worker.gone = 0 ↔ worker ≠ .stopped := by
  cases worker <;> simp [gone]

theorem Worker.gone_le_one (worker : Worker) : worker.gone ≤ 1 := by
  cases worker <;> simp [gone]

theorem sum_update {M : Type} [AddCommMonoid M] (f : Worker → M) (pool : Fin workers → Worker)
    (i : Fin workers) (worker : Worker) :
    ∑ j, f (Function.update pool i worker j) + f (pool i) = ∑ j, f (pool j) + f worker := by
  have others : ∑ j ∈ Finset.univ.erase i, f (Function.update pool i worker j) =
      ∑ j ∈ Finset.univ.erase i, f (pool j) := by
    refine Finset.sum_congr rfl fun j member => ?_
    rw [Function.update_of_ne (Finset.ne_of_mem_erase member)]
  rw [← Finset.add_sum_erase _ _ (Finset.mem_univ i), others, Function.update_self,
    ← Finset.add_sum_erase Finset.univ (fun j => f (pool j)) (Finset.mem_univ i)]
  abel

theorem sum_update_gain {M : Type} [AddCommMonoid M] {f : Worker → M}
    {pool : Fin workers → Worker} {i : Fin workers} {worker : Worker} {gain : M}
    (before : f (pool i) = 0) (after : f worker = gain) :
    ∑ j, f (Function.update pool i worker j) = ∑ j, f (pool j) + gain := by
  have moved := sum_update f pool i worker
  rwa [before, after, add_zero] at moved

theorem sum_update_loss {M : Type} [AddCommMonoid M] {f : Worker → M}
    {pool : Fin workers → Worker} {i : Fin workers} {worker : Worker} {loss : M}
    (before : f (pool i) = loss) (after : f worker = 0) :
    ∑ j, f (Function.update pool i worker j) + loss = ∑ j, f (pool j) := by
  have moved := sum_update f pool i worker
  rwa [before, after, add_zero] at moved

theorem sum_update_keep {M : Type} [AddCommMonoid M] {f : Worker → M}
    {pool : Fin workers → Worker} {i : Fin workers} {worker : Worker}
    (before : f (pool i) = 0) (after : f worker = 0) :
    ∑ j, f (Function.update pool i worker j) = ∑ j, f (pool j) :=
  (sum_update_gain before after).trans (add_zero _)

def gone (pool : Fin workers → Worker) : Nat := ∑ i, (pool i).gone

theorem gone_lt {pool : Fin workers → Worker} {i : Fin workers} (active : pool i ≠ .stopped) :
    gone pool < workers := by
  have zero : (pool i).gone = 0 := Worker.gone_eq_zero.mpr active
  calc
    gone pool < ∑ _i : Fin workers, 1 := by
      refine Finset.sum_lt_sum (fun j _ => (pool j).gone_le_one) ⟨i, Finset.mem_univ i, ?_⟩
      omega
    _ = workers := by simp

theorem gone_update_active {pool : Fin workers → Worker} {i : Fin workers} {worker : Worker}
    (before : pool i ≠ .stopped) (after : worker ≠ .stopped) :
    gone (Function.update pool i worker) = gone pool :=
  sum_update_keep (Worker.gone_eq_zero.mpr before) (Worker.gone_eq_zero.mpr after)

theorem gone_update_stopped {pool : Fin workers → Worker} {i : Fin workers}
    (before : pool i ≠ .stopped) :
    gone (Function.update pool i .stopped) = gone pool + 1 :=
  sum_update_gain (Worker.gone_eq_zero.mpr before) rfl

structure WorkLane (walker : Walker workers) (work : List (Parcel WorkItem))
    (pool : Fin workers → Worker) : Prop where
  stops : walker.stopsLeft + stops work + gone pool = workers
  order : InOrder work
  drained : 0 < gone pool → loads work = []
  joined : ∀ i, i ∉ walker.unjoined → pool i = .stopped

namespace WorkLane
variable {walker : Walker workers} {work : List (Parcel WorkItem)} {pool : Fin workers → Worker}

theorem start (items : List WorkItem) :
    WorkLane (.walking items) [] (fun _ : Fin workers => .waiting) where
  stops := by simp [gone, Worker.gone, Walker.stopsLeft]
  order := inOrder_nil
  drained _ := rfl
  joined i outside := absurd (List.mem_finRange i) outside

theorem unsent {rest : List WorkItem} (lane : WorkLane (.walking rest) work pool) :
    Parcel.stops work = 0 ∧ gone pool = 0 := by
  have total := lane.stops
  simp only [Walker.stopsLeft] at total
  omega

theorem mem_unjoined (lane : WorkLane walker work pool) {i : Fin workers}
    (active : pool i ≠ .stopped) : i ∈ walker.unjoined := by
  by_contra outside
  exact active (lane.joined i outside)

theorem turn (lane : WorkLane walker work pool) {next : Walker workers}
    (stops : next.stopsLeft = walker.stopsLeft)
    (joined : ∀ i, i ∉ next.unjoined → pool i = .stopped) : WorkLane next work pool where
  stops := stops ▸ lane.stops
  order := lane.order
  drained := lane.drained
  joined := joined

theorem queue {item : WorkItem} {rest : List WorkItem}
    (lane : WorkLane (.walking (item :: rest)) work pool) :
    WorkLane (.walking rest) (work ++ [.load item]) pool where
  stops := by simpa [Walker.stopsLeft] using lane.stops
  order := lane.order.append_load lane.unsent.1 item
  drained stopped := absurd stopped (by simp [lane.unsent.2])
  joined := lane.joined

theorem signal {left : Nat} (lane : WorkLane (.stopping (left + 1)) work pool) :
    WorkLane (.stopping left) (work ++ [.stop]) pool where
  stops := by
    have total := lane.stops
    simp only [Walker.stopsLeft, stops_append, stops_stop_cons, stops_nil] at total ⊢
    omega
  order := lane.order.append_stop
  drained stopped := by simpa using lane.drained stopped
  joined := lane.joined

theorem move (lane : WorkLane walker work pool) {i : Fin workers} {worker : Worker}
    (before : pool i ≠ .stopped) (after : worker ≠ .stopped) :
    WorkLane walker work (Function.update pool i worker) where
  stops := by rw [gone_update_active before after]; exact lane.stops
  order := lane.order
  drained := by rw [gone_update_active before after]; exact lane.drained
  joined j outside := by
    have stopped := lane.joined j outside
    have other : j ≠ i := fun same => before (same ▸ stopped)
    rw [Function.update_of_ne other, stopped]

theorem take {item : WorkItem} {rest : List (Parcel WorkItem)}
    (lane : WorkLane walker (.load item :: rest) pool) : WorkLane walker rest pool where
  stops := by simpa using lane.stops
  order := lane.order.tail
  drained stopped := by simpa using lane.drained stopped
  joined := lane.joined

theorem retire {rest : List (Parcel WorkItem)} (lane : WorkLane walker (.stop :: rest) pool)
    {i : Fin workers} (before : pool i ≠ .stopped) :
    WorkLane walker rest (Function.update pool i .stopped) where
  stops := by
    have total := lane.stops
    rw [stops_stop_cons] at total
    rw [gone_update_stopped before]
    omega
  order := lane.order.tail
  drained _ := lane.order.loads_eq_nil
  joined j outside := by
    by_cases same : j = i
    · rw [same, Function.update_self]
    · rw [Function.update_of_ne same, lane.joined j outside]

end WorkLane

structure ResultLane (walker : Walker workers) (results : List (Parcel Entry))
    (collecting : Bool) : Prop where
  stops : stops results + (if collecting then 0 else 1) = walker.closings
  order : InOrder results
  drained : collecting = false → loads results = []
  ended : walker = .ended → collecting = false

namespace ResultLane
variable {walker : Walker workers} {results : List (Parcel Entry)} {collecting : Bool}

theorem start (items : List WorkItem) :
    ResultLane (.walking items : Walker workers) [] true where
  stops := rfl
  order := inOrder_nil
  drained _ := rfl
  ended atEnd := by cases atEnd

theorem turn (lane : ResultLane walker results collecting) {next : Walker workers}
    (closings : next.closings = walker.closings) (going : next ≠ .ended) :
    ResultLane next results collecting where
  stops := closings ▸ lane.stops
  order := lane.order
  drained := lane.drained
  ended atEnd := absurd atEnd going

theorem close (lane : ResultLane (.joining [] : Walker workers) results collecting) :
    ResultLane (.awaiting : Walker workers) (results ++ [.stop]) collecting where
  stops := by
    have total := lane.stops
    simp only [Walker.closings, stops_append, stops_stop_cons, stops_nil] at total ⊢
    omega
  order := lane.order.append_stop
  drained halted := by simpa using lane.drained halted
  ended atEnd := by cases atEnd

theorem finish (lane : ResultLane (.awaiting : Walker workers) results collecting)
    (halted : collecting = false) : ResultLane (.ended : Walker workers) results collecting where
  stops := lane.stops
  order := lane.order
  drained := lane.drained
  ended _ := halted

theorem unsent (lane : ResultLane walker results collecting) (unclosed : walker.closings = 0) :
    Parcel.stops results = 0 ∧ collecting = true := by
  have total := lane.stops
  cases collecting with
  | false => simp [unclosed] at total
  | true => simpa [unclosed] using total

theorem deliver (lane : ResultLane walker results collecting) (unclosed : walker.closings = 0)
    (entry : Entry) : ResultLane walker (results ++ [.load entry]) collecting where
  stops := by simpa using lane.stops
  order := lane.order.append_load (lane.unsent unclosed).1 entry
  drained halted := by simp [(lane.unsent unclosed).2] at halted
  ended := lane.ended

theorem collect {entry : Entry} {rest : List (Parcel Entry)}
    (lane : ResultLane walker (.load entry :: rest) collecting) :
    ResultLane walker rest collecting where
  stops := by simpa using lane.stops
  order := lane.order.tail
  drained halted := by simpa using lane.drained halted
  ended := lane.ended

theorem halt {rest : List (Parcel Entry)} (lane : ResultLane walker (.stop :: rest) true) :
    ResultLane walker rest false where
  stops := by simpa using lane.stops
  order := lane.order.tail
  drained _ := lane.order.loads_eq_nil
  ended _ := rfl

end ResultLane

/-- What holds of the threads in every state that they reach. -/
structure Sound (s : State workers) : Prop where
  work : WorkLane s.walker s.work s.pool
  results : ResultLane s.walker s.results s.collecting

theorem sound_start (plan : Plan) : Sound (start plan workers) :=
  ⟨.start plan.items, .start plan.items⟩

/-- A worker that has not stopped is still to be joined, so the collector has not been told to
stop. -/
theorem Sound.unclosed {s : State workers} (sound : Sound s) {i : Fin workers}
    (active : s.pool i ≠ .stopped) : s.walker.closings = 0 := by
  have member := sound.work.mem_unjoined active
  cases here : s.walker with
  | walking | stopping | joining => rfl
  | awaiting | ended => simp [here, Walker.unjoined] at member

theorem Sound.joined {s : State workers} (sound : Sound s) (ended : s.walker = .ended) : s.Joined :=
  ⟨fun i => sound.work.joined i (by simp [ended, Walker.unjoined]), sound.results.ended ended⟩

theorem Step.sound {plan : Plan} {s t : State workers} {event : Event workers}
    (step : Step plan s event t) (sound : Sound s) : Sound t := by
  obtain ⟨work, results⟩ := sound
  cases step with
  | queue here _ =>
      rw [here] at work results
      exact ⟨work.queue, results.turn rfl (by simp)⟩
  | leave here =>
      rw [here] at work results
      exact ⟨work.turn rfl work.joined, results.turn rfl (by simp)⟩
  | signal here _ =>
      rw [here] at work results
      exact ⟨work.signal, results.turn rfl (by simp)⟩
  | turn here =>
      rw [here] at work results
      exact ⟨work.turn rfl work.joined, results.turn rfl (by simp)⟩
  | @join i left here stopped =>
      rw [here] at work results
      refine ⟨work.turn rfl fun j outside => ?_, results.turn rfl (by simp)⟩
      by_cases same : j = i
      · rw [same, stopped]
      · exact work.joined j (by simpa [Walker.unjoined, same] using outside)
  | close here _ =>
      rw [here] at work results
      exact ⟨work.turn rfl work.joined, results.close⟩
  | finish here halted =>
      rw [here] at work results
      exact ⟨work.turn rfl work.joined, results.finish halted⟩
  | take here front =>
      rw [front] at work
      exact ⟨work.take.move (by simp [here]) (by simp), results⟩
  | retire here front =>
      rw [front] at work
      exact ⟨work.retire (by simp [here]), results⟩
  | work here _ => exact ⟨work.move (by simp [here]) (by simp), results⟩
  | skip here _ => exact ⟨work.move (by simp [here]) (by simp), results⟩
  | @deliver i entry here _ =>
      have active : s.pool i ≠ .stopped := by simp [here]
      have unclosed := Sound.unclosed ⟨work, results⟩ active
      exact ⟨work.move active (by simp), results.deliver unclosed entry⟩
  | collect _ front =>
      rw [front] at results
      exact ⟨work, results.collect⟩
  | halt here front =>
      rw [front, here] at results
      exact ⟨work, results.halt⟩

theorem Run.sound {plan : Plan} {trace : List (Event workers)} {s : State workers}
    (run : Run plan (start plan workers) trace s) : Sound s := by
  induction run with
  | nil => exact sound_start plan
  | snoc _ step ih => exact step.sound ih

end SourceAtlas.ScanThreads
