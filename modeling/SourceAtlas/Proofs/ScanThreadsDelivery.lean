import SourceAtlas.Proofs.ScanThreadsProgress
import Mathlib.Data.Multiset.Filter

/-!
What the threads do with the files. At every moment a file that was to be queued is still ahead of
the walk, in the work queue, in the hands of a worker, or has been worked once; and the entry of a
file that could be worked is in the hands of a worker, in the queue of the collector, or collected.
So in the end every file has been worked once, and what is collected is what working gave.
-/
namespace SourceAtlas.ScanThreads
open scoped BigOperators
open Parcel

variable {workers : Nat} {plan : Plan}

def Event.queued? : Event workers → Option WorkItem
  | .queue item => some item
  | _ => none

/-- The file that an event shows to have been worked, with success or without. -/
def Event.worked? : Event workers → Option WorkItem
  | .work _ item _ => some item
  | .skip _ item _ => some item
  | _ => none

/-- An event that puts an entry into the queue of the collector. -/
def Event.Delivers (event : Event workers) : Prop := ∃ i entry, event = .deliver i entry

def queued (trace : List (Event workers)) : List WorkItem := trace.filterMap Event.queued?

def worked (trace : List (Event workers)) : List WorkItem := trace.filterMap Event.worked?

def Plan.entry? (plan : Plan) (item : WorkItem) : Option Entry := (plan.process item).toOption

def Worker.items : Worker → Multiset WorkItem
  | .busy item => {item}
  | _ => 0

def Worker.entries : Worker → Multiset Entry
  | .holding entry => {entry}
  | _ => 0

/-- Where the files and their entries are after a run. -/
structure Account (plan : Plan) (trace : List (Event workers)) (s : State workers) : Prop where
  queued : queued trace ++ s.walker.rest = plan.items
  items : (worked trace : Multiset WorkItem) + ∑ i, (s.pool i).items +
    (loads s.work : Multiset WorkItem) = (ScanThreads.queued trace : Multiset WorkItem)
  entries : (s.collected : Multiset Entry) + (loads s.results : Multiset Entry) +
    ∑ i, (s.pool i).entries = Multiset.filterMap plan.entry? (worked trace : Multiset WorkItem)

theorem account_start (plan : Plan) : Account plan [] (start plan workers) where
  queued := rfl
  items := by simp [start, queued, worked, Worker.items]
  entries := by simp [start, worked, Worker.entries]

theorem queued_snoc (trace : List (Event workers)) {event : Event workers}
    (other : event.queued? = none) : queued (trace ++ [event]) = queued trace := by
  simp [queued, other]

theorem worked_snoc (trace : List (Event workers)) {event : Event workers}
    (other : event.worked? = none) : worked (trace ++ [event]) = worked trace := by
  simp [worked, other]

theorem worked_snoc_some (trace : List (Event workers)) {event : Event workers} {item : WorkItem}
    (shown : event.worked? = some item) : worked (trace ++ [event]) = worked trace ++ [item] := by
  simp [worked, shown]

theorem coe_snoc {α : Type} (list : List α) (last : α) :
    ((list ++ [last] : List α) : Multiset α) = (list : Multiset α) + {last} :=
  (Multiset.coe_add list [last]).symm

theorem coe_cons {α : Type} (first : α) (list : List α) :
    ((first :: list : List α) : Multiset α) = {first} + (list : Multiset α) :=
  (Multiset.coe_add [first] list).symm

section Steps
variable {trace : List (Event workers)} {s : State workers}

theorem Account.idle {t : State workers} {event : Event workers}
    (account : Account plan trace s) (unqueued : event.queued? = none)
    (unworked : event.worked? = none) (rest : t.walker.rest = s.walker.rest)
    (work : loads t.work = loads s.work) (results : loads t.results = loads s.results)
    (items : ∑ i, (t.pool i).items = ∑ i, (s.pool i).items)
    (entries : ∑ i, (t.pool i).entries = ∑ i, (s.pool i).entries)
    (collected : t.collected = s.collected) : Account plan (trace ++ [event]) t where
  queued := by
    rw [queued_snoc trace unqueued, rest]
    exact account.queued
  items := by
    rw [queued_snoc trace unqueued, worked_snoc trace unworked, work, items]
    exact account.items
  entries := by
    rw [worked_snoc trace unworked, results, entries, collected]
    exact account.entries

theorem Account.queue {item : WorkItem} {rest : List WorkItem} (account : Account plan trace s)
    (here : s.walker = .walking (item :: rest)) :
    Account plan (trace ++ [.queue item])
      { s with walker := .walking rest, work := s.work ++ [.load item] } where
  queued := by
    have whole := account.queued
    rw [here] at whole
    simpa [ScanThreads.queued, Event.queued?, Walker.rest] using whole
  items := by
    have more : ScanThreads.queued (trace ++ [.queue item]) =
        ScanThreads.queued trace ++ [item] := by simp [ScanThreads.queued, Event.queued?]
    rw [more, worked_snoc trace rfl, coe_snoc, ← account.items]
    simp only [loads_append, loads_load_cons, loads_nil, coe_snoc]
    abel
  entries := by
    rw [worked_snoc trace rfl]
    exact account.entries

theorem Account.take {i : Fin workers} {item : WorkItem} {rest : List (Parcel WorkItem)}
    (account : Account plan trace s) (here : s.pool i = .waiting)
    (front : s.work = .load item :: rest) :
    Account plan (trace ++ [.take i item])
      { s with work := rest, pool := Function.update s.pool i (.busy item) } where
  queued := by
    rw [queued_snoc trace rfl]
    exact account.queued
  items := by
    have moved : ∑ j, (Function.update s.pool i (.busy item) j).items =
        ∑ j, (s.pool j).items + {item} := sum_update_gain (by rw [here]; rfl) rfl
    have whole := account.items
    rw [front, loads_load_cons, coe_cons] at whole
    rw [queued_snoc trace rfl, worked_snoc trace rfl, ← whole, moved]
    abel
  entries := by
    have kept : ∑ j, (Function.update s.pool i (.busy item) j).entries =
        ∑ j, (s.pool j).entries := sum_update_keep (by rw [here]; rfl) rfl
    rw [worked_snoc trace rfl, kept]
    exact account.entries

theorem Account.items_worked {i : Fin workers} {item : WorkItem} {worker : Worker}
    {event : Event workers} (account : Account plan trace s) (here : s.pool i = .busy item)
    (unqueued : event.queued? = none) (shown : event.worked? = some item)
    (after : worker.items = 0) :
    (worked (trace ++ [event]) : Multiset WorkItem) +
        ∑ j, (Function.update s.pool i worker j).items + (loads s.work : Multiset WorkItem) =
      (ScanThreads.queued (trace ++ [event]) : Multiset WorkItem) := by
  have moved : ∑ j, (Function.update s.pool i worker j).items + {item} =
      ∑ j, (s.pool j).items := sum_update_loss (by rw [here]; rfl) after
  rw [queued_snoc trace unqueued, worked_snoc_some trace shown, coe_snoc, ← account.items, ← moved]
  abel

theorem Account.work {i : Fin workers} {item : WorkItem} {entry : Entry}
    (account : Account plan trace s) (here : s.pool i = .busy item)
    (result : plan.process item = .ok entry) :
    Account plan (trace ++ [.work i item entry])
      { s with pool := Function.update s.pool i (.holding entry) } where
  queued := by
    rw [queued_snoc trace rfl]
    exact account.queued
  items := account.items_worked here rfl rfl rfl
  entries := by
    have moved : ∑ j, (Function.update s.pool i (.holding entry) j).entries =
        ∑ j, (s.pool j).entries + {entry} := sum_update_gain (by rw [here]; rfl) rfl
    have given : Multiset.filterMap plan.entry? {item} = {entry} :=
      Multiset.filterMap_cons_some plan.entry? item 0 (by rw [Plan.entry?, result]; rfl)
    rw [worked_snoc_some trace rfl, coe_snoc, Multiset.filterMap_add, given, ← account.entries,
      moved]
    abel

theorem Account.skip {i : Fin workers} {item : WorkItem} {fault : EntryFault}
    (account : Account plan trace s) (here : s.pool i = .busy item)
    (result : plan.process item = .error fault) :
    Account plan (trace ++ [.skip i item fault])
      { s with pool := Function.update s.pool i .waiting } where
  queued := by
    rw [queued_snoc trace rfl]
    exact account.queued
  items := account.items_worked here rfl rfl rfl
  entries := by
    have kept : ∑ j, (Function.update s.pool i .waiting j).entries = ∑ j, (s.pool j).entries :=
      sum_update_keep (by rw [here]; rfl) rfl
    have lost : Multiset.filterMap plan.entry? {item} = 0 :=
      Multiset.filterMap_cons_none item 0 (by rw [Plan.entry?, result]; rfl)
    rw [worked_snoc_some trace rfl, coe_snoc, Multiset.filterMap_add, lost, add_zero, kept]
    exact account.entries

theorem Account.deliver {i : Fin workers} {entry : Entry} (account : Account plan trace s)
    (here : s.pool i = .holding entry) :
    Account plan (trace ++ [.deliver i entry])
      { s with
        results := s.results ++ [.load entry], pool := Function.update s.pool i .waiting } where
  queued := by
    rw [queued_snoc trace rfl]
    exact account.queued
  items := by
    have kept : ∑ j, (Function.update s.pool i .waiting j).items = ∑ j, (s.pool j).items :=
      sum_update_keep (by rw [here]; rfl) rfl
    rw [queued_snoc trace rfl, worked_snoc trace rfl, kept]
    exact account.items
  entries := by
    have moved : ∑ j, (Function.update s.pool i .waiting j).entries + {entry} =
        ∑ j, (s.pool j).entries := sum_update_loss (by rw [here]; rfl) rfl
    rw [worked_snoc trace rfl, ← account.entries, ← moved]
    simp only [loads_append, loads_load_cons, loads_nil, coe_snoc]
    abel

theorem Account.collect {entry : Entry} {rest : List (Parcel Entry)}
    (account : Account plan trace s) (front : s.results = .load entry :: rest) :
    Account plan (trace ++ [.collect entry])
      { s with results := rest, collected := s.collected ++ [entry] } where
  queued := by
    rw [queued_snoc trace rfl]
    exact account.queued
  items := by
    rw [queued_snoc trace rfl, worked_snoc trace rfl]
    exact account.items
  entries := by
    have whole := account.entries
    rw [front, loads_load_cons, coe_cons] at whole
    rw [worked_snoc trace rfl, ← whole, coe_snoc]
    abel

theorem Step.account {t : State workers} {event : Event workers} (step : Step plan s event t)
    (account : Account plan trace s) : Account plan (trace ++ [event]) t := by
  cases step with
  | queue here _ => exact account.queue here
  | leave here => exact account.idle rfl rfl (by rw [here]; rfl) rfl rfl rfl rfl rfl
  | signal here _ =>
      exact account.idle rfl rfl (by rw [here]; rfl) (by simp) rfl rfl rfl rfl
  | turn here => exact account.idle rfl rfl (by rw [here]; rfl) rfl rfl rfl rfl rfl
  | join here _ => exact account.idle rfl rfl (by rw [here]; rfl) rfl rfl rfl rfl rfl
  | close here _ =>
      exact account.idle rfl rfl (by rw [here]; rfl) rfl (by simp) rfl rfl rfl
  | finish here _ => exact account.idle rfl rfl (by rw [here]; rfl) rfl rfl rfl rfl rfl
  | take here front => exact account.take here front
  | retire here front =>
      exact account.idle rfl rfl rfl (by rw [front]; rfl) rfl
        (sum_update_keep (by rw [here]; rfl) rfl) (sum_update_keep (by rw [here]; rfl) rfl) rfl
  | work here result => exact account.work here result
  | skip here result => exact account.skip here result
  | deliver here _ => exact account.deliver here
  | collect _ front => exact account.collect front
  | halt _ front => exact account.idle rfl rfl rfl rfl (by rw [front]; rfl) rfl rfl rfl

end Steps

theorem Run.account {trace : List (Event workers)} {s : State workers}
    (run : Run plan (start plan workers) trace s) : Account plan trace s := by
  induction run with
  | nil => exact account_start plan
  | snoc _ step ih => exact step.account ih

theorem Step.closings {s t : State workers} {event : Event workers} (step : Step plan s event t)
    (closed : event = .close ∨ s.walker.closings = 1) : t.walker.closings = 1 := by
  cases step with
  | queue here _ | leave here | signal here _ | turn here | join here _ =>
      simp [here, Walker.closings] at closed
  | close _ _ | finish _ _ => rfl
  | take _ _ | retire _ _ | work _ _ | skip _ _ | deliver _ _ | collect _ _ | halt _ _ =>
      simpa using closed

theorem Run.closings {s : State workers} {trace : List (Event workers)}
    (run : Run plan (start plan workers) trace s) (closed : .close ∈ trace) :
    s.walker.closings = 1 := by
  induction run with
  | nil => cases closed
  | snoc _ step ih =>
      rcases List.mem_append.mp closed with earlier | last
      · exact step.closings (.inr (ih earlier))
      · exact step.closings (.inl (List.mem_singleton.mp last).symm)

theorem Step.unclosed {s t : State workers} {event : Event workers} (step : Step plan s event t)
    (sound : Sound s) (delivers : event.Delivers) : s.walker.closings = 0 := by
  obtain ⟨i, entry, rfl⟩ := delivers
  cases step with
  | deliver here _ => exact sound.unclosed (i := i) (by simp [here])

theorem Run.delivers_before_close {s : State workers} {trace : List (Event workers)}
    (run : Run plan (start plan workers) trace s) :
    trace.Pairwise fun earlier later => earlier = .close → ¬later.Delivers := by
  induction run with
  | nil => exact .nil
  | snoc run step ih =>
      refine List.pairwise_append.mpr ⟨ih, List.pairwise_singleton _ _, ?_⟩
      rintro _ member event last rfl delivers
      rw [List.mem_singleton.mp last] at delivers
      have closed := run.closings member
      have unclosed := step.unclosed run.sound delivers
      omega

section End
variable {s : State workers} {trace : List (Event workers)}

theorem Sound.work_drained (sound : Sound s) (positive : 1 ≤ workers)
    (ended : s.walker = .ended) : loads s.work = [] := by
  refine sound.work.drained ?_
  simp only [gone, (sound.joined ended).1, Worker.gone, Finset.sum_const, Finset.card_univ,
    Fintype.card_fin, smul_eq_mul, mul_one]
  omega

theorem Run.queued_eq (run : Run plan (start plan workers) trace s) (ended : s.walker = .ended) :
    queued trace = plan.items := by
  simpa [ended, Walker.rest] using run.account.queued

theorem Run.worked_perm (positive : 1 ≤ workers) (run : Run plan (start plan workers) trace s)
    (ended : s.walker = .ended) : (worked trace).Perm plan.items := by
  have items := run.account.items
  rw [run.queued_eq ended, run.sound.work_drained positive ended] at items
  simp only [(run.sound.joined ended).1, Worker.items, Finset.sum_const_zero, add_zero,
    Multiset.coe_nil] at items
  exact Multiset.coe_eq_coe.mp items

theorem Run.collected_perm (positive : 1 ≤ workers) (run : Run plan (start plan workers) trace s)
    (ended : s.walker = .ended) : s.collected.Perm (plan.items.filterMap plan.entry?) := by
  have entries := run.account.entries
  rw [run.sound.results.drained (run.sound.joined ended).2] at entries
  simp only [(run.sound.joined ended).1, Worker.entries, Finset.sum_const_zero, add_zero,
    Multiset.coe_nil, Multiset.filterMap_coe] at entries
  exact (Multiset.coe_eq_coe.mp entries).trans ((run.worked_perm positive ended).filterMap _)

end End

end SourceAtlas.ScanThreads
