import SourceAtlas.Proofs.ScanThreadsInvariant

/-!
The threads never wait for each other in a circle, and they come to an end. A state in which no
thread can move is the last one: the walking thread has ended and all others are joined. Every step
lowers a cost that is fixed at the start, so runs are bounded in length. None of this depends on
which files can be worked or on whether the walk fails.
-/
namespace SourceAtlas.ScanThreads
open scoped BigOperators
open Parcel

variable {workers : Nat} {plan : Plan} {s : State workers}

def Enabled (plan : Plan) (s : State workers) : Prop := ∃ event t, Step plan s event t

theorem enabled_of_busy {i : Fin workers} {item : WorkItem} (here : s.pool i = .busy item) :
    Enabled plan s := by
  cases result : plan.process item with
  | ok entry => exact ⟨_, _, .work here result⟩
  | error fault => exact ⟨_, _, .skip here result⟩

theorem enabled_of_waiting {i : Fin workers} (here : s.pool i = .waiting)
    (filled : s.work ≠ []) : Enabled plan s := by
  obtain ⟨first, rest, front⟩ := List.exists_cons_of_ne_nil filled
  cases first with
  | load item => exact ⟨_, _, .take here front⟩
  | stop => exact ⟨_, _, .retire here front⟩

theorem enabled_of_collecting (here : s.collecting = true) (filled : s.results ≠ []) :
    Enabled plan s := by
  obtain ⟨first, rest, front⟩ := List.exists_cons_of_ne_nil filled
  cases first with
  | load entry => exact ⟨_, _, .collect here front⟩
  | stop => exact ⟨_, _, .halt here front⟩

theorem ne_nil_of_full {α : Type} {queue : List (Parcel α)} (positive : 1 ≤ workers)
    (full : ¬queue.length < capacity workers) : queue ≠ [] := by
  intro empty
  simp only [empty, List.length_nil, capacity] at full
  omega

theorem Sound.enabled_of_holding (sound : Sound s) (positive : 1 ≤ workers) {i : Fin workers}
    {entry : Entry} (here : s.pool i = .holding entry) : Enabled plan s := by
  by_cases room : s.results.length < capacity workers
  · exact ⟨_, _, .deliver here room⟩
  · have unclosed := sound.unclosed (i := i) (by simp [here])
    exact enabled_of_collecting (sound.results.unsent unclosed).2 (ne_nil_of_full positive room)

/-- While the work queue holds something, no worker that has not stopped keeps all threads
waiting. -/
theorem Sound.enabled_of_active (sound : Sound s) (positive : 1 ≤ workers) {i : Fin workers}
    (active : s.pool i ≠ .stopped) (filled : s.work ≠ []) : Enabled plan s := by
  cases here : s.pool i with
  | waiting => exact enabled_of_waiting here filled
  | busy item => exact enabled_of_busy here
  | holding entry => exact sound.enabled_of_holding positive here
  | stopped => exact absurd here active

theorem exists_active {pool : Fin workers → Worker} (fewer : gone pool < workers) :
    ∃ i, pool i ≠ .stopped := by
  by_contra everybody
  push Not at everybody
  have all : gone pool = workers := by simp [gone, everybody, Worker.gone]
  omega

theorem Sound.enabled_of_full (sound : Sound s) (positive : 1 ≤ workers)
    (fewer : gone s.pool < workers) (full : ¬s.work.length < capacity workers) :
    Enabled plan s := by
  obtain ⟨i, active⟩ := exists_active fewer
  exact sound.enabled_of_active positive active (ne_nil_of_full positive full)

/-- A worker that is waited for has something to take from the queue, since all stops are queued
and it has taken none. -/
theorem Sound.enabled_of_unjoined (sound : Sound s) (positive : 1 ≤ workers)
    (sent : s.walker.stopsLeft = 0) {i : Fin workers} (active : s.pool i ≠ .stopped) :
    Enabled plan s := by
  refine sound.enabled_of_active positive active fun empty => ?_
  have total := sound.work.stops
  have fewer := gone_lt active
  simp only [sent, empty, stops_nil] at total
  omega

theorem Sound.enabled_or_joined (sound : Sound s) (positive : 1 ≤ workers) (plan : Plan) :
    (s.walker = .ended ∧ s.Joined) ∨ Enabled plan s := by
  have work := sound.work
  have results := sound.results
  cases here : s.walker with
  | walking rest =>
      right
      cases rest with
      | nil => exact ⟨_, _, .leave here⟩
      | cons item rest =>
          by_cases room : s.work.length < capacity workers
          · exact ⟨_, _, .queue here room⟩
          · rw [here] at work
            exact sound.enabled_of_full positive (by have := work.unsent; omega) room
  | stopping left =>
      right
      cases left with
      | zero => exact ⟨_, _, .turn here⟩
      | succ left =>
          by_cases room : s.work.length < capacity workers
          · exact ⟨_, _, .signal here room⟩
          · have total := work.stops
            simp only [here, Walker.stopsLeft] at total
            exact sound.enabled_of_full positive (by omega) room
  | joining left =>
      right
      cases left with
      | nil =>
          by_cases room : s.results.length < capacity workers
          · exact ⟨_, _, .close here room⟩
          · rw [here] at results
            exact enabled_of_collecting (results.unsent rfl).2 (ne_nil_of_full positive room)
      | cons i left =>
          by_cases stopped : s.pool i = .stopped
          · exact ⟨_, _, .join here stopped⟩
          · exact sound.enabled_of_unjoined positive (by simp [here, Walker.stopsLeft]) stopped
  | awaiting =>
      right
      cases collecting : s.collecting with
      | false => exact ⟨_, _, .finish here collecting⟩
      | true =>
          refine enabled_of_collecting collecting fun empty => ?_
          have sent := results.stops
          simp [here, collecting, empty, Walker.closings] at sent
  | ended =>
      left
      exact ⟨rfl, sound.joined here⟩

/-- The steps that the walking thread still takes, and those that what it queues will take. -/
def Walker.cost : Walker workers → Nat
  | .walking rest => 5 * rest.length + 3 * workers + 5
  | .stopping left => 2 * left + workers + 4
  | .joining left => left.length + 3
  | .awaiting => 1
  | .ended => 0

def Worker.cost : Worker → Nat
  | .busy _ => 3
  | .holding _ => 2
  | .waiting | .stopped => 0

def State.cost (s : State workers) : Nat :=
  s.walker.cost + (4 * (loads s.work).length + stops s.work) + ∑ i, (s.pool i).cost +
    s.results.length

theorem cost_start (plan : Plan) :
    (start plan workers).cost = 5 * plan.items.length + 3 * workers + 5 := by
  simp [State.cost, start, Walker.cost, Worker.cost]

theorem Step.cost_lt {t : State workers} {event : Event workers} (step : Step plan s event t) :
    t.cost < s.cost := by
  cases step with
  | queue here _ => simp [State.cost, here, Walker.cost]; omega
  | leave here => simp [State.cost, here, Walker.cost]; omega
  | signal here _ => simp [State.cost, here, Walker.cost]; omega
  | turn here => simp [State.cost, here, Walker.cost]
  | join here _ => simp [State.cost, here, Walker.cost]
  | close here _ => simp [State.cost, here, Walker.cost]; omega
  | finish here _ => simp [State.cost, here, Walker.cost]
  | @take i item _ here front =>
      have moved := sum_update Worker.cost s.pool i (.busy item)
      rw [here] at moved
      change _ + 0 = _ + 3 at moved
      simp only [State.cost, front, loads_load_cons, stops_load_cons, List.length_cons]
      omega
  | @retire i _ here front =>
      have moved := sum_update Worker.cost s.pool i .stopped
      rw [here] at moved
      change _ + 0 = _ + 0 at moved
      simp only [State.cost, front, loads_stop_cons, stops_stop_cons]
      omega
  | @work i item entry here _ =>
      have moved := sum_update Worker.cost s.pool i (.holding entry)
      rw [here] at moved
      change _ + 3 = _ + 2 at moved
      simp only [State.cost]
      omega
  | @skip i item fault here _ =>
      have moved := sum_update Worker.cost s.pool i .waiting
      rw [here] at moved
      change _ + 3 = _ + 0 at moved
      simp only [State.cost]
      omega
  | @deliver i entry here _ =>
      have moved := sum_update Worker.cost s.pool i .waiting
      rw [here] at moved
      change _ + 2 = _ + 0 at moved
      simp only [State.cost, List.length_append, List.length_singleton]
      omega
  | collect _ front => simp [State.cost, front]
  | halt _ front => simp [State.cost, front]

theorem Run.length_add_cost_le {trace : List (Event workers)} {t : State workers}
    (run : Run plan s trace t) : trace.length + t.cost ≤ s.cost := by
  induction run with
  | nil => simp
  | snoc _ step ih =>
      have less := step.cost_lt
      rw [List.length_append, List.length_singleton]
      omega

theorem no_endless_steps (states : Nat → State workers) :
    ¬∀ n, ∃ event, Step plan (states n) event (states (n + 1)) := by
  intro endless
  have spent (n : Nat) : n + (states n).cost ≤ (states 0).cost := by
    induction n with
    | zero => simp
    | succ n ih =>
        obtain ⟨event, step⟩ := endless n
        have less := step.cost_lt
        omega
  have last := spent ((states 0).cost + 1)
  omega

theorem Run.completes (positive : 1 ≤ workers) {trace : List (Event workers)}
    (run : Run plan (start plan workers) trace s) :
    ∃ more t, Run plan (start plan workers) (trace ++ more) t ∧ t.walker = .ended := by
  induction bound : s.cost using Nat.strongRecOn generalizing s trace with
  | ind cost ih =>
      rcases run.sound.enabled_or_joined positive plan with ⟨ended, _⟩ | ⟨event, t, step⟩
      · exact ⟨[], s, by simpa using run, ended⟩
      · obtain ⟨more, u, rest, ended⟩ :=
          ih t.cost (bound ▸ step.cost_lt) (run.snoc step) rfl
        exact ⟨event :: more, u, by simpa using rest, ended⟩

theorem exists_ended_run (plan : Plan) (positive : 1 ≤ workers) :
    ∃ trace s, Run plan (start plan workers) trace s ∧ s.walker = .ended :=
  Run.completes positive .nil

theorem State.ended_of_outcome? {outcome : Except Failure (List Entry)}
    (handed : s.outcome? plan = some outcome) : s.walker = .ended := by
  unfold State.outcome? at handed
  split at handed
  · assumption
  · cases handed

theorem State.outcome?_of_ended (plan : Plan) (ended : s.walker = .ended) :
    s.outcome? plan = some (plan.outcome s.collected) := by
  rw [State.outcome?, ended]

theorem Run.joined_of_outcome? {trace : List (Event workers)}
    (run : Run plan (start plan workers) trace s) {outcome : Except Failure (List Entry)}
    (handed : s.outcome? plan = some outcome) :
    s.Joined ∧ outcome = plan.outcome s.collected := by
  have ended := State.ended_of_outcome? handed
  rw [State.outcome?_of_ended plan ended] at handed
  exact ⟨run.sound.joined ended, (Option.some.inj handed).symm⟩

theorem Plan.outcome_of_failure {failure : Failure} (failed : plan.failure = some failure)
    (entries : List Entry) : plan.outcome entries = .error failure := by
  rw [Plan.outcome, failed]

theorem Setting.failure_of_listing {setting : Setting} {error : OsError}
    (unlisted : setting.listing = .error error) :
    setting.plan.failure = some (.os error) := by
  change setting.failure = _
  rw [Setting.failure, unlisted]

/-- Whatever the files, which of them can be worked, whether the walk fails, and the number of
workers: in every state that is reached, either all is over and all threads are joined or some
thread has a step; the number of steps is bounded, and every run goes on to one that ends. What is
handed on then is the failure of the walk if there is one, as for a root that cannot be listed. -/
theorem threads_come_to_an_end (workers : Nat) (positive : 1 ≤ workers) :
    (∀ (plan : Plan) trace (s : State workers), Run plan (start plan workers) trace s →
      ((s.walker = .ended ∧ s.Joined) ∨ ∃ event t, Step plan s event t) ∧
      trace.length ≤ 5 * plan.items.length + 3 * workers + 5 ∧
      (∃ more t, Run plan (start plan workers) (trace ++ more) t ∧ t.walker = .ended) ∧
      ∀ outcome, s.outcome? plan = some outcome → s.Joined ∧ outcome = plan.outcome s.collected) ∧
    (∀ plan (states : Nat → State workers), states 0 = start plan workers →
      ¬∀ n, ∃ event, Step plan (states n) event (states (n + 1))) ∧
    ∀ (setting : Setting) error trace (s : State workers) outcome,
      setting.listing = .error error → Run setting.plan (start setting.plan workers) trace s →
        s.outcome? setting.plan = some outcome → s.Joined ∧ outcome = .error (.os error) := by
  refine ⟨fun plan trace s run => ?_, fun plan states _ => no_endless_steps states, ?_⟩
  · have spent := run.length_add_cost_le
    rw [cost_start] at spent
    exact ⟨run.sound.enabled_or_joined positive plan, by omega, run.completes positive,
      fun outcome => run.joined_of_outcome?⟩
  · intro setting error trace s outcome unlisted run handed
    obtain ⟨joined, given⟩ := run.joined_of_outcome? handed
    rw [Plan.outcome_of_failure (Setting.failure_of_listing unlisted)] at given
    exact ⟨joined, given⟩

/-- Three files of which the second cannot be worked, and a walk that fails after them. -/
def brokenPlan : Plan where
  items := [⟨"a", 0⟩, ⟨"b", 0⟩, ⟨"c", 0⟩]
  failure := some (.os ⟨.denied, "/"⟩)
  process item := if item.path = "b" then .error (.unweighed "b") else .ok { path := item.path }

theorem broken_plan_comes_to_an_end :
    1 ≤ 1 ∧ ∃ trace, ∃ s : State 1, Run brokenPlan (start brokenPlan 1) trace s ∧
      trace.length ≤ 23 ∧ s.Joined ∧
      s.outcome? brokenPlan = some (.error (.os ⟨.denied, "/"⟩)) := by
  have positive : 1 ≤ 1 := by decide
  obtain ⟨facts, _, _⟩ := threads_come_to_an_end 1 positive
  obtain ⟨_, _, ⟨trace, s, run, ended⟩, _⟩ := facts brokenPlan [] _ .nil
  obtain ⟨_, bound, _, handed⟩ := facts brokenPlan _ s run
  have outcome := State.outcome?_of_ended brokenPlan ended
  exact ⟨positive, _, s, run, bound, (handed _ outcome).1, outcome⟩

end SourceAtlas.ScanThreads
