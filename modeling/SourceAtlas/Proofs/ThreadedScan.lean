import Mathlib
import SourceAtlas.Proofs.NotedWork
import SourceAtlas.Proofs.ScanThreadsDelivery
import SourceAtlas.Proofs.TextOrder
import SourceAtlas.Proofs.WalkFindings

/-!
A scan by threads answers what a scan does that works one file after the other. The threads collect
the same entries in some order, the entries are sorted by path before anything is made of them, and
two files of one walk with the same path have the same entry.
-/
namespace SourceAtlas

theorem Scan.processAll_entries (process : WorkItem → Except EntryFault Entry)
    (work : List WorkItem) :
    (Scan.processAll process work).1 = work.filterMap fun item => (process item).toOption := by
  simp only [Scan.processAll, List.filterMap_map]
  rfl

theorem Scan.process_eq_ok {walk : Walk} {adapters : List Adapter} {priority : List Rule}
    {hashAlgorithm : String} {item : WorkItem} {entry : Entry} :
    Scan.process walk adapters priority hashAlgorithm item = .ok entry ↔
      ∃ content score, walk.site.read (.ofPlace (walk.placeOf item.path)) = .ok content ∧
        walk.site.isLocked (walk.placeOf item.path) = false ∧
        scoreOf (entryOf adapters hashAlgorithm item content)
          (adapterFor? (baseName item.path) adapters) priority = .ok score ∧
        entry = { entryOf adapters hashAlgorithm item content with score := score } := by
  unfold Scan.process
  dsimp only
  cases given : walk.site.read (.ofPlace (walk.placeOf item.path)) with
  | error error => simp
  | ok content =>
      dsimp only
      cases walk.site.isLocked (walk.placeOf item.path) with
      | true => simp
      | false =>
          rw [if_neg Bool.false_ne_true]
          cases scored : scoreOf (entryOf adapters hashAlgorithm item content)
              (adapterFor? (baseName item.path) adapters) priority with
          | error reason =>
              refine ⟨nofun, ?_⟩
              rintro ⟨_, score, same, _, again, _⟩
              cases same
              cases scored.symm.trans again
          | ok score =>
              constructor
              · intro done
                exact ⟨content, score, rfl, rfl, scored, (Except.ok.inj done).symm⟩
              · rintro ⟨_, other, same, _, again, is⟩
                cases same
                cases scored.symm.trans again
                rw [is]

theorem Scan.path_of_process {walk : Walk} {adapters : List Adapter} {priority : List Rule}
    {hashAlgorithm : String} {item : WorkItem} {entry : Entry}
    (result : Scan.process walk adapters priority hashAlgorithm item = .ok entry) :
    entry.path = item.path := by
  obtain ⟨_, _, _, _, _, rfl⟩ := Scan.process_eq_ok.mp result
  rfl

namespace ScanThreads
open Text Noted

namespace Setting

theorem depth_of_mem {setting : Setting} {item : WorkItem}
    (member : item ∈ setting.findings.work) : item.depth = Walk.slashes item.path := by
  unfold findings at member
  split at member
  · exact setting.walk.depth_of_mem_all member
  · cases member

theorem exists_item {setting : Setting} {entry : Entry}
    (member : entry ∈ (Scan.processAll setting.process setting.findings.work).1) :
    ∃ item ∈ setting.findings.work, setting.process item = .ok entry := by
  rw [Scan.processAll_entries] at member
  obtain ⟨item, inside, given⟩ := List.mem_filterMap.mp member
  refine ⟨item, inside, ?_⟩
  cases result : setting.process item with
  | error fault => simp [result, Except.toOption] at given
  | ok other => simpa [result, Except.toOption] using given

theorem path_of_process {setting : Setting} {item : WorkItem} {entry : Entry}
    (result : setting.process item = .ok entry) : entry.path = item.path := by
  unfold process at result
  exact Scan.path_of_process result

theorem entry_eq_of_path_eq {setting : Setting} {a b : Entry}
    (left : a ∈ (Scan.processAll setting.process setting.findings.work).1)
    (right : b ∈ (Scan.processAll setting.process setting.findings.work).1)
    (same : a.path = b.path) : a = b := by
  obtain ⟨item, first, ofItem⟩ := exists_item left
  obtain ⟨other, second, ofOther⟩ := exists_item right
  have paths : item.path = other.path := by
    rw [← path_of_process ofItem, ← path_of_process ofOther, same]
  have depths : item.depth = other.depth := by
    rw [depth_of_mem first, depth_of_mem second, paths]
  have items : item = other := by
    cases item
    cases other
    simp_all
  rw [items, ofOther] at ofItem
  exact (Except.ok.inj ofItem).symm

theorem result_eq_of_perm {setting : Setting} {entries : List Entry}
    (perm : entries.Perm (Scan.processAll setting.process setting.findings.work).1) :
    setting.result entries =
      setting.result (Scan.processAll setting.process setting.findings.work).1 := by
  have sorted := mergeSort_eq_of_perm Entry.path perm fun a left b right =>
    entry_eq_of_path_eq (perm.mem_iff.mp left) (perm.mem_iff.mp right)
  unfold result Scan.assemble
  rw [sorted]

theorem answer_eq_of_perm {setting : Setting} {entries : List Entry}
    (perm : entries.Perm (Scan.processAll setting.process setting.findings.work).1) :
    setting.answer entries =
      setting.answer (Scan.processAll setting.process setting.findings.work).1 := by
  rw [answer, result_eq_of_perm perm, answer]

theorem sequential_answers {setting : Setting} {entries : List (String × Item)}
    (listed : setting.listing = .ok entries) : setting.sequential =
      setting.answer (Scan.processAll setting.process setting.findings.work).1 := by
  unfold sequential plan Plan.outcome failure
  simp only [listed]
  rfl

theorem sequential_listed {setting : Setting} {entries : List (String × Item)}
    (listed : setting.listing = .ok entries) (shallow : setting.Shallow) : setting.sequential =
      .ok (setting.result (Scan.processAll setting.process setting.findings.work).1) := by
  rw [sequential_answers listed, answer, if_pos shallow]

theorem shallow_of_height {setting : Setting} {entries : List (String × Item)}
    (listed : setting.listing = .ok entries)
    (low : Scan.callsFor (Item.heightAll entries) ≤ setting.request.room) : setting.Shallow := by
  have levels : setting.findings.levels ≤ Item.heightAll entries := by
    rw [findings, listed]
    exact setting.walk.levels_all_le entries
  refine le_trans ?_ low
  unfold Scan.callsFor
  omega

theorem sequential_tooNested {setting : Setting} {entries : List (String × Item)}
    (listed : setting.listing = .ok entries) (deep : ¬setting.Shallow) :
    setting.sequential = .error .tooNested := by
  rw [sequential_answers listed, answer, if_neg deep]

theorem sequential_unlisted {setting : Setting} {error : OsError}
    (unlisted : setting.listing = .error error) : setting.sequential = .error (.os error) := by
  unfold sequential plan Plan.outcome failure
  simp only [unlisted]
  rfl

theorem sequential_eq_ok_iff {setting : Setting} {scan : ScanResult} :
    setting.sequential = .ok scan ↔ (∃ entries, setting.listing = .ok entries) ∧
      setting.Shallow ∧
      scan = setting.result (Scan.processAll setting.process setting.findings.work).1 := by
  cases listed : setting.listing with
  | error error =>
      rw [sequential_unlisted listed]
      exact iff_of_false nofun fun ⟨⟨_, given⟩, _⟩ => nomatch given
  | ok entries =>
      by_cases shallow : setting.Shallow
      · simp [sequential_listed listed shallow, shallow, eq_comm]
      · simp [sequential_tooNested listed shallow, shallow]

theorem exists_item_of_shown {setting : Setting} {scan : ScanResult}
    (scanned : setting.sequential = .ok scan) {entry : Entry}
    (shown : entry ∈ scan.files ∨ entry ∈ scan.candidates) :
    ∃ item ∈ setting.findings.work, setting.process item = .ok entry := by
  obtain ⟨_, _, rfl⟩ := sequential_eq_ok_iff.mp scanned
  -- the candidates are some of the files, and both are sorted
  rcases shown with filed | chosen
  · exact exists_item (List.mem_mergeSort.mp filed)
  · have filed := List.mem_mergeSort.mp (List.mem_of_mem_take chosen)
    exact exists_item (List.mem_mergeSort.mp filed)

end Setting

theorem gives_pruned (setting : Setting) (entries : List Entry) :
    Gives (do
        if Scan.callsFor setting.findings.levels > setting.request.room then Noted.fail .tooNested
        Noted.note (Scan.summaryNote (setting.result entries))
        return setting.result entries)
      (setting.answer entries) := by
  by_cases shallow : setting.Shallow
  · rw [if_neg (Nat.not_lt.mpr shallow), Setting.answer, if_pos shallow]
    exact (gives_note _).seq (gives_pure _)
  · rw [if_pos (Nat.not_le.mp shallow), Setting.answer, if_neg shallow]
    exact (gives_fail _).stop _

theorem run_gives (site : Site) (shown : String) (request : ScanRequest) :
    Gives (Scan.run site shown request) (settle site shown request >>= Setting.sequential) := by
  unfold Scan.run settle
  cases (do site.resolve (← site.expandHome (.ofText shown))) with
  | error fault => exact (gives_ofPath_error fault).stop _
  | ok root =>
      refine (gives_ofPath root).seq ?_
      change Gives _ (settleAt site shown request root >>= Setting.sequential)
      unfold settleAt
      cases site.exists? root with
      | error error => exact (gives_ofOs_error error).stop _
      | ok present =>
          refine (gives_ofOs present).seq ?_
          cases present with
          | false => exact gives_refused _ _
          | true =>
              refine gives_passed ?_
              cases site.isDirectory? root with
              | error error => exact (gives_ofOs_error error).stop _
              | ok isDirectory =>
                  refine (gives_ofOs isDirectory).seq ?_
                  cases isDirectory with
                  | false => exact gives_refused _ _
                  | true =>
                      refine gives_passed ((gives_noteAll _).seq ((gives_noteAll _).seq ?_))
                      cases site.list root with
                      | error error => exact (gives_ofOs_error error).stop _
                      | ok entries =>
                          refine (gives_ofOs entries).seq ((gives_noteAll _).seq ?_)
                          refine (gives_noteAll _).seq ?_
                          exact gives_pruned ⟨request, ⟨site, root.names, .compile
                            (byName request.adapters) request.overrides
                            (Scan.ignoreFile site root).1⟩, .ok entries⟩ _

theorem settleAt_eq_ok {site : Site} {shown : String} {request : ScanRequest} {root : Path}
    {setting : Setting} (settled : settleAt site shown request root = .ok setting) :
    site.exists? root = .ok true ∧ site.isDirectory? root = .ok true ∧
      setting = ⟨request, ⟨site, root.names, .compile (byName request.adapters) request.overrides
        (Scan.ignoreFile site root).1⟩, site.list root⟩ := by
  unfold settleAt at settled
  cases present : site.exists? root with
  | error error =>
      rw [present] at settled
      cases settled
  | ok there =>
      rw [present] at settled
      cases there with
      | false => cases settled
      | true =>
          cases directory : site.isDirectory? root with
          | error error =>
              rw [directory] at settled
              cases settled
          | ok is =>
              rw [directory] at settled
              cases is with
              | false => cases settled
              | true =>
                  cases settled
                  exact ⟨rfl, rfl, rfl⟩

variable {site : Site} {shown : String} {request : ScanRequest} {setting : Setting}

theorem settled_for (settled : settle site shown request = .ok setting) :
    setting.request = request ∧ setting.walk.site = site := by
  obtain ⟨root, _, there⟩ := exists_of_bind settled
  obtain ⟨_, _, rfl⟩ := settleAt_eq_ok there
  exact ⟨rfl, rfl⟩

theorem run_eq_sequential (settled : settle site shown request = .ok setting) :
    (Scan.run site shown request).outcome.1 = setting.sequential := by
  rw [(run_gives site shown request).outcome, bind_of_ok settled]

variable {workers : Nat}

theorem Setting.collected_perm {setting : Setting} {s : State workers}
    {trace : List (Event workers)} (positive : 1 ≤ workers)
    (run : Run setting.plan (start setting.plan workers) trace s) (ended : s.walker = .ended) :
    s.collected.Perm (Scan.processAll setting.process setting.findings.work).1 := by
  rw [Scan.processAll_entries]
  exact run.collected_perm positive ended

theorem Setting.bind_outcome {setting : Setting} {s : State workers} {trace : List (Event workers)}
    {outcome : Except Failure (List Entry)} (positive : 1 ≤ workers)
    (run : Run setting.plan (start setting.plan workers) trace s)
    (handed : s.outcome? setting.plan = some outcome) :
    (outcome >>= setting.answer) = setting.sequential := by
  have ended := State.ended_of_outcome? handed
  rw [State.outcome?_of_ended _ ended] at handed
  have same := Setting.answer_eq_of_perm (Setting.collected_perm positive run ended)
  rw [← Option.some.inj handed, Setting.sequential]
  unfold Plan.outcome
  cases setting.plan.failure with
  | some failure => rfl
  | none => exact same

theorem answers_iff (positive : 1 ≤ workers) (site : Site) (shown : String)
    (request : ScanRequest) (answer : Except Failure ScanResult) :
    Answers site shown request workers answer ↔
      answer = (settle site shown request >>= Setting.sequential) := by
  constructor
  · intro answers
    cases answers with
    | refused refused => rw [refused]; rfl
    | ended settled run handed =>
        rw [settled]
        exact Setting.bind_outcome positive run handed
  · rintro rfl
    cases settled : settle site shown request with
    | error failure => exact .refused settled
    | ok setting =>
        obtain ⟨more, s, run, ended⟩ := exists_ended_run setting.plan positive
        have handed := State.outcome?_of_ended setting.plan ended
        have answers := Answers.ended settled run handed
        rw [Setting.bind_outcome positive run handed] at answers
        exact answers

/-- Whatever the number of workers and the order of the steps: every file of the walk is queued and
worked once, what could be worked is collected and nothing else, no entry comes behind the stop of
the collector, and the scan has one answer, which is that of the sequence. -/
theorem threads_answer_as_sequence (site : Site) (shown : String) (request : ScanRequest)
    (workers : Nat) (positive : 1 ≤ workers) :
    (∀ setting trace (s : State workers), settle site shown request = .ok setting →
      Run setting.plan (start setting.plan workers) trace s → s.walker = .ended →
        queued trace = setting.findings.work ∧ (worked trace).Perm (queued trace) ∧
        s.collected.Perm ((queued trace).filterMap fun item => (setting.process item).toOption) ∧
        trace.Pairwise fun earlier later => earlier = .close → ¬later.Delivers) ∧
      ∀ answer, Answers site shown request workers answer ↔
        answer = (Scan.run site shown request).outcome.1 := by
  refine ⟨fun setting trace s _ run ended => ?_, fun answer => ?_⟩
  · have whole : queued trace = setting.plan.items := run.queued_eq ended
    rw [whole]
    exact ⟨rfl, run.worked_perm positive ended, run.collected_perm positive ended,
      run.delivers_before_close⟩
  · rw [(run_gives site shown request).outcome]
    exact answers_iff positive site shown request answer

/-- A directory with a file, a link to it and a link that leads nowhere. -/
def linkedSite : Site where
  root := .directory [("a", .file [104]), ("b", .link "a"), ("c", .link "x")]

def everyName : ScanRequest where
  room := 990
  adapters := [{ label := "Any", name := "any", configs := ["*"], read := fun _ _ _ => .error "" }]

theorem settle_linkedSite :
    ∃ setting, settle linkedSite "/" everyName = .ok setting ∧
      setting.findings.work.map (·.path) = ["a", "b"] := by
  have found : (settle linkedSite "/" everyName).toOption.map
      (fun setting => setting.findings.work.map (·.path)) = some ["a", "b"] := by cbv
  cases settled : settle linkedSite "/" everyName with
  | error failure => simp [settled, Except.toOption] at found
  | ok setting => exact ⟨setting, rfl, by simpa [settled, Except.toOption] using found⟩

theorem two_workers_answer_as_sequence :
    (1 ≤ 2 ∧ ∃ setting trace, ∃ s : State 2, settle linkedSite "/" everyName = .ok setting ∧
      Run setting.plan (start setting.plan 2) trace s ∧ s.walker = .ended ∧
      (queued trace).map (·.path) = ["a", "b"] ∧ (worked trace).Perm (queued trace)) ∧
      Answers linkedSite "/" everyName 2 (Scan.run linkedSite "/" everyName).outcome.1 := by
  have positive : 1 ≤ 2 := by decide
  obtain ⟨facts, answers⟩ := threads_answer_as_sequence linkedSite "/" everyName 2 positive
  obtain ⟨setting, settled, paths⟩ := settle_linkedSite
  obtain ⟨trace, s, run, ended⟩ := exists_ended_run setting.plan positive
  obtain ⟨whole, once, _, _⟩ := facts setting trace s settled run ended
  exact ⟨⟨positive, setting, trace, s, settled, run, ended, by rw [whole, paths], once⟩,
    (answers _).mpr rfl⟩

end ScanThreads

end SourceAtlas
