import SourceAtlas.Proofs.Ceiling
import SourceAtlas.Proofs.SecondRun
import SourceAtlas.Proofs.StrippedCase

/-!
What of the settings an index is made of. Where it is kept, whether it is sealed and by which key,
and what is told of it make no difference, nor do white space and case in the names of languages. The
number of calls that are left makes none either, as long as scan and adapters get equally far.
-/
namespace SourceAtlas

open Text

namespace IndexFrame

theorem render_ends (frame : IndexFrame) (scan : ScanResult) (tier : Tier) (moment : Moment) :
    ∃ front, (frame.render scan tier moment).1 = front ++ "\n" := by
  rw [render_eq]
  unfold Truncation.apply
  split
  · exact frame.join_allLines_ends scan moment tier
  · exact ⟨_, rfl⟩

end IndexFrame

namespace Indexing
open Noted

def indexOf (registry : Registry) (site : Site) (settings : Settings) (room : Nat) (now : Moment) :
    Except Failure IndexResult :=
  match rootOf site settings with
  | .error fault => .error (.path fault)
  | .ok root => indexAt registry site settings room now root

theorem generate_gives_index (registry : Registry) (site : Site) (settings : Settings)
    (room : Nat) (now : Moment) :
    Gives (generate registry site settings room now)
      (indexOf registry site settings room now) := by
  unfold indexOf
  cases rooted : rootOf site settings with
  | error fault =>
      unfold generate
      rw [rooted]
      exact (gives_ofPath_error fault).stop _
  | ok root => exact generate_gives rooted registry room now

theorem content_ends {registry : Registry} {site : Site} {settings : Settings} {room : Nat}
    {now : Moment} {result : IndexResult}
    (indexed : indexOf registry site settings room now = .ok result) :
    ∃ front, result.content = front ++ "\n" := by
  unfold indexOf at indexed
  split at indexed
  · cases indexed
  next root _ =>
    obtain ⟨_, tier, _, _, _, _, _, _, rfl⟩ := exists_of_indexAt (exists_of_indexed indexed) indexed
    exact IndexFrame.render_ends _ _ tier now

end Indexing

namespace Settings

structure Alike (registry : Registry) (a b : Settings) : Prop where
  root : b.root = a.root
  tier : b.tier = a.tier
  hash : b.hashAlgorithm = a.hashAlgorithm
  candidates : b.maxCandidates = a.maxCandidates
  ceiling : b.maxOutputKb = a.maxOutputKb
  overrides : b.overrides = a.overrides
  detects : b.languages.isEmpty = a.languages.isEmpty
  selected : (registry.select b.languages).1 = (registry.select a.languages).1

theorem Alike.symm {registry : Registry} {a b : Settings} (alike : Alike registry a b) :
    Alike registry b a where
  root := alike.root.symm
  tier := alike.tier.symm
  hash := alike.hash.symm
  candidates := alike.candidates.symm
  ceiling := alike.ceiling.symm
  overrides := alike.overrides.symm
  detects := alike.detects.symm
  selected := alike.selected.symm

end Settings

namespace Indexing
open ScanThreads

variable {registry : Registry} {site : Site} {a b : Settings}

theorem adaptersAt_of_alike (alike : Settings.Alike registry a b) {root : Path}
    {adapters : List Adapter} (chosen : adaptersAt registry site a root = .ok adapters) :
    adaptersAt registry site b root = .ok adapters := by
  unfold adaptersAt at chosen ⊢
  rw [alike.detects]
  split at chosen
  next detected =>
    rw [if_pos detected]
    exact chosen
  next asked =>
    rw [if_neg asked]
    dsimp only at chosen ⊢
    rw [alike.selected]
    split at chosen
    · cases chosen
    next filled =>
      rw [if_neg filled]
      exact chosen

theorem resultOf_alike (alike : Settings.Alike registry a b) (now : Moment) (root : Path)
    (adapters : List Adapter) (tier : Tier) (scan : ScanResult) :
    resultOf b now root adapters tier scan = resultOf a now root adapters tier scan := by
  unfold resultOf
  rw [alike.tier, alike.hash, alike.ceiling]

theorem indexAt_of_alike (alike : Settings.Alike registry a b) {room : Nat} {now : Moment}
    {root : Path} {result : IndexResult}
    (indexed : indexAt registry site a room now root = .ok result) :
    indexAt registry site b room now root = .ok result := by
  have there := exists_of_indexed indexed
  obtain ⟨adapters, tier, scan, full, chosen, labelled, scanned, attached, rfl⟩ :=
    exists_of_indexAt there indexed
  have request : requestOf b room adapters = requestOf a room adapters := by
    unfold requestOf
    rw [alike.overrides, alike.hash, alike.candidates]
  rw [indexAt_eq there, bind_of_ok (adaptersAt_of_alike alike chosen), request,
    bind_of_ok scanned, attached]
  change resultAt b now root adapters full = _
  unfold resultAt
  rw [alike.tier, labelled]
  dsimp only
  rw [resultOf_alike alike]

theorem indexOf_of_alike (alike : Settings.Alike registry a b) {room : Nat} {now : Moment}
    {result : IndexResult} (indexed : indexOf registry site a room now = .ok result) :
    indexOf registry site b room now = .ok result := by
  have rooted : rootOf site b = rootOf site a := by
    unfold rootOf
    rw [alike.root]
  unfold indexOf at indexed ⊢
  rw [rooted]
  split at indexed
  · cases indexed
  · exact indexAt_of_alike alike indexed

/-- Two amounts of calls that are left reach equally far: the directories nest too deeply for both
scans or for neither, and the adapters read the same of every candidate. -/
structure SameReach (registry : Registry) (site : Site) (settings : Settings) (root : Path)
    (room more : Nat) : Prop where
  nested : ∀ adapters setting, adaptersAt registry site settings root = .ok adapters →
    settle site root.toText (requestOf settings room adapters) = .ok setting →
    (Scan.callsFor setting.findings.levels ≤ more - 1 ↔
      Scan.callsFor setting.findings.levels ≤ room - 1)
  read : ∀ adapters scan, adaptersAt registry site settings root = .ok adapters →
    (settle site root.toText (requestOf settings room adapters) >>= Setting.sequential) =
      .ok scan →
    ∀ entry ∈ scan.candidates, ∀ adapter content,
      SymbolReading.adapterOf? adapters entry.language = some adapter →
      site.read (root.child entry.path) = .ok content →
      adapter.read (more - 3) entry.path (content.take symbolWindow) =
        adapter.read (room - 3) entry.path (content.take symbolWindow)

theorem settle_requestOf (site : Site) (shown : String) (settings : Settings)
    (adapters : List Adapter) (room more : Nat) :
    settle site shown (requestOf settings more adapters) =
      (settle site shown (requestOf settings room adapters)).map
        ({ · with request := requestOf settings more adapters }) := by
  unfold settle
  cases (do site.resolve (← site.expandHome (.ofText shown)) : Except PathFault Path) with
  | error fault => rfl
  | ok root =>
      change settleAt site shown (requestOf settings more adapters) root =
        (settleAt site shown (requestOf settings room adapters) root).map _
      unfold settleAt
      cases site.exists? root with
      | error error => rfl
      | ok present =>
          cases present with
          | false => rfl
          | true =>
              cases site.isDirectory? root with
              | error error => rfl
              | ok directory => cases directory <;> rfl

section Reach
variable {settings : Settings} {root : Path} {room more : Nat}
  (reach : SameReach registry site settings root room more) {adapters : List Adapter}
  (chosen : adaptersAt registry site settings root = .ok adapters)
include reach chosen

theorem scan_of_reach :
    (settle site root.toText (requestOf settings more adapters) >>= Setting.sequential) =
      (settle site root.toText (requestOf settings room adapters) >>= Setting.sequential) := by
  rw [settle_requestOf site _ settings adapters room more]
  cases settled : settle site root.toText (requestOf settings room adapters) with
  | error failure => rfl
  | ok setting =>
      have nested := reach.nested adapters setting chosen settled
      have asked : setting.request = requestOf settings room adapters := (settled_for settled).1
      obtain ⟨request, walk, listing⟩ := setting
      obtain rfl : request = requestOf settings room adapters := asked
      change (_ >>= Setting.answer _) = (_ >>= Setting.answer _)
      refine congrArg _ (funext fun entries => ?_)
      exact ite_congr (propext nested) (fun _ => rfl) fun _ => rfl

theorem withSymbols_of_reach {scan : ScanResult}
    (scanned : (settle site root.toText (requestOf settings room adapters) >>=
      Setting.sequential) = .ok scan) :
    withSymbols more site root adapters scan = withSymbols room site root adapters scan := by
  unfold withSymbols
  refine congrArg (fun attached => Except.map _ (Prod.fst attached))
    (SymbolReading.attach_congr fun entry member => ?_)
  unfold SymbolReading.symbolsOf
  cases spoken : SymbolReading.adapterOf? adapters entry.language with
  | none => rfl
  | some adapter =>
      dsimp only
      cases opened : site.read (root.child entry.path) with
      | error error => rfl
      | ok content =>
          have same := reach.read adapters scan chosen scanned entry member adapter content spoken
            opened
          dsimp only
          unfold SymbolReading.attempt
          rw [Nat.sub_sub, Nat.sub_sub, same]

end Reach

theorem indexAt_of_reach {settings : Settings} {root : Path} {room more : Nat}
    (reach : SameReach registry site settings root room more) (now : Moment) :
    indexAt registry site settings more now root =
      indexAt registry site settings room now root := by
  by_cases there : site.exists? root = .ok true
  · rw [indexAt_eq there, indexAt_eq there]
    cases chosen : adaptersAt registry site settings root with
    | error failure => rw [bind_of_error rfl, bind_of_error rfl]
    | ok adapters =>
        rw [bind_of_ok rfl, bind_of_ok rfl, scan_of_reach reach chosen]
        cases scanned : settle site root.toText (requestOf settings room adapters) >>=
            Setting.sequential with
        | error failure => rw [bind_of_error rfl, bind_of_error rfl]
        | ok scan =>
            rw [bind_of_ok rfl, bind_of_ok rfl, withSymbols_of_reach reach chosen scanned]
  · rw [indexAt_of_absent there, indexAt_of_absent there]

theorem indexOf_of_reach {settings : Settings} {room more : Nat}
    (reach : ∀ root, rootOf site settings = .ok root →
      SameReach registry site settings root room more) (now : Moment) :
    indexOf registry site settings more now = indexOf registry site settings room now := by
  unfold indexOf
  cases rooted : rootOf site settings with
  | error fault => rfl
  | ok root => exact indexAt_of_reach (reach root rooted) now

/-- A directory that may be listed has an index where it does not nest too deeply and none of its
files is to be read. -/
theorem exists_index {settings : Settings} {place : Place} {entries : List (String × Item)}
    (names : ProperNames place) (fits : Fits (.ofPlace place))
    (found : site.root.get? place = some (.directory entries))
    (unlocked : site.isLocked place = false) {adapters : List Adapter} {tier : Tier}
    (chosen : adaptersAt registry site settings (.ofPlace place) = .ok adapters)
    (labelled : Tier.ofLabel? settings.tier = some tier) {room : Nat}
    (low : Scan.callsFor (Item.heightAll entries) ≤ room - 1)
    (idle : ((walkAt site place (requestOf settings room adapters)).all entries).work = [])
    (now : Moment) :
    ∃ result, indexAt registry site settings room now (.ofPlace place) = .ok result := by
  have there := Site.exists_directory fits names.down found
  have listed : site.list (.ofPlace place) = .ok entries :=
    (Site.list_directory fits names.down found).trans (if_neg (Bool.eq_false_iff.mp unlocked))
  let setting : Setting := ⟨requestOf settings room adapters,
    walkAt site place (requestOf settings room adapters), .ok entries⟩
  have shallow : setting.Shallow := Setting.shallow_of_height rfl low
  have scanned : setting.sequential = _ := Setting.sequential_listed rfl shallow
  have bare :
      (setting.result (Scan.processAll setting.process setting.findings.work).1).candidates =
        [] := by
    have work : setting.findings.work = [] := idle
    rw [work]
    simp [Setting.result, Scan.assemble, Scan.processAll, selectCandidates, rank]
  have clean : ∀ entry ∈
      (setting.result (Scan.processAll setting.process setting.findings.work).1).candidates,
      hasNul ((Path.ofPlace place).child entry.path) = false := by
    rw [bare]
    exact fun _ inside => absurd inside List.not_mem_nil
  obtain ⟨full, attached⟩ := exists_withSymbols room site adapters clean
  rw [indexAt_eq there, bind_of_ok chosen, settle_directory names fits found, listed,
    bind_of_ok rfl, bind_of_ok scanned, attached]
  change ∃ result, resultAt settings now (.ofPlace place) adapters full = .ok result
  unfold resultAt
  rw [labelled]
  exact ⟨_, rfl⟩

end Indexing

end SourceAtlas
