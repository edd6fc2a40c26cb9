import SourceAtlas.Proofs.ActWork
import SourceAtlas.Proofs.IndexPlacement
import SourceAtlas.Proofs.ThreadedScan

/-!
What a run amounts to, with the journal left out: the adapters, the scan, the text, the file that is
written, and the registration, each a value of what comes before.
-/
namespace SourceAtlas

theorem SymbolReading.attach_congr {room more : Nat} {site other : Site} {root : Path}
    {adapters : List Adapter} {candidates : List Entry}
    (same : ∀ entry ∈ candidates, symbolsOf more other root adapters entry =
      symbolsOf room site root adapters entry) :
    attach more other root adapters candidates = attach room site root adapters candidates := by
  induction candidates with
  | nil => rfl
  | cons entry rest ih =>
      rw [List.forall_mem_cons] at same
      rw [attach, attach, same.1, ih same.2]

theorem SymbolReading.exists_attach (room : Nat) (site : Site) {root : Path}
    (adapters : List Adapter) {candidates : List Entry}
    (clean : ∀ entry ∈ candidates, hasNul (root.child entry.path) = false) :
    ∃ attached, (attach room site root adapters candidates).1 = .ok attached := by
  induction candidates with
  | nil => exact ⟨[], rfl⟩
  | cons entry rest ih =>
      rw [List.forall_mem_cons] at clean
      obtain ⟨attached, done⟩ := ih clean.2
      obtain ⟨told, read⟩ : ∃ told, symbolsOf room site root adapters entry = .ok told := by
        unfold symbolsOf
        cases adapterOf? adapters entry.language with
        | none => exact ⟨_, rfl⟩
        | some adapter =>
            simp only [clean.1, Bool.false_eq_true, if_false]
            cases site.read (root.child entry.path) with
            | error error => exact ⟨_, rfl⟩
            | ok content => exact ⟨_, rfl⟩
      rw [attach, read]
      dsimp only
      rw [done]
      exact ⟨_, rfl⟩

namespace Indexing
open Noted

def adaptersAt (registry : Registry) (site : Site) (settings : Settings) (root : Path) :
    Except Failure (List Adapter) :=
  if settings.languages.isEmpty then
    let adapters := registry.detect site root
    if adapters.isEmpty then .error (.undetected root.toText registry.names) else .ok adapters
  else
    let adapters := (registry.select settings.languages).1
    if adapters.isEmpty then .error (.unsupported settings.languages registry.names)
    else .ok adapters

def requestOf (settings : Settings) (room : Nat) (adapters : List Adapter) : ScanRequest where
  room := room - 1
  adapters := adapters
  overrides := settings.overrides
  hashAlgorithm := settings.hashAlgorithm
  maxCandidates := settings.maxCandidates

/-- The index of a scan, its candidates having their symbols. -/
def resultOf (settings : Settings) (now : Moment) (root : Path) (adapters : List Adapter)
    (tier : Tier) (scan : ScanResult) : IndexResult :=
  let frame : IndexFrame := ⟨repositoryOf root, adapters.map (·.name), settings.maxOutputKb⟩
  let content := (frame.render scan tier now).1
  { content := content
    summary := (frame.renderSummary scan now).1
    tier := settings.tier
    contentHash := Digest.contentHash settings.hashAlgorithm (Text.Utf8.encode content)
    repository := repositoryOf root
    languages := adapters.map (·.name)
    fileCount := scan.files.length
    totalFiles := scan.totalFiles
    generatedAt := now
    categories := categorize (scan.candidates.map (·.path)) }

def withSymbols (room : Nat) (site : Site) (root : Path) (adapters : List Adapter)
    (scan : ScanResult) : Except PathFault ScanResult :=
  (SymbolReading.attach (room - 1) site root adapters scan.candidates).1.map fun candidates =>
    { scan with candidates := candidates }

theorem exists_withSymbols (room : Nat) (site : Site) {root : Path} (adapters : List Adapter)
    {scan : ScanResult}
    (clean : ∀ entry ∈ scan.candidates, hasNul (root.child entry.path) = false) :
    ∃ full, withSymbols room site root adapters scan = .ok full := by
  obtain ⟨attached, done⟩ := SymbolReading.exists_attach (room - 1) site adapters clean
  rw [withSymbols, done]
  exact ⟨_, rfl⟩

def resultAt (settings : Settings) (now : Moment) (root : Path) (adapters : List Adapter)
    (scan : ScanResult) : Except Failure IndexResult :=
  match Tier.ofLabel? settings.tier with
  | none => .error (.unknownTier settings.tier)
  | some tier => .ok (resultOf settings now root adapters tier scan)

def indexAt (registry : Registry) (site : Site) (settings : Settings) (room : Nat) (now : Moment)
    (root : Path) : Except Failure IndexResult := do
  if !(← (site.exists? root).mapError .os) then throw (.rootMissing root.toText)
  let adapters ← adaptersAt registry site settings root
  let scan ← ScanThreads.settle site root.toText (requestOf settings room adapters) >>=
    ScanThreads.Setting.sequential
  let scan ← (withSymbols room site root adapters scan).mapError .path
  resultAt settings now root adapters scan

theorem selectAdapters_gives (registry : Registry) (site : Site) (settings : Settings)
    (root : Path) : Gives (selectAdapters registry site settings root)
      (adaptersAt registry site settings root) := by
  unfold selectAdapters adaptersAt
  by_cases detected : settings.languages.isEmpty = true
  · rw [if_pos detected, if_pos detected]
    exact gives_checked _ _ _ _
  · rw [if_neg detected, if_neg detected]
    exact (gives_noteAll _).seq (gives_checked _ _ _ _)

theorem generateAt_gives (registry : Registry) (site : Site) (settings : Settings) (room : Nat)
    (now : Moment) (root : Path) : Gives (generateAt registry site settings room now root)
      (indexAt registry site settings room now root) := by
  unfold generateAt indexAt
  cases site.exists? root with
  | error error => exact (gives_ofOs_error error).stop _
  | ok present =>
      refine (gives_ofOs present).seq ?_
      cases present with
      | false => exact gives_refused _ _
      | true =>
          refine gives_passed ((gives_note _).seq ?_)
          have chosen := selectAdapters_gives registry site settings root
          cases found : adaptersAt registry site settings root with
          | error failure =>
              rw [found] at chosen
              exact chosen.stop _
          | ok adapters =>
              rw [found] at chosen
              refine chosen.seq ((gives_note _).seq ?_)
              have scanned :=
                ScanThreads.run_gives site root.toText (requestOf settings room adapters)
              change Gives _ ((ScanThreads.settle site root.toText
                (requestOf settings room adapters) >>= ScanThreads.Setting.sequential) >>=
                  fun scan => (withSymbols room site root adapters scan).mapError .path >>=
                    resultAt settings now root adapters)
              cases went : ScanThreads.settle site root.toText
                (requestOf settings room adapters) >>= ScanThreads.Setting.sequential with
              | error failure =>
                  rw [went] at scanned
                  exact scanned.stop _
              | ok scan =>
                  rw [went] at scanned
                  refine scanned.seq ?_
                  change Gives _ ((withSymbols room site root adapters scan).mapError .path >>= _)
                  unfold withSymbols
                  generalize SymbolReading.attach (room - 1) site root adapters scan.candidates =
                    read
                  obtain ⟨attached, notes⟩ := read
                  refine (gives_noteAll _).seq ?_
                  cases attached with
                  | error fault => exact (gives_ofPath_error fault).stop _
                  | ok candidates =>
                      refine (gives_ofPath _).seq ((gives_note _).seq ?_)
                      change Gives _ (resultAt settings now root adapters _)
                      unfold resultAt
                      cases Tier.ofLabel? settings.tier with
                      | none => exact gives_fail _
                      | some tier =>
                          dsimp only [resultOf]
                          generalize IndexFrame.render _ _ _ _ = content
                          generalize IndexFrame.renderSummary _ _ _ = summary
                          refine (gives_noteAll _).seq ((gives_noteAll _).seq
                            ((gives_note _).seq ?_))
                          exact gives_pure _

theorem generate_gives {site : Site} {settings : Settings} {root : Path}
    (rooted : rootOf site settings = .ok root) (registry : Registry) (room : Nat) (now : Moment) :
    Gives (generate registry site settings room now)
      (indexAt registry site settings room now root) := by
  unfold generate
  rw [rooted]
  exact (gives_ofPath root).seq (generateAt_gives registry site settings room now root)

/-- The calls that register an index, or why the run stops there. -/
def registered (settings : Settings) (outside : Surroundings) (index : Path) :
    Except Failure (List Collection.Call) :=
  match settings.collection with
  | none => .ok []
  | some collection =>
      let (result, trace) :=
        (Collection.register (some collection) outside.collector outside.program index).run.run {}
      match result with
      | .error (.fault reason) => .error (.outside reason)
      | _ => .ok trace.calls

theorem register_does (settings : Settings) (outside : Surroundings) (index : Path) (site : Site) :
    (register settings outside index).Does site (registered settings outside index) site := by
  unfold register registered
  cases settings.collection with
  | none => exact Act.does_pure _
  | some collection =>
      dsimp only
      generalize (Collection.register _ _ _ _).run.run {} = registration
      obtain ⟨result, trace⟩ := registration
      refine (Act.does_noteAll _).seq ?_
      cases result with
      | ok _ => exact Act.does_pure _
      | error failure =>
          cases failure with
          | fault reason => exact Act.does_fail _
          | notInstalled | creationLate | creation _ =>
              exact (Act.does_note _).seq (Act.does_pure _)

def writtenAt (site : Site) (path : Path) (bytes : Text.Bytes) : Except Failure Path :=
  match (Store.writeFile site path bytes).2 with
  | .error fault => .error (.ofWrite fault)
  | .ok () => .ok path

theorem write_does (settings : Settings) (site : Site) (root : Path) (entropy : Entropy)
    (content : String) (within : settings.store = "repo")
    (unset : settings.outputPath.getD "" = "") :
    ((storeOf site settings root).write entropy content).Does site
      (match (storeOf site settings root).payload entropy content with
        | .error failure => .error failure
        | .ok bytes => writtenAt site (indexPath settings root) bytes)
      (match (storeOf site settings root).payload entropy content with
        | .error _ => site
        | .ok bytes => (Store.writeFile site (indexPath settings root) bytes).1) := by
  unfold Store.write
  cases (storeOf site settings root).payload entropy content with
  | error failure => exact Act.does_fail failure
  | ok bytes =>
      refine Act.does_site.seq ?_
      rw [target_storeOf site root within unset]
      refine (Act.does_pure (indexPath settings root)).seq ?_
      dsimp only [writtenAt]
      cases Store.writeFile site (indexPath settings root) bytes with
      | mk after result =>
          refine (Act.does_setSite after).seq ?_
          cases result with
          | error fault => exact Act.does_fail _
          | ok done =>
              refine (Act.does_note _).seq ?_
              dsimp only
              rw [secondary_storeOf site after root within]
              exact (Act.does_pure []).seq ((Act.does_pure _).seq (Act.does_pure _))

/-- What a run answers, and the site that it leaves behind. -/
def runAt (registry : Registry) (settings : Settings) (outside : Surroundings) (site : Site) :
    Except Failure (IndexResult × List Collection.Call) × Site :=
  match rootOf site settings with
  | .error fault => (.error (.path fault), site)
  | .ok root =>
      let index := indexPath settings root
      match indexAt registry site settings (outside.room - 1) outside.now root with
      | .error failure => (.error failure, site)
      | .ok result =>
          match (storeOf site settings root).payload outside.entropy result.content with
          | .error failure => (.error failure, site)
          | .ok bytes =>
              ((do
                let written ← writtenAt site index bytes
                let calls ← registered settings outside written
                return ({ result with outputPath := some written.toText }, calls)),
                (Store.writeFile site index bytes).1)

theorem run_does (registry : Registry) {settings : Settings} (outside : Surroundings) (site : Site)
    (within : settings.store = "repo") (unset : settings.outputPath.getD "" = "") :
    (run registry settings outside).Does site (runAt registry settings outside site).1
      (runAt registry settings outside site).2 := by
  unfold run runAt
  refine Act.does_site.seq ?_
  cases rootOf site settings with
  | error fault => exact (Act.does_fail _).stop _
  | ok root =>
      refine (Act.does_pure root).seq ?_
      dsimp only
      have made : Act.Does _ site _ site := Act.does_ofNoted
        (generateAt_gives registry site settings (outside.room - 1) outside.now root)
      cases indexed : indexAt registry site settings (outside.room - 1) outside.now root with
      | error failure =>
          rw [indexed] at made
          exact made.stop _
      | ok result =>
          rw [indexed] at made
          refine made.seq ?_
          have known : (storeOf site settings root).isKnown = true := by
            rw [Store.isKnown, show (storeOf site settings root).location = "repo" from within]
            decide
          dsimp only
          rw [known, if_neg (by decide)]
          have wrote := write_does settings site root outside.entropy result.content within unset
          cases kept : (storeOf site settings root).payload outside.entropy result.content with
          | error failure =>
              rw [kept] at wrote
              exact wrote.stop _
          | ok bytes =>
              rw [kept] at wrote
              dsimp only at wrote ⊢
              cases done : writtenAt site (indexPath settings root) bytes with
              | error failure =>
                  rw [done] at wrote
                  exact wrote.stop _
              | ok written =>
                  rw [done] at wrote
                  refine wrote.seq ?_
                  have made := register_does settings outside written
                    (Store.writeFile site (indexPath settings root) bytes).1
                  change Act.Does _ _ (registered settings outside written >>= _) _
                  cases called : registered settings outside written with
                  | error failure =>
                      rw [called] at made
                      exact made.stop _
                  | ok calls =>
                      rw [called] at made
                      exact made.seq (Act.does_pure _)

end Indexing

end SourceAtlas
