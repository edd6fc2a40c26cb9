import SourceAtlas.Proofs.CountedText
import SourceAtlas.Proofs.IndexNames

/-!
A run after a run. The index that the first one has written is not read by the second, and leads
nowhere; but it is a file like others, so the second run counts it, where the first one has made it
and the ignore rules do not name it.
-/
namespace SourceAtlas

open Text

namespace Registry

theorem mem_put {adapter other : Adapter} {known : List Adapter}
    (member : other ∈ put adapter known) : other = adapter ∨ other ∈ known := by
  induction known with
  | nil => exact .inl (List.mem_singleton.mp member)
  | cons first rest ih =>
      unfold put at member
      split at member
      · rcases List.mem_cons.mp member with same | later
        · exact .inl same
        · exact .inr (List.mem_cons_of_mem _ later)
      · rcases List.mem_cons.mp member with same | later
        · exact .inr (same ▸ List.mem_cons_self)
        · exact (ih later).imp id (List.mem_cons_of_mem _)

theorem mem_select {registry : Registry} {requested : List String} {adapter : Adapter}
    (member : adapter ∈ (registry.select requested).1) : adapter ∈ registry.adapters := by
  have onward {found known : List Adapter}
      (chosen : adapter ∈ found.foldl (fun known adapter => put adapter known) known) :
      adapter ∈ found ∨ adapter ∈ known := by
    induction found generalizing known with
    | nil => exact .inr chosen
    | cons first rest ih =>
        rcases ih chosen with later | earlier
        · exact .inl (List.mem_cons_of_mem _ later)
        · rcases mem_put earlier with same | before
          · exact .inl (same ▸ List.mem_cons_self)
          · exact .inr before
  have listed := List.mem_mergeSort.mp member
  obtain ⟨name, _, found⟩ := List.mem_filterMap.mp
    ((onward listed).resolve_right List.not_mem_nil)
  exact List.mem_of_find?_eq_some found

theorem mem_detect {registry : Registry} {site : Site} {root : Path} {adapter : Adapter}
    (member : adapter ∈ registry.detect site root) : adapter ∈ registry.adapters :=
  (List.mem_filter.mp (List.mem_mergeSort.mp member)).1

end Registry

namespace Indexing
open ScanThreads

theorem mem_adaptersAt {registry : Registry} {site : Site} {settings : Settings} {root : Path}
    {adapters : List Adapter} (chosen : adaptersAt registry site settings root = .ok adapters)
    {adapter : Adapter} (member : adapter ∈ adapters) : adapter ∈ registry.adapters := by
  unfold adaptersAt at chosen
  dsimp only at chosen
  split at chosen <;> split at chosen
  · cases chosen
  · exact Registry.mem_detect (Except.ok.inj chosen ▸ member)
  · cases chosen
  · exact Registry.mem_select (Except.ok.inj chosen ▸ member)

/-- Only the walk of a scan can come across the index of a place: neither the index nor its
directory is a link, no link names what the run makes, and no adapter does. -/
structure Secluded (registry : Registry) (site : Site) (settings : Settings) (place : Place) :
    Prop where
  proper : site.root.Proper
  real : ∃ entries, site.root.get? place = some (.directory entries)
  directory : ∀ target, site.root.get? (place ++ [Store.directoryName]) ≠ some (.link target)
  file : ∀ target, site.root.get?
    (place ++ [Store.directoryName, indexName settings (.ofPlace place)]) ≠ some (.link target)
  links : ∀ other target, site.root.get? other = some (.link target) →
    newName site place Store.directoryName (indexName settings (.ofPlace place)) ∉
      (Path.ofText target).names
  adapters : ∀ adapter ∈ registry.adapters,
    adapter.Leaves (indexName settings (.ofPlace place))

theorem newName_cases (site : Site) (place : Place) (directory name : String) :
    newName site place directory name = name ∨ newName site place directory name = directory := by
  unfold newName
  split
  · exact .inl rfl
  · exact .inr rfl

section After

variable {registry : Registry} {site : Site} {settings : Settings} {place : Place}
  (written : Written site place Store.directoryName (indexName settings (.ofPlace place)))

theorem unread_indexName (leaves : ∀ adapter ∈ registry.adapters,
      adapter.Leaves (indexName settings (.ofPlace place))) (room : Nat) {adapters : List Adapter}
    (chosen : adaptersAt registry site settings (.ofPlace place) = .ok adapters) :
    (walkAt site place (requestOf settings room adapters)).rules.isEligible
      (indexName settings (.ofPlace place)) = false := by
  rw [walkAt, ScanRules.isEligible_compile, List.any_eq_false]
  intro adapter member
  have known := mem_adaptersAt chosen (List.mem_mergeSort.mp member)
  rw [(leaves adapter known).untaken]
  exact Bool.false_ne_true

theorem adaptersAt_after (secluded : Secluded registry site settings place)
    (fits : Fits (.ofPlace place))
    (last : written.last =
      newName site place Store.directoryName (indexName settings (.ofPlace place))) :
    adaptersAt registry written.after settings (.ofPlace place) =
      adaptersAt registry site settings (.ofPlace place) := by
  have detected : registry.detect written.after (.ofPlace place) =
      registry.detect site (.ofPlace place) := by
    refine written.detect_eq secluded.proper fits (by decide) fun adapter known file own => ?_
    have leaves := (secluded.adapters adapter known).undetected file own
    rw [last]
    rcases newName_cases site place Store.directoryName (indexName settings (.ofPlace place)) with
      same | same <;> rw [same]
    · exact leaves.2
    · exact leaves.1
  unfold adaptersAt
  rw [detected]

theorem indexAt_eq {site : Site} {root : Path} (there : site.exists? root = .ok true)
    (room : Nat) (now : Moment) :
    indexAt registry site settings room now root =
      (adaptersAt registry site settings root >>= fun adapters =>
        (settle site root.toText (requestOf settings room adapters) >>= Setting.sequential) >>=
          fun scan => (withSymbols room site root adapters scan).mapError .path >>=
            resultAt settings now root adapters) := by
  unfold indexAt
  rw [there]
  rfl

theorem indexAt_of_absent {site : Site} {root : Path} (absent : site.exists? root ≠ .ok true)
    (room : Nat) (now : Moment) :
    indexAt registry site settings room now root =
      ((site.exists? root).mapError .os >>= fun _ => .error (.rootMissing root.toText)) := by
  unfold indexAt
  cases present : site.exists? root with
  | error error => rfl
  | ok stands =>
      cases stands with
      | false => rfl
      | true => exact absurd present absent

theorem exists_of_indexed {root : Path} {room : Nat} {now : Moment} {made : IndexResult}
    (indexed : indexAt registry site settings room now root = .ok made) :
    site.exists? root = .ok true := by
  unfold indexAt at indexed
  obtain ⟨there, found, indexed⟩ := exists_of_bind indexed
  cases there with
  | false => cases indexed
  | true =>
      cases asked : site.exists? root with
      | error error =>
          rw [asked] at found
          cases found
      | ok present =>
          rw [asked] at found
          exact congrArg Except.ok (Except.ok.inj found)

theorem exists_of_indexAt {root : Path} (there : site.exists? root = .ok true) {room : Nat}
    {now : Moment} {result : IndexResult}
    (made : indexAt registry site settings room now root = .ok result) :
    ∃ adapters tier scan full, adaptersAt registry site settings root = .ok adapters ∧
      Tier.ofLabel? settings.tier = some tier ∧
      (settle site root.toText (requestOf settings room adapters) >>= Setting.sequential) =
        .ok scan ∧
      withSymbols room site root adapters scan = .ok full ∧
      result = resultOf settings now root adapters tier full := by
  rw [indexAt_eq there] at made
  obtain ⟨adapters, chosen, made⟩ := exists_of_bind made
  obtain ⟨scan, scanned, made⟩ := exists_of_bind made
  obtain ⟨full, attached, made⟩ := exists_of_bind made
  cases symbols : withSymbols room site root adapters scan with
  | error fault =>
      rw [symbols] at attached
      cases attached
  | ok other =>
      rw [symbols] at attached
      cases attached
      unfold resultAt at made
      cases labelled : Tier.ofLabel? settings.tier with
      | none =>
          rw [labelled] at made
          cases made
      | some tier =>
          rw [labelled] at made
          exact ⟨adapters, tier, scan, full, chosen, rfl, scanned, symbols,
            (Except.ok.inj made).symm⟩

theorem indexAt_after (secluded : Secluded registry site settings place)
    (fits : Fits (.ofPlace place))
    (last : written.last =
      newName site place Store.directoryName (indexName settings (.ofPlace place)))
    (room : Nat) (now : Moment) {adapters : List Adapter} {tier : Tier} {scan full : ScanResult}
    (chosen : adaptersAt registry site settings (.ofPlace place) = .ok adapters)
    (labelled : Tier.ofLabel? settings.tier = some tier)
    (scanned : (settle site (Path.ofPlace place).toText (requestOf settings room adapters) >>=
      Setting.sequential) = .ok scan)
    (attached : withSymbols room site (.ofPlace place) adapters scan = .ok full) :
    (∃ total : Nat, full.totalFiles = total) ∧
    ∃ again, indexAt registry written.after settings room now (.ofPlace place) =
        .ok (resultOf settings now (.ofPlace place) adapters tier again) ∧
      full.Widens
        ((walkAt site place (requestOf settings room adapters)).added Store.directoryName
          (indexName settings (.ofPlace place)) (site.root.get?
            (place ++ [Store.directoryName, indexName settings (.ofPlace place)]))) again := by
  have down : ".." ∉ place := (secluded.proper.of_get? written.found).1.down
  have there : written.after.exists? (.ofPlace place) = .ok true :=
    Site.exists_directory fits down written.there
  have unread := unread_indexName secluded.adapters room chosen
  have other : written.last ≠ ".gitignore" := by
    rw [last]
    rcases newName_cases site place Store.directoryName (indexName settings (.ofPlace place)) with
      same | same <;> rw [same]
    · exact indexName_ne settings _ (by decide) (by decide)
    · decide
  obtain ⟨listed, ⟨total, counted⟩, again, rescanned, widens⟩ :=
    rescan written secluded.proper fits other unread scanned
  have symbols := attach_after written secluded.proper unread listed (room - 1) adapters
  rw [withSymbols] at attached
  cases read : (SymbolReading.attach (room - 1) site (.ofPlace place) adapters
      scan.candidates).1 with
  | error fault =>
      rw [read] at attached
      cases attached
  | ok candidates =>
      rw [read] at attached
      cases attached
      refine ⟨⟨total, counted⟩, { again with candidates := candidates }, ?_, ?_⟩
      · rw [indexAt_eq there, adaptersAt_after written secluded fits last, chosen]
        change ((settle written.after _ _ >>= Setting.sequential) >>= _) = _
        rw [rescanned]
        change ((withSymbols room written.after _ adapters again).mapError Failure.path >>= _) = _
        rw [withSymbols, widens.candidates, symbols, read]
        change resultAt settings now _ adapters _ = _
        rw [resultAt, labelled]
      · exact {
          files := widens.files
          candidates := rfl
          tree := widens.tree
          others := widens.others
          total := widens.total
          elapsed := widens.elapsed }

end After

def keptAt (index : Path) (result : IndexResult) : IndexResult :=
  { result with outputPath := some index.toText }

section Runs

variable {registry : Registry} {site : Site} {settings : Settings} {outside : Surroundings}

theorem exists_of_runAt {root : Path} (rooted : rootOf site settings = .ok root)
    {result : IndexResult} {calls : List Collection.Call}
    (ran : (runAt registry settings outside site).1 = .ok (result, calls)) :
    ∃ made bytes, indexAt registry site settings (outside.room - 1) outside.now root = .ok made ∧
      (storeOf site settings root).payload outside.entropy made.content = .ok bytes ∧
      (Store.writeFile site (indexPath settings root) bytes).2 = .ok () ∧
      (runAt registry settings outside site).2 =
        (Store.writeFile site (indexPath settings root) bytes).1 ∧
      registered settings outside (indexPath settings root) = .ok calls ∧
      result = keptAt (indexPath settings root) made := by
  unfold runAt at ran ⊢
  rw [rooted] at ran ⊢
  dsimp only at ran ⊢
  cases indexed : indexAt registry site settings (outside.room - 1) outside.now root with
  | error failure =>
      rw [indexed] at ran
      cases ran
  | ok made =>
      rw [indexed] at ran
      dsimp only at ran ⊢
      cases kept : (storeOf site settings root).payload outside.entropy made.content with
      | error failure =>
          rw [kept] at ran
          cases ran
      | ok bytes =>
          rw [kept] at ran
          dsimp only at ran ⊢
          obtain ⟨written, wrote, ran⟩ := exists_of_bind ran
          obtain ⟨called, calling, ran⟩ := exists_of_bind ran
          unfold writtenAt at wrote
          split at wrote
          · cases wrote
          next done =>
            cases wrote
            cases ran
            exact ⟨made, bytes, rfl, kept, done, rfl, calling, rfl⟩

theorem runAt_eq {root : Path} (rooted : rootOf site settings = .ok root) {made : IndexResult}
    {bytes : Bytes} {calls : List Collection.Call}
    (indexed : indexAt registry site settings (outside.room - 1) outside.now root = .ok made)
    (kept : (storeOf site settings root).payload outside.entropy made.content = .ok bytes)
    (wrote : (Store.writeFile site (indexPath settings root) bytes).2 = .ok ())
    (calling : registered settings outside (indexPath settings root) = .ok calls) :
    (runAt registry settings outside site).1 =
      .ok (keptAt (indexPath settings root) made, calls) := by
  unfold runAt
  simp only [rooted, indexed, kept, writtenAt, wrote]
  change (registered settings outside (indexPath settings root) >>= _) = _
  rw [calling]
  rfl

theorem exists_payload {store : Store} {entropy : Entropy} {content : String} {bytes : Bytes}
    (kept : store.payload entropy content = .ok bytes) (other : String) :
    ∃ more, store.payload entropy other = .ok more := by
  unfold Store.payload Envelope.sealText at kept ⊢
  split at kept
  next plain =>
    rw [if_pos plain]
    exact ⟨_, rfl⟩
  next sealed =>
    rw [if_neg sealed]
    cases given : store.key.filter (!·.isEmpty) with
    | none =>
        rw [given] at kept
        cases kept
    | some key =>
        simp only [given] at kept ⊢
        by_cases blank : key.isEmpty = true
        · rw [if_pos blank] at kept
          cases kept
        · rw [if_neg blank] at kept ⊢
          cases stretched : Envelope.keyOf key entropy.salt with
          | error fault =>
              rw [stretched] at kept
              cases kept
          | ok bytes => exact ⟨_, rfl⟩

variable {place : Place}

theorem indexPath_ofPlace (settings : Settings) (place : Place) :
    indexPath settings (.ofPlace place) = .ofPlace
      (place ++ [Store.directoryName] ++ [indexName settings (.ofPlace place)]) := by
  rw [List.append_assoc]
  rfl

theorem exists_written_index (secluded : Secluded registry site settings place) {bytes : Bytes}
    (wrote : (Store.writeFile site (indexPath settings (.ofPlace place)) bytes).2 = .ok ()) :
    Fits (indexPath settings (.ofPlace place)) ∧
    ∃ written : Written site place Store.directoryName (indexName settings (.ofPlace place)),
      written.last =
        newName site place Store.directoryName (indexName settings (.ofPlace place)) ∧
      (Store.writeFile site (indexPath settings (.ofPlace place)) bytes).1 = written.after ∧
      site.writing (place ++ [Store.directoryName] ++ [indexName settings (.ofPlace place)]) =
        .whole := by
  have named := properName_indexName settings (.ofPlace place)
  obtain ⟨entries, found⟩ := secluded.real
  rw [indexPath_ofPlace] at wrote ⊢
  have whole : Store.writeFile site (.ofPlace (place ++ [Store.directoryName] ++
      [indexName settings (.ofPlace place)])) bytes = (_, .ok ()) := Prod.ext rfl wrote
  have fits := fits_of_writeFile whole
  have down : ".." ∉ place ++ [Store.directoryName] ++ [indexName settings (.ofPlace place)] :=
    (((secluded.proper.of_get? found).1.snoc properName_directoryName).snoc named).down
  have real : ∀ item, site.root.get? (place ++ [Store.directoryName]) = some item →
      ∃ listed, item = .directory listed := by
    intro item stands
    have inside := (Item.get?_snoc found Store.directoryName).symm.trans stands
    refine Site.directory_of_writeFile fits down found whole inside fun target same => ?_
    exact secluded.directory target (same ▸ stands)
  have free : ∀ item, site.root.get?
      (place ++ [Store.directoryName, indexName settings (.ofPlace place)]) = some item →
        ∃ content, item = .file content := by
    intro item stands
    have parts : place ++ [Store.directoryName, indexName settings (.ofPlace place)] =
      place ++ [Store.directoryName] ++ [indexName settings (.ofPlace place)] := by simp
    have below := stands
    rw [parts, Item.get?_append] at below
    obtain ⟨directory, above, last⟩ := Option.bind_eq_some_iff.mp below
    obtain ⟨listed, rfl⟩ := real directory above
    have inside : listed.lookup (indexName settings (.ofPlace place)) = some item := by
      rw [← Item.get?_snoc above, ← parts]
      exact stands
    refine Site.file_of_writeFile fits down above whole inside fun target same => ?_
    exact secluded.file target (same ▸ stands)
  have could : (site.root.get? (place ++ [Store.directoryName]) = none →
      ∀ fault, site.writing (place ++ [Store.directoryName]) ≠ .refused fault) ∧
        site.writing (place ++ [Store.directoryName] ++ [indexName settings (.ofPlace place)]) =
          .whole := by
    have stands := Item.get?_snoc found Store.directoryName
    cases inside : entries.lookup Store.directoryName with
    | none =>
        obtain ⟨open', file⟩ := Site.open_of_writeFile fits down found inside whole
        exact ⟨fun _ => open', file⟩
    | some item =>
        obtain ⟨listed, rfl⟩ := real item (stands.trans inside)
        have directory := stands.trans inside
        refine ⟨fun absent => ?_, ?_⟩
        · cases absent.symm.trans directory
        · refine Site.whole_of_writeFile fits down directory (fun item there => ?_) whole
          refine free item ?_
          rw [← there, ← Item.get?_snoc directory, List.append_assoc]
          rfl
  obtain ⟨written, last, result⟩ := Written.exists_written bytes secluded.proper fits
    properName_directoryName named found real free secluded.links could.1 could.2
  refine ⟨fits, written, last, ?_, could.2⟩
  rw [result]
  rfl

theorem writeFile_again {directory name : String} (written : Written site place directory name)
    (fits : Fits (.ofPlace (place ++ [directory] ++ [name])))
    (down : ".." ∉ place ++ [directory] ++ [name])
    (whole : site.writing (place ++ [directory] ++ [name]) = .whole) (bytes : Bytes) :
    (Store.writeFile written.after (.ofPlace (place ++ [directory] ++ [name])) bytes).2 =
      .ok () := by
  obtain ⟨listed, content, same, inside⟩ := written.holds
  have stands : written.after.root.get? (place ++ [directory]) = some (.directory listed) :=
    (Item.get?_snoc written.there directory).trans
      ((Item.lookup_putEntry_self directory _ _).trans (congrArg some same))
  rw [Site.writeFile_present fits down stands (fun item there => ?_) whole]
  rw [inside] at there
  exact ⟨content, (Option.some.inj there).symm⟩

theorem rootOf_after {directory name : String} (written : Written site place directory name)
    (proper : site.root.Proper) (rooted : rootOf site settings = .ok (.ofPlace place)) :
    rootOf written.after settings = .ok (.ofPlace place) := by
  unfold rootOf at rooted ⊢
  obtain ⟨path, expanded, resolved⟩ := exists_of_bind rooted
  have home : written.after.expandHome settings.root = .ok path := expanded
  rw [home]
  exact written.links.resolve_eq resolved (written.agree_root proper)

/-- The walk of the scan that a run makes, which goes the same way however many calls are left. -/
def walkOf (registry : Registry) (site : Site) (settings : Settings) (place : Place) : Walk :=
  walkAt site place
    (requestOf settings 0 ((adaptersAt registry site settings (.ofPlace place)).toOption.getD []))

def addedIndex (registry : Registry) (site : Site) (settings : Settings) (place : Place) :
    List String :=
  (walkOf registry site settings place).added Store.directoryName
    (indexName settings (.ofPlace place))
    (site.root.get? (place ++ [Store.directoryName, indexName settings (.ofPlace place)]))

theorem runAt_again (secluded : Secluded registry site settings place)
    (rooted : rootOf site settings = .ok (.ofPlace place)) {result : IndexResult}
    {calls : List Collection.Call}
    (ran : (runAt registry settings outside site).1 = .ok (result, calls)) :
    ∃ (adapters : List Adapter) (tier : Tier) (scan again : ScanResult),
      Tier.ofLabel? settings.tier = some tier ∧ (∃ total : Nat, scan.totalFiles = total) ∧
      scan.Widens (addedIndex registry site settings place) again ∧
      result = keptAt (indexPath settings (.ofPlace place))
        (resultOf settings outside.now (.ofPlace place) adapters tier scan) ∧
      (runAt registry settings outside (runAt registry settings outside site).2).1 =
        .ok (keptAt (indexPath settings (.ofPlace place))
          (resultOf settings outside.now (.ofPlace place) adapters tier again), calls) := by
  obtain ⟨made, bytes, indexed, kept, wrote, left, calling, rfl⟩ := exists_of_runAt rooted ran
  obtain ⟨fits, written, last, tree, whole⟩ := exists_written_index secluded wrote
  have named := properName_indexName settings (.ofPlace place)
  have names := (secluded.proper.of_get? written.found).1
  have down : ".." ∉ place ++ [Store.directoryName] ++ [indexName settings (.ofPlace place)] :=
    ((names.snoc properName_directoryName).snoc named).down
  rw [indexPath_ofPlace] at fits
  have above : Fits (.ofPlace place) := fits.above.above
  have there : site.exists? (.ofPlace place) = .ok true :=
    Site.exists_directory above names.down written.found
  obtain ⟨adapters, tier, scan, full, chosen, labelled, scanned, attached, rfl⟩ :=
    exists_of_indexAt there indexed
  obtain ⟨counted, again, reindexed, widens⟩ := indexAt_after written secluded above last
    (outside.room - 1) outside.now chosen labelled scanned attached
  obtain ⟨more, kept⟩ := exists_payload kept
    (resultOf settings outside.now (.ofPlace place) adapters tier again).content
  have walk : walkOf registry site settings place =
      walkAt site place (requestOf settings (outside.room - 1) adapters) := by
    rw [walkOf, chosen]
    rfl
  refine ⟨adapters, tier, full, again, labelled, counted, ?_, rfl, ?_⟩
  · rw [addedIndex, walk]
    exact widens
  · rw [left, tree]
    refine runAt_eq (rootOf_after written secluded.proper rooted) reindexed kept ?_ calling
    rw [indexPath_ofPlace]
    exact writeFile_again written fits down whole more

end Runs

structure CountsIndex (registry : Registry) (site : Site) (settings : Settings) (place : Place) :
    Prop where
  absent : site.root.get?
    (place ++ [Store.directoryName, indexName settings (.ofPlace place)]) = none
  counted : (walkOf registry site settings place).Counts Store.directoryName
    (indexName settings (.ofPlace place))

end Indexing

/-- Whether an index shows the number of files; one that is cut off before it does not. -/
def IndexResult.showsCount (result : IndexResult) : Bool :=
  startsWith result.content (IndexFrame.countFront ⟨result.repository, result.languages, 0⟩
    ((Tier.ofLabel? result.tier).getD .structured) result.totalFiles)

namespace Indexing
open ScanThreads

variable {registry : Registry} {site : Site} {settings : Settings} {place : Place}

theorem addedIndex_of_counts (counts : CountsIndex registry site settings place) :
    addedIndex registry site settings place = [indexEntry settings (.ofPlace place)] :=
  if_pos ⟨by rw [counts.absent]; rfl, counts.counted⟩

theorem addedIndex_of_not_counts (not : ¬CountsIndex registry site settings place) :
    addedIndex registry site settings place = [] :=
  if_neg fun both => not ⟨Option.isNone_iff_eq_none.mp both.1, both.2⟩

theorem showsCount_iff {now : Moment} {index root : Path} {adapters : List Adapter} {tier : Tier}
    (labelled : Tier.ofLabel? settings.tier = some tier) (scan : ScanResult) :
    (keptAt index (resultOf settings now root adapters tier scan)).showsCount = true ↔
      (IndexFrame.countFront ⟨repositoryOf root, adapters.map (·.name), settings.maxOutputKb⟩ tier
        scan.totalFiles).toList <+:
          (resultOf settings now root adapters tier scan).content.toList := by
  have tier_eq : (keptAt index (resultOf settings now root adapters tier scan)).tier =
    settings.tier := rfl
  unfold IndexResult.showsCount startsWith
  rw [dropFront?_isSome_iff, tier_eq, labelled]
  rfl

theorem showsCount_of_fits (now : Moment) (index root : Path) (adapters : List Adapter)
    {tier : Tier} (labelled : Tier.ofLabel? settings.tier = some tier) (scan : ScanResult)
    {total : Nat} (counted : scan.totalFiles = total)
    (fits : Truncation.lineBytes
      (IndexFrame.frontPieces
          ⟨repositoryOf root, adapters.map (·.name), settings.maxOutputKb⟩ tier ++
        [Section.countLine total scan.candidates.length]) ≤
      Truncation.room (IndexFrame.limitOf
        ⟨repositoryOf root, adapters.map (·.name), settings.maxOutputKb⟩ tier)) :
    (keptAt index (resultOf settings now root adapters tier scan)).showsCount = true := by
  rw [showsCount_iff labelled, counted]
  exact IndexFrame.countFront_of_fits _ now counted fits

theorem content_eq_iff (now : Moment) (root : Path) (adapters : List Adapter) (tier : Tier)
    {scan again : ScanResult} {total : Nat} (counted : scan.totalFiles = total)
    (widens : scan.Widens (addedIndex registry site settings place) again) :
    (resultOf settings now root adapters tier again).content =
        (resultOf settings now root adapters tier scan).content ↔
      ¬(CountsIndex registry site settings place ∧
        (IndexFrame.countFront ⟨repositoryOf root, adapters.map (·.name), settings.maxOutputKb⟩ tier
          scan.totalFiles).toList <+:
            (resultOf settings now root adapters tier scan).content.toList) := by
  let frame : IndexFrame := ⟨repositoryOf root, adapters.map (·.name), settings.maxOutputKb⟩
  have content (scan : ScanResult) : (resultOf settings now root adapters tier scan).content =
    (frame.render scan tier now).1 := rfl
  have idle := isOperational_indexEntry settings (.ofPlace place)
  have untested := isTestFile_indexEntry settings (.ofPlace place)
  rw [content, content]
  by_cases counts : CountsIndex registry site settings place
  · rw [addedIndex_of_counts counts] at widens
    have same := frame.render_eq_iff widens (List.cons_ne_nil _ _)
      (List.forall_mem_singleton.mpr idle) (List.forall_mem_singleton.mpr untested) now tier counted
    rw [same, not_and, imp_iff_right counts]
  · rw [addedIndex_of_not_counts counts] at widens
    have back := frame.backLines_eq widens (by simp) (by simp) now tier
    have total : again.totalFiles = scan.totalFiles := by
      rw [widens.total]
      simp
    refine iff_of_true ?_ fun both => counts both.1
    rw [IndexFrame.render_eq, IndexFrame.render_eq, IndexFrame.allLines_eq, IndexFrame.allLines_eq,
      back, total, widens.candidates]

/-- After a run into the directory itself another run succeeds as well. It gives the same index
unless the index that the first one has made is counted as one more file and the count is shown; and
then it does not. -/
theorem second_run_same_iff {outside : Surroundings} {first : IndexResult}
    {calls : List Collection.Call} (within : settings.store = "repo")
    (unset : settings.outputPath.getD "" = "")
    (rooted : rootOf site settings = .ok (.ofPlace place))
    (secluded : Secluded registry site settings place)
    (ran : ((run registry settings outside).outcome site).1 = .ok (first, calls)) :
    ∃ second,
      ((run registry settings outside).outcome
        ((run registry settings outside).outcome site).2.site).1 = .ok (second, calls) ∧
      (CountsIndex registry site settings place → second.totalFiles = first.totalFiles + 1) ∧
      (second.content = first.content → second.contentHash = first.contentHash) ∧
      (second.content = first.content ↔
        ¬(CountsIndex registry site settings place ∧ first.showsCount = true)) := by
  have before := (run_does registry outside site within unset).outcome
  rw [before.1] at ran
  rw [before.2, (run_does registry outside _ within unset).outcome.1]
  obtain ⟨adapters, tier, scan, again, labelled, ⟨total, counted⟩, widens, rfl, reran⟩ :=
    runAt_again secluded rooted ran
  have same := content_eq_iff outside.now (.ofPlace place) adapters tier counted widens
  refine ⟨_, reran, fun counts => ?_, fun equal => ?_, ?_⟩
  · have more := widens.total
    rw [addedIndex_of_counts counts] at more
    change again.totalFiles = scan.totalFiles + 1
    rw [more]
    exact Int.add_comm _ _
  · exact congrArg (fun text => Digest.contentHash settings.hashAlgorithm (Utf8.encode text)) equal
  · rw [showsCount_iff labelled]
    exact same

def notesSite : Site where
  root := .directory [("repo", .directory [("notes.txt", .file [104, 105])])]

def notesSettings : Settings where
  root := ⟨"/", ["repo"]⟩
  languages := ["go"]

def notesRequest : ScanRequest := requestOf notesSettings 990 [Profiles.go]

def notesOutside : Surroundings where
  room := 991
  now := ⟨2024, 1, 1, 0, 0, 0, none⟩
  entropy := ⟨[], []⟩

theorem notesSite_found : notesSite.root.get? ["repo"] =
    some (.directory [("notes.txt", .file [104, 105])]) := rfl

theorem notesSite_proper : notesSite.root.Proper :=
  .single ⟨by decide, by decide, by decide, by decide⟩
    (.single ⟨by decide, by decide, by decide, by decide⟩ (.file _))

theorem notesSite_indexName : indexName notesSettings (.ofPlace ["repo"]) = "repo_INDEX.md" := by
  decide

theorem notesSite_fits : Fits (.ofPlace
    (["repo"] ++ [Store.directoryName] ++ [indexName notesSettings (.ofPlace ["repo"])])) := by
  rw [notesSite_indexName]
  exact ⟨by decide, by decide, by decide⟩

theorem adaptersAt_go {settings : Settings}
    (asked : settings.languages.map Registry.requestKey = ["go"]) (site : Site) (root : Path) :
    adaptersAt Registry.standard site settings root = .ok [Profiles.go] := by
  have found : Registry.standard.get? "go" = some Profiles.go := rfl
  have named : ¬settings.languages.isEmpty = true := by
    rw [← List.isEmpty_map (f := Registry.requestKey), asked]
    exact Bool.false_ne_true
  have selected : (Registry.standard.select settings.languages).1 = [Profiles.go] := by
    have keys : settings.languages.filterMap
        (fun name => Registry.standard.get? (Registry.requestKey name)) = [Profiles.go] := by
      rw [← Function.comp_def, ← List.filterMap_map, asked, List.filterMap_cons, found]
      rfl
    unfold Registry.select
    dsimp only
    rw [keys]
    exact List.mergeSort_singleton _
  unfold adaptersAt
  rw [if_neg named, selected]
  rfl

theorem notesSettings_adapters (site : Site) (root : Path) :
    adaptersAt Registry.standard site notesSettings root = .ok [Profiles.go] :=
  adaptersAt_go (by decide) site root

theorem notesSettings_rules {site : Site} {entries : List (String × Item)}
    (found : site.root.get? ["repo"] = some (.directory entries))
    (absent : entries.lookup ".gitignore" = none) :
    (walkAt site ["repo"] notesRequest).rules = .compile [Profiles.go] [] [] := by
  have unread : site.read (.ofPlace (["repo"] ++ [".gitignore"])) =
      .error ⟨.missing, (Path.ofPlace (["repo"] ++ [".gitignore"])).toText⟩ :=
    Site.read_absent ⟨by decide, by decide, by decide⟩ (by decide) found absent
  have ignored : (Scan.ignoreFile site (.ofPlace ["repo"])).1 = [] := by
    have path : (Path.ofPlace ["repo"]).child ".gitignore" =
      .ofPlace (["repo"] ++ [".gitignore"]) := rfl
    unfold Scan.ignoreFile
    dsimp only
    rw [path, unread]
    rfl
  have sorted : byName notesRequest.adapters = [Profiles.go] := List.mergeSort_singleton _
  unfold walkAt
  rw [ignored, sorted]
  rfl

theorem notesSite_rules :
    (walkAt notesSite ["repo"] notesRequest).rules = .compile [Profiles.go] [] [] :=
  notesSettings_rules notesSite_found rfl

theorem notesSite_walk : (walkAt notesSite ["repo"] notesRequest).all
    [("notes.txt", .file [104, 105])] = { others := ["notes.txt"], totalFiles := 1 } := by
  have kept : (walkAt notesSite ["repo"] notesRequest).rules.ignoresFile "notes.txt" = false := by
    rw [notesSite_rules]
    decide
  have other : (walkAt notesSite ["repo"] notesRequest).rules.isEligible "notes.txt" = false := by
    rw [notesSite_rules]
    decide
  rw [Walk.all, Walk.entries_eq_map, List.map_singleton, Walk.childPath_root, Walk.item,
    Walk.fileFindings, kept, other, Findings.gather, List.mergeSort_singleton]
  rfl

theorem notesSite_scan : ∃ scan : ScanResult,
    (settle notesSite (Path.ofPlace ["repo"]).toText notesRequest >>= Setting.sequential) =
      .ok scan ∧ scan.totalFiles = 1 ∧ scan.candidates = [] := by
  have fits : Fits (.ofPlace ["repo"]) := notesSite_fits.above.above
  have listed : notesSite.list (.ofPlace ["repo"]) = .ok [("notes.txt", .file [104, 105])] :=
    (Site.list_directory fits (by decide) notesSite_found).trans (if_neg (by decide))
  rw [settle_directory (notesSite_proper.of_get? notesSite_found).1 fits notesSite_found, listed]
  change ∃ scan, Setting.sequential ⟨_, _, .ok _⟩ = _ ∧ _
  have findings : Setting.findings ⟨notesRequest, walkAt notesSite ["repo"] notesRequest,
      .ok [("notes.txt", .file [104, 105])]⟩ = { others := ["notes.txt"], totalFiles := 1 } :=
    notesSite_walk
  have shallow : Setting.Shallow ⟨notesRequest, walkAt notesSite ["repo"] notesRequest,
      .ok [("notes.txt", .file [104, 105])]⟩ := by
    rw [Setting.Shallow, findings]
    decide
  rw [Setting.sequential_listed rfl shallow, Setting.result, findings]
  refine ⟨_, rfl, rfl, ?_⟩
  simp [Scan.assemble, Scan.processAll, selectCandidates, rank]

theorem notesSite_secluded : Secluded Registry.standard notesSite notesSettings ["repo"] where
  proper := notesSite_proper
  real := ⟨_, notesSite_found⟩
  directory target found := by cases found
  file target found := by
    rw [notesSite_indexName] at found
    cases found
  links other target found := by
    have linkless : notesSite.root.Linkless :=
      Item.linkless_directory (List.forall_mem_singleton.mpr (Item.linkless_single _ _))
    exact absurd found (linkless other target)
  adapters := standard_leaves notesSettings (.ofPlace ["repo"])

theorem notesSite_counts : CountsIndex Registry.standard notesSite notesSettings ["repo"] where
  absent := by
    rw [notesSite_indexName]
    rfl
  counted := by
    rw [walkOf, notesSettings_adapters, notesSite_indexName]
    change (walkAt notesSite ["repo"] notesRequest).Counts _ _
    refine ⟨?_, rfl, ?_⟩ <;> rw [notesSite_rules] <;> decide

theorem notesSite_rooted : rootOf notesSite notesSettings = .ok (.ofPlace ["repo"]) :=
  Site.resolve_directory notesSite_fits.above.above (by decide) notesSite_found

theorem notesSettings_indexed {site : Site} {entries : List (String × Item)}
    (found : site.root.get? ["repo"] = some (.directory entries)) {scan : ScanResult}
    (scanned : (settle site (Path.ofPlace ["repo"]).toText notesRequest >>= Setting.sequential) =
      .ok scan) {full : ScanResult}
    (attached : withSymbols 990 site (.ofPlace ["repo"]) [Profiles.go] scan = .ok full) :
    indexAt Registry.standard site notesSettings 990 notesOutside.now (.ofPlace ["repo"]) =
      .ok (resultOf notesSettings notesOutside.now (.ofPlace ["repo"]) [Profiles.go] .structured
        full) := by
  have there : site.exists? (.ofPlace ["repo"]) = .ok true :=
    Site.exists_directory notesSite_fits.above.above (by decide) found
  rw [indexAt_eq there, notesSettings_adapters]
  change ((settle _ _ notesRequest >>= Setting.sequential) >>= _) = _
  rw [scanned]
  change ((withSymbols 990 site (.ofPlace ["repo"]) [Profiles.go] scan).mapError _ >>= _) = _
  rw [attached]
  rfl

theorem notesSite_run : ∃ first,
    ((run Registry.standard notesSettings notesOutside).outcome notesSite).1 = .ok (first, []) ∧
      first.showsCount = true := by
  obtain ⟨scan, scanned, counted, none⟩ := notesSite_scan
  let full := { scan with candidates := [] }
  have attached : withSymbols 990 notesSite (.ofPlace ["repo"]) [Profiles.go] scan = .ok full := by
    rw [withSymbols, none]
    rfl
  let made := resultOf notesSettings notesOutside.now (.ofPlace ["repo"]) [Profiles.go]
    .structured full
  have indexed : indexAt Registry.standard notesSite notesSettings 990 notesOutside.now
      (.ofPlace ["repo"]) = .ok made := notesSettings_indexed notesSite_found scanned attached
  have wrote : (Store.writeFile notesSite (indexPath notesSettings (.ofPlace ["repo"]))
      (Utf8.encode made.content)).2 = .ok () := by
    rw [indexPath_ofPlace, Site.writeFile_absent notesSite_fits
      (by rw [notesSite_indexName]; decide) notesSite_found rfl (by rintro _ ⟨⟩) rfl]
  refine ⟨keptAt (indexPath notesSettings (.ofPlace ["repo"])) made, ?_, ?_⟩
  · rw [(run_does _ _ _ rfl rfl).outcome.1]
    exact runAt_eq notesSite_rooted indexed rfl wrote rfl
  · have bare : full.candidates = [] := rfl
    have sorted : IndexFrame.sortedLanguages ⟨"repo", ["go"], 100⟩ = ["go"] :=
      List.mergeSort_singleton _
    have one : full.totalFiles = (1 : Nat) := counted
    refine showsCount_of_fits _ _ _ _ (by decide) full one ?_
    rw [bare]
    change Truncation.lineBytes (IndexFrame.frontPieces ⟨"repo", ["go"], 100⟩ .structured ++ _) ≤ _
    rw [IndexFrame.frontPieces, IndexFrame.frontLines, sorted]
    decide

theorem notesSite_second_run_differs : ∃ first second,
    ((run Registry.standard notesSettings notesOutside).outcome notesSite).1 = .ok (first, []) ∧
    ((run Registry.standard notesSettings notesOutside).outcome
      ((run Registry.standard notesSettings notesOutside).outcome notesSite).2.site).1 =
        .ok (second, []) ∧
    second.totalFiles = first.totalFiles + 1 ∧ second.content ≠ first.content := by
  obtain ⟨first, ran, shows⟩ := notesSite_run
  obtain ⟨second, reran, more, _, same⟩ :=
    second_run_same_iff rfl rfl notesSite_rooted notesSite_secluded ran
  exact ⟨first, second, ran, reran, more notesSite_counts, fun equal =>
    same.mp equal ⟨notesSite_counts, shows⟩⟩

end Indexing

end SourceAtlas
