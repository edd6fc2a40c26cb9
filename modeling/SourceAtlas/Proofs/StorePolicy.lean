import SourceAtlas.Proofs.PavedPaths

/-!
Where a store keeps a plain text, and what it leaves alone. The first destination holds the bytes of
the text; each copy holds them too or is noted as failed, and then a file there is as it was, unless
it was opened: then it holds a beginning of them. No other file changes.
-/
namespace SourceAtlas

open Text

theorem Path.names_ofText_ne_nil {text : String} {c : Char} (inside : c ∈ text.toList)
    (slash : c ≠ '/') (dot : c ≠ '.') : (Path.ofText text).names ≠ [] := by
  intro empty
  have bare := List.filter_eq_nil_iff.mp empty
  have free : ∀ piece ∈ splitFrom '/' [] text.toList, ∀ d ∈ piece, d ≠ c := by
    intro piece listed d member
    have dropped := bare (.ofList piece) (List.mem_map_of_mem listed)
    simp only [ne_eq, Bool.and_eq_true, decide_eq_true_eq, not_and, not_not] at dropped
    by_cases nothing : String.ofList piece = ""
    · rw [String.ofList_eq_empty_iff.mp nothing] at member
      cases member
    · have only : piece = ['.'] := by
        have spelled := congrArg String.toList (dropped nothing)
        rwa [String.toList_ofList] at spelled
      rw [only, List.mem_singleton] at member
      rw [member]
      exact Ne.symm dot
  have whole := intercalate_splitFrom '/' [] text.toList
  rw [List.reverse_nil, List.nil_append] at whole
  have spared : ∀ d ∈ ['/'].intercalate (splitFrom '/' [] text.toList), d ≠ c :=
    forall_mem_intercalate (p := (· ≠ c)) (Ne.symm slash) free
  rw [whole] at spared
  exact spared c inside rfl

namespace Store
variable {store : Store} {site : Site} {content : Bytes}

theorem named_child (base : Path) :
    ((base.child directoryName).child store.fileName).names ≠ [] := by
  have mark : '_' ∈ store.fileName.toList := by
    rw [fileName, String.toList_append]
    exact List.mem_append_right _ (by decide)
  have named := Path.names_ofText_ne_nil mark (by decide) (by decide)
  unfold Path.child Path.append
  split
  · exact named
  · exact List.append_ne_nil_of_right_ne_nil _ named

theorem named_of_copy {first copy : Path} (member : copy ∈ store.copyPaths first) :
    copy.names ≠ [] := by
  unfold copyPaths at member
  split at member
  · cases member
  · have listed := (List.mem_filter.mp member).1
    rw [List.mem_cons, List.mem_singleton] at listed
    rcases listed with rfl | rfl <;> exact named_child _

def copyRecord (path : Path) : Record :=
  .debug "stores.output" ("Wrote secondary copy to " ++ path.toText)

inductive Copied (content : Bytes) : Site → List Path → Site → Journal → Prop
  | done (site : Site) : Copied content site [] site []
  | wrote {site between after : Site} {path : Path} {rest : List Path} {records : Journal}
      (written : writeFile site path content = (between, .ok ()))
      (onward : Copied content between rest after records) :
      Copied content site (path :: rest) after (copyRecord path :: records)
  | failed {site between after : Site} {path : Path} {rest : List Path} {records : Journal}
      {error : OsError} (stopped : writeFile site path content = (between, .error (.os error)))
      (onward : Copied content between rest after records) :
      Copied content site (path :: rest) after (copyWarning path error.message :: records)
  | broken {site between after : Site} {path : Path} {rest : List Path} {records : Journal}
      {fault : OsFault} (torn : writeFile site path content = (between, .error (.cut fault)))
      (onward : Copied content between rest after records) :
      Copied content site (path :: rest) after (copyWarning path fault.message :: records)

theorem writeCopy_run (content : Bytes) (path : Path) (progress : Progress) :
    StateT.run (ExceptT.run (writeCopy content path)) progress =
      match writeFile progress.site path content with
      | (after, .ok ()) => (.ok (), ⟨after, progress.journal ++ [copyRecord path]⟩)
      | (after, .error (.os error)) =>
          (.ok (), ⟨after, progress.journal ++ [copyWarning path error.message]⟩)
      | (after, .error (.cut fault)) =>
          (.ok (), ⟨after, progress.journal ++ [copyWarning path fault.message]⟩)
      | (after, .error (.path fault)) => (.error (.path fault), ⟨after, progress.journal⟩) := by
  have start : StateT.run (ExceptT.run Act.site) progress = (.ok progress.site, progress) := rfl
  unfold writeCopy
  rw [run_bind, start]
  dsimp only
  rcases writeFile progress.site path content with ⟨after, ⟨_ | _ | _⟩ | _⟩ <;> rfl

theorem target_plain (plain : store.encrypt = false) (path : Path) :
    store.target path = .ok path := by
  rw [target, plain]
  rfl

theorem copied_of_run (plain : store.encrypt = false) {paths : List Path}
    {progress later : Progress}
    (ran : StateT.run (ExceptT.run (forIn paths PUnit.unit fun path _ => do
        writeCopy content (← ofPath (store.target path))
        pure (ForInStep.yield PUnit.unit) : Act PUnit)) progress = (.ok PUnit.unit, later)) :
    ∃ records, Copied content progress.site paths later.site records ∧
      later.journal = progress.journal ++ records := by
  induction paths generalizing progress with
  | nil =>
      cases ran
      exact ⟨[], .done _, (List.append_nil _).symm⟩
  | cons path rest ih =>
      rw [List.forIn_cons, target_plain plain] at ran
      obtain ⟨step, between, first, onward⟩ := Act.exists_of_run_bind ran
      obtain ⟨_, _, named, second⟩ := Act.exists_of_run_bind first
      cases named
      obtain ⟨_, after, wrote, last⟩ := Act.exists_of_run_bind second
      cases last
      obtain ⟨records, copied, noted⟩ := ih onward
      rw [writeCopy_run] at wrote
      split at wrote
      next between written =>
        cases wrote
        exact ⟨_, .wrote written copied, by rw [noted, List.append_assoc]; rfl⟩
      next between error stopped =>
        cases wrote
        exact ⟨_, .failed stopped copied, by rw [noted, List.append_assoc]; rfl⟩
      next between fault torn =>
        cases wrote
        exact ⟨_, .broken torn copied, by rw [noted, List.append_assoc]; rfl⟩
      next => cases wrote

theorem copied_of_write {entropy : Entropy} {text : String} {path : Path} {progress : Progress}
    (plain : store.encrypt = false)
    (written : (store.write entropy text).outcome site = (.ok path, progress)) :
    store.primary site = .ok path ∧
      (writeFile site path (Utf8.encode text)).2 = .ok () ∧
      ∃ records, Copied (Utf8.encode text) (writeFile site path (Utf8.encode text)).1
          (store.copyPaths path) progress.site records ∧
        progress.journal =
          .info "stores.output" ("Wrote index to " ++ path.toText) :: records := by
  have paid : store.payload entropy text = .ok (Utf8.encode text) := by
    rw [payload, plain]
    rfl
  unfold write Act.outcome at written
  rw [paid] at written
  obtain ⟨_, _, found, written⟩ := Act.exists_of_run_bind written
  cases found
  obtain ⟨first, _, chosen, written⟩ := Act.exists_of_run_bind written
  cases primary : store.primary site with
  | error fault =>
      rw [primary] at chosen
      cases chosen
  | ok other =>
      have start : (store.primary site >>= store.target) = .ok other := by
        rw [primary]
        exact target_plain plain other
      change StateT.run (ExceptT.run (ofPath (store.primary site >>= store.target))) _ = _ at chosen
      rw [start] at chosen
      cases chosen
      dsimp only at written
      cases attempt : writeFile site first (Utf8.encode text) with
      | mk after result =>
          rw [attempt] at written
          obtain ⟨_, _, moved, written⟩ := Act.exists_of_run_bind written
          cases moved
          cases result with
          | error fault => cases written
          | ok done =>
              obtain ⟨_, _, noted, written⟩ := Act.exists_of_run_bind written
              cases noted
              -- the first destination does not depend on the tree, which alone has changed
              obtain ⟨root, rooted⟩ := Site.exists_withRoot_of_writeFile site first
                (Utf8.encode text)
              rw [attempt] at rooted
              have still : store.primary after = .ok first := by
                rw [← primary, show after = site.withRoot root from rooted]
                rfl
              dsimp only at written
              rw [secondary_eq still] at written
              obtain ⟨_, _, listed, written⟩ := Act.exists_of_run_bind written
              cases listed
              obtain ⟨_, last, ran, written⟩ := Act.exists_of_run_bind written
              cases written
              obtain ⟨records, copied, noted⟩ := copied_of_run plain ran
              rw [attempt]
              exact ⟨rfl, rfl, records, copied, noted⟩

theorem copied_of_first {store : Store} {site between : Site} {text : String} {first : Path}
    (usable : store.Usable) (plain : store.encrypt = false)
    (chosen : store.primary site = .ok first)
    (wrote : writeFile site first (Utf8.encode text) = (between, .ok ())) (entropy : Entropy) :
    ∃ progress records, (store.write entropy text).outcome site = (.ok first, progress) ∧
      Copied (Utf8.encode text) between (store.copyPaths first) progress.site records ∧
      records ⊆ progress.journal := by
  have paid : store.payload entropy text = .ok (Utf8.encode text) := by
    rw [payload, plain]
    rfl
  have kept : (store.written site (Utf8.encode text)).1 = .ok first := by
    rcases usable.targets_cases site with
      ⟨fault, failed, _⟩ | ⟨path, other, copies, again, found, _, all⟩
    · rw [chosen] at failed
      cases (target_plain plain first).symm.trans failed
    · cases chosen.symm.trans again
      cases (target_plain plain first).symm.trans found
      rw [written, all]
      dsimp only
      rw [wrote]
  have done := (write_does usable entropy text paid site).outcome.1.trans kept
  have ran : (store.write entropy text).outcome site = (.ok first, _) := Prod.ext done rfl
  obtain ⟨_, _, records, copied, noted⟩ := copied_of_write plain ran
  rw [wrote] at copied
  exact ⟨_, records, ran, copied, noted ▸ List.subset_cons_self _ _⟩

theorem Copied.frame {after : Site} {paths : List Path} {records : Journal}
    (copied : Copied content site paths after records) :
    Wrote site after paths content ∧ site.root.NoMoreLinks after.root := by
  induction copied with
  | done site => exact ⟨.refl _ _ _, .refl _⟩
  | @wrote site between _ path _ _ attempt _ ih
  | @failed site between _ path _ _ _ attempt _ ih
  | @broken site between _ path _ _ _ attempt _ ih =>
      have first := Site.writeFile_frame site path content
      have fewer := Site.writeFile_links site path content
      rw [attempt] at first fewer
      exact ⟨first.trans ih.1, fewer.trans ih.2⟩

/-- What has become of a copy: it has been written and is still there, or it has failed with a
warning that names it. Then a file that its path leads to is as it was, unless it was opened and the
writing broke off: then it holds a beginning of the content. -/
inductive CopyEnds (before after : Site) (records : Journal) (content : Bytes) (copy : Path) : Prop
  | written (noted : copyRecord copy ∈ records) (holds : after.content copy = .ok content)
  | failed (error : OsError) (noted : copyWarning copy error.message ∈ records)
      (same : ∀ place, after.place .existing copy = .ok place →
        Item.FilesAgree before.root after.root place)
      (still : ∀ bytes, before.content copy = .ok bytes → after.content copy = .ok bytes)
  | broken (fault : OsFault) (noted : copyWarning copy fault.message ∈ records) (held : Bytes)
      (front : held <+: content) (holds : after.content copy = .ok held)

theorem CopyEnds.mono {before after : Site} {records more : Journal} {copy : Path}
    (ends : CopyEnds before after records content copy) (listed : records ⊆ more) :
    CopyEnds before after more content copy := by
  cases ends with
  | written noted holds => exact .written (listed noted) holds
  | failed error noted same still => exact .failed error (listed noted) same still
  | broken fault noted held front holds => exact .broken fault (listed noted) held front holds

section Ends

variable {origin before between after : Site} {path : Path}

theorem exists_held_of_opened {records : Journal} {rest : List Path}
    (opened : ∀ fault, (writeFile before path content).2 = .error fault → ∃ cut, fault = .cut cut)
    (onward : Copied content (writeFile before path content).1 rest after records) :
    ∃ place held, before.holding? place content = some held ∧
      (writeFile before path content).2 = before.ending place ∧
      after.content path = .ok held := by
  rcases Site.writeFile_cases before path content with
    ⟨place, held, holds, ending, placed, found, wrote⟩ | ⟨⟨fault, failed, unopened⟩, _⟩
  · rw [← wrote.holding_eq] at holds
    have reads := onward.frame.1.content_eq placed holds found
    exact ⟨place, held, (wrote.holding_eq place content) ▸ holds, ending, reads⟩
  · obtain ⟨cut, same⟩ := opened fault failed
    exact absurd same (unopened cut)

theorem filesAgree_of_failed (straight : origin.Straight path) (early : Later origin before)
    (late : Later before after) {paths : List Path} (wrote : Wrote origin after paths content)
    (fewer : origin.root.NoMoreLinks after.root) (named : path.names ≠ []) {error : OsError}
    (stopped : (writeFile before path content).2 = .error (.os error)) {place : Place}
    (placed : after.place .existing path = .ok place) :
    Item.FilesAgree origin.root after.root place := by
  rcases wrote.files place with same | ⟨⟨held, _, file⟩, _⟩
  · exact same
  · obtain ⟨fault, refused⟩ := straight.refused early late fewer named placed file stopped
    rw [early.writing_eq] at refused
    exact wrote.filesAgree_of_refused refused

theorem content_of_filesAgree (later : Later origin after)
    (same : ∀ place, after.place .existing path = .ok place →
      Item.FilesAgree origin.root after.root place) {bytes : Bytes}
    (holds : origin.content path = .ok bytes) : after.content path = .ok bytes := by
  obtain ⟨place, placed, file⟩ := Site.content_eq_ok.mp holds
  obtain ⟨new, still⟩ := later.kept.file file
  have again := later.place_eq Reach.noConfusion still placed
  exact Site.content_eq_ok.mpr ⟨place, again, (same place again bytes).mp file⟩

theorem ends_cons {rest more : List Path} {record : Record} {records : Journal}
    {result : Except WriteFault Unit} (attempt : writeFile before path content = (between, result))
    (early : Wrote origin before more content) (fewer : origin.root.NoMoreLinks before.root)
    (others : Wrote origin between (more ++ [path]) content →
      origin.root.NoMoreLinks between.root →
      ∀ copy ∈ rest, CopyEnds origin after records content copy)
    (own : CopyEnds origin after (record :: records) content path) :
    ∀ copy ∈ path :: rest, CopyEnds origin after (record :: records) content copy := by
  have first := Site.writeFile_frame before path content
  have links := Site.writeFile_links before path content
  rw [attempt] at first links
  exact List.forall_mem_cons.mpr ⟨own, fun copy member =>
    (others (early.trans first) (fewer.trans links) copy member).mono (List.subset_cons_self _ _)⟩

theorem Copied.ends {paths more : List Path} {records : Journal}
    (copied : Copied content before paths after records) (early : Wrote origin before more content)
    (fewer : origin.root.NoMoreLinks before.root) (named : ∀ path ∈ paths, path.names ≠ [])
    (straight : ∀ path ∈ paths, origin.Straight path) :
    ∀ path ∈ paths, CopyEnds origin after records content path := by
  induction copied generalizing more with
  | done => exact fun _ member => absurd member List.not_mem_nil
  | @wrote before between after path rest records attempt onward ih =>
      rw [List.forall_mem_cons] at named straight
      have there := @exists_held_of_opened content before after path records rest
      rw [attempt] at there
      obtain ⟨place, held, holds, ending, reads⟩ := there nofun onward
      cases Site.holding_of_ending holds ending.symm
      exact ends_cons attempt early fewer (fun wrote links => ih wrote links named.2 straight.2)
        (.written List.mem_cons_self reads)
  | @failed before between after path rest records error attempt onward ih =>
      rw [List.forall_mem_cons] at named straight
      have first := Site.writeFile_frame before path content
      have links := Site.writeFile_links before path content
      have stopped : (writeFile before path content).2 = .error (.os error) := by rw [attempt]
      rw [attempt] at first links
      have whole := early.trans (first.trans onward.frame.1)
      have same (place : Place) (placed : after.place .existing path = .ok place) :=
        filesAgree_of_failed straight.1 early.toLater (first.trans onward.frame.1).toLater whole
          ((fewer.trans links).trans onward.frame.2) named.1 stopped placed
      exact ends_cons attempt early fewer (fun wrote links => ih wrote links named.2 straight.2)
        (.failed error List.mem_cons_self same fun _ => content_of_filesAgree whole.toLater same)
  | @broken before between after path rest records fault attempt onward ih =>
      rw [List.forall_mem_cons] at named straight
      have there := @exists_held_of_opened content before after path records rest
      rw [attempt] at there
      obtain ⟨place, held, holds, _, reads⟩ := there (by simp) onward
      exact ends_cons attempt early fewer (fun wrote links => ih wrote links named.2 straight.2)
        (.broken fault List.mem_cons_self held (Site.holding_prefix holds) reads)

end Ends

/-- The path that a store chooses: one of its own, taken from the root unless it is absolute, or one
in the home directory or in the root. -/
inductive Chooses (store : Store) (site : Site) : Path → Prop
  | custom {text : String} {custom : Path} (given : store.outputPath = some text)
      (filled : text ≠ "") (expanded : site.expandHome (.ofText text) = .ok custom) :
      Chooses store site (if custom.isAbsolute then custom
        else { store.root with names := store.root.names ++ custom.names })
  | home (bare : ∀ text, store.outputPath = some text → text = "")
      (configured : store.location = "config") : Chooses store site store.homePath
  | repository (bare : ∀ text, store.outputPath = some text → text = "")
      (other : store.location ≠ "config") : Chooses store site store.repositoryPath

theorem chooses_of_primary {path : Path} (chosen : store.primary site = .ok path) :
    store.Chooses site path := by
  unfold primary at chosen
  cases kept : store.outputPath.filter (!·.isEmpty) with
  | some text =>
      rw [kept] at chosen
      obtain ⟨given, filled⟩ := Option.filter_eq_some_iff.mp kept
      obtain ⟨custom, expanded, last⟩ := exists_of_bind chosen
      cases last
      exact .custom given (by simpa using filled) expanded
  | none =>
      rw [kept] at chosen
      have bare (text : String) (given : store.outputPath = some text) : text = "" := by
        have empty := Option.filter_eq_none_iff.mp kept text given
        simpa using empty
      cases chosen
      split
      next config => exact .home bare (beq_iff_eq.mp config)
      next other => exact .repository bare fun config => other (beq_iff_eq.mpr config)

/-- Where a plain text is kept. A write that succeeds gives the path that the store chooses, which
leads to exactly the bytes of the text. With copies in both places, each place but that one has the
bytes too or has failed with a warning, if no link is on its path, and then a file there is as it
was or holds a beginning of the bytes; without, no further file is written. No other file
changes. -/
theorem write_keeps_policy {entropy : Entropy} {text : String} {path : Path} {progress : Progress}
    (plain : store.encrypt = false) (straight : ∀ copy ∈ store.copyPaths path, site.Straight copy)
    (written : (store.write entropy text).outcome site = (.ok path, progress)) :
    store.Chooses site path ∧
      progress.site.content path = .ok (Utf8.encode text) ∧
      (store.location = "both" → ∀ copy ∈ [store.repositoryPath, store.homePath], copy ≠ path →
        CopyEnds site progress.site progress.journal (Utf8.encode text) copy) ∧
      (store.location ≠ "both" → Wrote site progress.site [path] (Utf8.encode text)) ∧
      Wrote site progress.site (path :: store.copyPaths path) (Utf8.encode text) := by
  obtain ⟨chosen, done, records, copied, noted⟩ := copied_of_write plain written
  have first := Site.writeFile_frame site path (Utf8.encode text)
  have whole := first.trans copied.frame.1
  refine ⟨chooses_of_primary chosen, ?_, fun both copy listed other => ?_, fun single => ?_, whole⟩
  · have opened (fault : WriteFault)
        (failed : (writeFile site path (Utf8.encode text)).2 = .error fault) :
        ∃ cut, fault = .cut cut := by
      cases done.symm.trans failed
    obtain ⟨place, held, holds, ending, reads⟩ := exists_held_of_opened opened copied
    cases Site.holding_of_ending holds (ending.symm.trans done)
    exact reads
  · have member : copy ∈ store.copyPaths path := by
      rw [copyPaths, if_neg (not_not_intro both)]
      exact List.mem_filter.mpr ⟨listed, decide_eq_true other⟩
    have ends := copied.ends first (Site.writeFile_links site path _) (fun _ => named_of_copy)
      straight copy member
    rw [noted]
    exact ends.mono (List.subset_cons_self _ _)
  · rwa [copyPaths, if_pos single] at whole

def depotSite : Site where
  root := .directory [("depot", .directory []), ("home", .directory [(directoryName, .file [])])]

def depotStore : Store where
  root := ⟨"/", ["depot"]⟩
  slug := "depot"
  location := "both"
  home := ⟨"/", ["home"]⟩

theorem depotStore_usable : depotStore.Usable :=
  ⟨⟨by decide, by decide, by decide, by decide⟩, by decide, by decide, by decide⟩

theorem depotStore_copies : depotStore.copyPaths depotStore.repositoryPath =
    [.ofPlace ["home", ".codeindex", "depot_INDEX.md"]] := by decide

theorem depotSite_straight : ∀ copy ∈ depotStore.copyPaths depotStore.repositoryPath,
    depotSite.Straight copy := by
  have home : (Item.directory [(directoryName, .file [])]).Linkless := Item.linkless_single _ _
  have depot : (Item.directory []).Linkless := Item.linkless_directory fun _ member =>
    absurd member List.not_mem_nil
  have plain : depotSite.root.Linkless := Item.linkless_directory
    (List.forall_mem_cons.mpr ⟨depot, List.forall_mem_singleton.mpr home⟩)
  have way : Way depotSite.root 0 [] ["home", ".codeindex", "depot_INDEX.md"]
      ["home", ".codeindex", "depot_INDEX.md"] :=
    .enter (by decide) (plain _) (.enter (by decide) (plain _)
      (.enter (by decide) (plain _) (.stop _)))
  rw [depotStore_copies]
  exact List.forall_mem_singleton.mpr ⟨fun relative => (nomatch relative), _, way⟩

theorem depotSite_keeps_policy :
    depotStore.encrypt = false ∧
      (∀ copy ∈ depotStore.copyPaths depotStore.repositoryPath, depotSite.Straight copy) ∧
      ∃ progress, (depotStore.write ⟨[], []⟩ "# Depot").outcome depotSite =
          (.ok depotStore.repositoryPath, progress) ∧
        progress.site.content depotStore.repositoryPath = .ok (Utf8.encode "# Depot") ∧
        CopyEnds depotSite progress.site progress.journal (Utf8.encode "# Depot")
          depotStore.homePath := by
  have fits : Fits (.ofPlace (["depot"] ++ [".codeindex"] ++ ["depot_INDEX.md"])) :=
    ⟨by decide, by decide, by decide⟩
  have first : writeFile depotSite depotStore.repositoryPath (Utf8.encode "# Depot") = _ :=
    Site.writeFile_absent fits (by decide) rfl rfl (by rintro _ ⟨⟩) rfl (Utf8.encode "# Depot")
  have chosen : depotStore.primary depotSite = .ok depotStore.repositoryPath := rfl
  obtain ⟨progress, _, ran, _⟩ := copied_of_first depotStore_usable rfl chosen first ⟨[], []⟩
  obtain ⟨_, reads, copies, _⟩ := write_keeps_policy rfl depotSite_straight ran
  exact ⟨rfl, depotSite_straight, _, ran, reads,
    copies rfl depotStore.homePath (List.mem_cons_of_mem _ (List.mem_singleton_self _)) (by decide)⟩

def fullSite : Site where
  root := .directory [
    ("depot", .directory [(directoryName, .directory [])]),
    ("home", .directory [(directoryName, .directory [("depot_INDEX.md", .file [35])])])]
  writing place := if place.head? = some "home" then .cut 0 .noSpace else .whole

def nestedStore : Store :=
  { depotStore with outputPath := some ".codeindex/depot_INDEX.md/deep.md" }

theorem torn_copy :
    ∃ progress, (depotStore.write ⟨[], []⟩ "#").outcome fullSite =
        (.ok depotStore.repositoryPath, progress) ∧
      copyWarning depotStore.homePath OsFault.noSpace.message ∈ progress.journal ∧
      fullSite.content depotStore.homePath = .ok [35] ∧
      progress.site.content depotStore.homePath = .ok [] := by
  have near : Fits (.ofPlace (["depot", ".codeindex"] ++ ["depot_INDEX.md"])) :=
    ⟨by decide, by decide, by decide⟩
  have far : Fits (.ofPlace (["home", ".codeindex"] ++ ["depot_INDEX.md"])) :=
    ⟨by decide, by decide, by decide⟩
  have chosen : depotStore.primary fullSite = .ok depotStore.repositoryPath := rfl
  have first : writeFile fullSite depotStore.repositoryPath (Utf8.encode "#") = _ :=
    Site.writeFile_present near (by decide) rfl (by rintro _ ⟨⟩) rfl (Utf8.encode "#")
  obtain ⟨progress, records, ran, copied, noted⟩ :=
    copied_of_first depotStore_usable rfl chosen first ⟨[], []⟩
  have before : fullSite.content depotStore.homePath = .ok [35] :=
    Site.content_file far (by decide) rfl rfl
  rw [depotStore_copies] at copied
  generalize isSite : (fullSite.withRoot _ : Site) = site at copied
  have found : site.root.get? ["home", ".codeindex"] =
      some (.directory [("depot_INDEX.md", .file [35])]) := by
    rw [← isSite]
    rfl
  have fate : site.writing (["home", ".codeindex"] ++ ["depot_INDEX.md"]) = .cut 0 .noSpace := by
    rw [← isSite]
    rfl
  have held : site.holding? (["home", ".codeindex"] ++ ["depot_INDEX.md"]) (Utf8.encode "#") =
      some [] := by
    rw [Site.holding?, fate]
    rfl
  have torn := Site.writeFile_holding far (by decide) found
    (fun item listed => ⟨[35], (Option.some.inj listed).symm⟩) held
  rw [Site.ending, fate] at torn
  cases copied with
  | wrote done _ => cases torn.symm.trans done
  | failed stopped _ => cases torn.symm.trans stopped
  | broken again onward =>
      cases torn.symm.trans again
      generalize onwardSite : progress.site = last at onward ⊢
      cases onward
      have emptied : (site.withRoot (site.root.put (["home", ".codeindex"] ++ ["depot_INDEX.md"])
          (.file []))).root.get? ["home", ".codeindex"] =
            some (.directory [("depot_INDEX.md", .file [])]) := by
        rw [← isSite]
        rfl
      have after := Site.content_file far (by decide) emptied rfl
      rw [← onwardSite] at after
      exact ⟨progress, ran, noted (List.mem_singleton_self _), before, after⟩

theorem barred_copy :
    ∃ path progress error, (nestedStore.write ⟨[], []⟩ "#").outcome fullSite =
        (.ok path, progress) ∧
      copyWarning nestedStore.repositoryPath (OsError.message error) ∈ progress.journal ∧
      fullSite.exists? nestedStore.repositoryPath = .ok false ∧
      progress.site.exists? nestedStore.repositoryPath = .ok true := by
  have near : Fits (.ofPlace (["depot", ".codeindex"] ++ ["depot_INDEX.md"])) :=
    ⟨by decide, by decide, by decide⟩
  have deep : Fits (.ofPlace (["depot", ".codeindex"] ++ ["depot_INDEX.md"] ++ ["deep.md"])) :=
    ⟨by decide, by decide, by decide⟩
  have bare : fullSite.root.get? ["depot", ".codeindex"] = some (.directory []) := rfl
  have usable : nestedStore.Usable :=
    ⟨⟨by decide, by decide, by decide, by decide⟩, by decide, by decide, by decide⟩
  have chosen : nestedStore.primary fullSite =
      .ok (.ofPlace (["depot", ".codeindex"] ++ ["depot_INDEX.md"] ++ ["deep.md"])) := by decide
  have first := Site.writeFile_absent deep (by decide) bare rfl (by rintro _ ⟨⟩) rfl
    (Utf8.encode "#")
  obtain ⟨progress, records, ran, copied, noted⟩ := copied_of_first usable rfl chosen first ⟨[], []⟩
  have copies : nestedStore.copyPaths
      (.ofPlace (["depot", ".codeindex"] ++ ["depot_INDEX.md"] ++ ["deep.md"])) =
        [.ofPlace (["depot", ".codeindex"] ++ ["depot_INDEX.md"]), nestedStore.homePath] := by
    decide
  rw [copies] at copied
  generalize isSite : (fullSite.withRoot _ : Site) = site at copied
  have above : site.root.get? ["depot", ".codeindex"] = some (.directory [("depot_INDEX.md",
      .directory [("deep.md", .file (Utf8.encode "#"))])]) := by
    rw [← isSite]
    rfl
  have there : site.root.get? (["depot", ".codeindex"] ++ ["depot_INDEX.md"]) =
      some (.directory [("deep.md", .file (Utf8.encode "#"))]) := by
    rw [Item.get?_snoc above]
    rfl
  obtain ⟨error, failed⟩ := Site.write_directory
    (Site.isDirectory_directory near (by decide) there) (Utf8.encode "#")
  have made := Site.makeDirectories_present near.above (by decide) above
  have barred := (Site.writeFile_of_made near made).trans failed
  obtain ⟨_, still⟩ := copied.frame.1.kept.directory there
  have before : fullSite.exists? nestedStore.repositoryPath = .ok false := by
    have missing : fullSite.item nestedStore.repositoryPath = _ :=
      Site.item_absent near (by decide) bare rfl
    rw [Site.exists?, Site.probe, if_neg (by decide), missing]
    rfl
  cases copied with
  | wrote done _ => cases barred.symm.trans done
  | broken torn _ => cases barred.symm.trans torn
  | failed stopped onward =>
      cases barred.symm.trans stopped
      exact ⟨_, progress, error, ran, noted List.mem_cons_self, before,
        Site.exists_directory near (by decide) still⟩

theorem failed_copies_change :
    (∃ progress, (depotStore.write ⟨[], []⟩ "#").outcome fullSite =
        (.ok depotStore.repositoryPath, progress) ∧
      copyWarning depotStore.homePath OsFault.noSpace.message ∈ progress.journal ∧
      fullSite.content depotStore.homePath = .ok [35] ∧
      progress.site.content depotStore.homePath = .ok []) ∧
    ∃ path progress error, (nestedStore.write ⟨[], []⟩ "#").outcome fullSite =
        (.ok path, progress) ∧
      copyWarning nestedStore.repositoryPath (OsError.message error) ∈ progress.journal ∧
      fullSite.exists? nestedStore.repositoryPath = .ok false ∧
      progress.site.exists? nestedStore.repositoryPath = .ok true :=
  ⟨torn_copy, barred_copy⟩

end Store

end SourceAtlas
