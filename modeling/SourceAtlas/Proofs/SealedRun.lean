import SourceAtlas.Proofs.SealedText
import SourceAtlas.Proofs.SecondRun
import SourceAtlas.Proofs.StoreWrites

/-!
A run that keeps its index sealed. Either it fails and no file has changed, or all that it has
written is one text that the key opens, to paths whose names tell that they are sealed; where a
writing breaks off, a beginning of that text is left.
-/
namespace SourceAtlas

open Text

theorem exists_of_mem_mapM {α β ε : Type} {f : α → Except ε β} {list : List α} {found : List β}
    (mapped : list.mapM f = .ok found) {b : β} (member : b ∈ found) : ∃ a ∈ list, f a = .ok b := by
  induction list generalizing found with
  | nil =>
      cases mapped
      cases member
  | cons first rest ih =>
      rw [List.mapM_cons] at mapped
      obtain ⟨head, one, mapped⟩ := exists_of_bind mapped
      obtain ⟨tail, others, mapped⟩ := exists_of_bind mapped
      cases mapped
      rcases List.mem_cons.mp member with rfl | later
      · exact ⟨first, List.mem_cons_self, one⟩
      · obtain ⟨a, listed, same⟩ := ih others later
        exact ⟨a, List.mem_cons_of_mem _ listed, same⟩

namespace Store

variable {store : Store} {site : Site}

theorem sealed_target (sealed : store.encrypt = true) {path target : Path}
    (found : store.target path = .ok target) :
    endsWith target.name sealedEnding = true ∧ target.names ≠ [] := by
  unfold Store.target at found
  rw [sealed, if_neg (by decide)] at found
  split at found
  · cases found
  · cases found
    refine ⟨?_, by simp [Path.withName]⟩
    rw [endsWith_iff, Path.name, Path.withName, List.getLastD_concat, String.toList_append]
    exact List.suffix_append _ _

theorem exists_of_targets {first : Path} {copies : List Path}
    (all : store.targets site = .ok (first, copies)) :
    ∃ (path : Path) (listed : List Path), store.primary site = .ok path ∧
      store.target path = .ok first ∧ listed.mapM store.target = .ok copies := by
  unfold targets at all
  obtain ⟨path, primary, all⟩ := exists_of_bind all
  obtain ⟨start, found, all⟩ := exists_of_bind all
  obtain ⟨listed, _, all⟩ := exists_of_bind all
  obtain ⟨others, mapped, all⟩ := exists_of_bind all
  cases all
  exact ⟨path, listed, primary, found, mapped⟩

theorem exists_of_mem_targets {first : Path} {copies : List Path}
    (all : store.targets site = .ok (first, copies)) {path : Path}
    (member : path ∈ first :: copies) : ∃ plain, store.target plain = .ok path := by
  obtain ⟨chosen, listed, _, found, mapped⟩ := exists_of_targets all
  rcases List.mem_cons.mp member with rfl | later
  · exact ⟨chosen, found⟩
  · obtain ⟨plain, _, same⟩ := exists_of_mem_mapM mapped later
    exact ⟨plain, same⟩

structure Torn (site after : Site) (content : Bytes) (path : Path) (failure : Failure) : Prop where
  broken : ∃ place kept fault, site.writing place = .cut kept fault ∧
    after.place .existing path = .ok place ∧
    after.root.get? place = some (.file (content.take kept)) ∧ failure = .brokenOff fault
  changed : Wrote site after [path] content

theorem torn_of_writeFile {path : Path} (named : path.names ≠ []) {content : Bytes}
    {fault : WriteFault} (failed : (writeFile site path content).2 = .error fault) :
    Wrote site (writeFile site path content).1 [] content ∨
      Torn site (writeFile site path content).1 content path (.ofWrite fault) := by
  rcases Site.writeFile_wrote named site content with
    ⟨place, held, holds, ending, placed, found, wrote⟩ | ⟨_, nothing⟩
  · rw [failed] at ending
    unfold Site.holding? at holds
    unfold Site.ending at ending
    cases fate : site.writing place with
    | cut kept cause =>
        rw [fate] at holds ending
        cases holds
        cases ending
        exact .inr ⟨⟨place, kept, cause, fate, placed, found, rfl⟩, wrote⟩
    | whole | refused => rw [fate] at ending; cases ending
  · exact .inl nothing

theorem content_of_wrote {path : Path} (named : path.names ≠ []) {after : Site} {content : Bytes}
    {paths : List Path} (done : (writeFile site path content).2 = .ok ())
    (onward : Wrote (writeFile site path content).1 after paths content) :
    after.content path = .ok content := by
  rcases Site.writeFile_wrote named site content with
    ⟨place, held, holds, ending, placed, found, wrote⟩ | ⟨⟨fault, failed, _⟩, _⟩
  · cases Site.holding_of_ending holds (ending.symm.trans done)
    exact onward.content_eq placed ((wrote.holding_eq place content).trans holds) found
  · cases done.symm.trans failed

/-- A sealed content is written to all the targets or to none, unless the first writing breaks
off. -/
theorem written_cases (sealed : store.encrypt = true) (site : Site) (content : Bytes) :
    (∃ failure, (store.written site content).1 = .error failure ∧
      (Wrote site (store.written site content).2 [] content ∨
        ∃ first copies, store.targets site = .ok (first, copies) ∧
          endsWith first.name sealedEnding = true ∧
          Torn site (store.written site content).2 content first failure)) ∨
    ∃ first copies, store.targets site = .ok (first, copies) ∧
      store.written site content = (.ok first, writeEach site (first :: copies) content) ∧
      (∀ path ∈ first :: copies, endsWith path.name sealedEnding = true) ∧
      Wrote site (writeEach site (first :: copies) content) (first :: copies) content ∧
      (writeEach site (first :: copies) content).content first = .ok content := by
  unfold written
  cases all : store.targets site with
  | error fault => exact .inl ⟨_, rfl, .inl (.refl _ _ _)⟩
  | ok both =>
      obtain ⟨first, copies⟩ := both
      have each : ∀ path ∈ first :: copies,
          endsWith path.name sealedEnding = true ∧ path.names ≠ [] := by
        intro path member
        obtain ⟨plain, found⟩ := exists_of_mem_targets all member
        exact sealed_target sealed found
      have named : ∀ path ∈ first :: copies, path.names ≠ [] := fun path member =>
        (each path member).2
      dsimp only
      have front := named first List.mem_cons_self
      cases result : (writeFile site first content).2 with
      | error fault =>
          have ends := torn_of_writeFile front result
          have whole : writeFile site first content =
              ((writeFile site first content).1, .error fault) := Prod.ext rfl result
          rw [whole]
          exact .inl ⟨_, rfl, ends.imp_right fun torn =>
            ⟨first, copies, rfl, (each first List.mem_cons_self).1, torn⟩⟩
      | ok done =>
          have whole : writeFile site first content =
              ((writeFile site first content).1, .ok ()) := Prod.ext rfl result
          have onward := writeEach_wrote (List.forall_mem_cons.mp named).2
            (writeFile site first content).1 content
          refine .inr ⟨first, copies, rfl, ?_, fun path member => (each path member).1,
            writeEach_wrote named site content, content_of_wrote front result onward⟩
          rw [whole]
          rfl

theorem written_of_first (usable : store.Usable) {content : Bytes} {first : Path}
    (start : (store.primary site >>= store.target) = .ok first)
    (done : (writeFile site first content).2 = .ok ()) :
    (store.written site content).1 = .ok first := by
  rcases usable.targets_cases site with
    ⟨fault, failed, _⟩ | ⟨path, other, copies, chosen, found, _, all⟩
  · cases start.symm.trans failed
  · rw [chosen] at start
    cases start.symm.trans found
    have whole : writeFile site first content = ((writeFile site first content).1, .ok ()) :=
      Prod.ext rfl done
    unfold written
    rw [all]
    dsimp only
    rw [whole]

theorem sealed_payload (sealed : store.encrypt = true) {entropy : Entropy}
    (sixteen : entropy.salt.length = Envelope.saltSize)
    (twelve : entropy.nonce.length = Envelope.nonceSize) {text : String} {content : Bytes}
    (paid : store.payload entropy text = .ok content) :
    ∃ key token, store.key = some key ∧ key ≠ [] ∧ content = Utf8.encode token ∧
      Envelope.reveal key token = .ok (Utf8.encode text) := by
  unfold payload at paid
  rw [sealed, if_neg (by decide)] at paid
  cases kept : store.key.filter (!·.isEmpty) with
  | none =>
      rw [kept] at paid
      cases paid
  | some key =>
      obtain ⟨given, filled⟩ := Option.filter_eq_some_iff.mp kept
      have some : key ≠ [] := by simpa using filled
      rw [kept] at paid
      dsimp only at paid
      cases stretched : Envelope.keyOf key entropy.salt with
      | error fault =>
          rw [Envelope.sealText, if_neg (by simpa using some), stretched] at paid
          cases paid
      | ok secret =>
          rw [Envelope.seal_eq some stretched] at paid
          have nothing : "".toList.all isBlank = true := rfl
          have revealed := Envelope.reveal_around stretched sixteen twelve (Utf8.encode text)
            nothing nothing
          rw [String.empty_append, String.append_empty] at revealed
          exact ⟨key, _, given, some, (Except.ok.inj paid).symm, revealed⟩

theorem exists_payload (sealed : store.encrypt = true) {key : Points} (given : store.key = some key)
    (filled : key ≠ []) (scalar : key.any Utf8.isSurrogate = false) (entropy : Entropy)
    (text : String) : ∃ content, store.payload entropy text = .ok content := by
  obtain ⟨secret, stretched⟩ := Envelope.exists_keyOf scalar entropy.salt
  have kept : store.key.filter (!·.isEmpty) = some key :=
    Option.filter_eq_some_iff.mpr ⟨given, by simpa using filled⟩
  unfold payload
  rw [sealed, if_neg (by decide), kept]
  dsimp only
  rw [Envelope.seal_eq filled stretched]
  exact ⟨_, rfl⟩

end Store

namespace Indexing

variable {registry : Registry} {settings : Settings} {outside : Surroundings} {site : Site}
  {root : Path}

theorem clean_of_exists {path : Path} (there : site.exists? path = .ok true) :
    hasNul path = false := by
  cases nul : hasNul path with
  | false => rfl
  | true =>
      rw [Site.exists?, Site.probe, if_pos nul] at there
      cases there

theorem storeOf_usable (settings : Settings) (there : site.exists? root = .ok true)
    (home : hasNul (.ofText site.home) = false) : (storeOf site settings root).Usable where
  file := properName_indexName { settings with encrypt := false } root
  clean := by
    have slug : Char.ofNat 0 ∉ (Slugs.ofName (repositoryOf root)).file.toList :=
      Slugs.not_mem_file (by decide) (by decide) _
    rw [Store.fileName, String.toList_append, List.mem_append, not_or]
    exact ⟨slug, by decide⟩
  root := clean_of_exists there
  home := home

def storedRun (registry : Registry) (settings : Settings) (outside : Surroundings) (site : Site) :
    Except Failure (IndexResult × List Collection.Call) × Site :=
  match rootOf site settings with
  | .error fault => (.error (.path fault), site)
  | .ok root =>
      match indexAt registry site settings (outside.room - 1) outside.now root with
      | .error failure => (.error failure, site)
      | .ok made =>
          let store := storeOf site settings root
          if store.isKnown = false then (.error (.unknownStore settings.store), site)
          else match store.payload outside.entropy made.content with
            | .error failure => (.error failure, site)
            | .ok content =>
                let (result, after) := store.written site content
                (result.map fun first => (keptAt first made, []), after)

theorem storedRun_does (registry : Registry) (outside : Surroundings)
    (alone : settings.collection = none) (home : hasNul (.ofText site.home) = false) :
    (run registry settings outside).Does site (storedRun registry settings outside site).1
      (storedRun registry settings outside site).2 := by
  unfold run storedRun
  refine Act.does_site.seq ?_
  cases rootOf site settings with
  | error fault => exact (Act.does_fail _).stop _
  | ok root =>
      refine (Act.does_pure root).seq ?_
      dsimp only
      have made : (Act.ofNoted (generateAt registry site settings (outside.room - 1) outside.now
          root)).Does site (indexAt registry site settings (outside.room - 1) outside.now root)
            site :=
        Act.does_ofNoted (generateAt_gives registry site settings _ outside.now root)
      cases indexed : indexAt registry site settings (outside.room - 1) outside.now root with
      | error failure =>
          rw [indexed] at made
          exact made.stop _
      | ok result =>
          rw [indexed] at made
          refine made.seq ?_
          have usable := storeOf_usable settings (exists_of_indexed indexed) home
          dsimp only
          by_cases known : (storeOf site settings root).isKnown = true
          · have kept : (storeOf site settings root).isKnown ≠ false := by
              rw [known]
              decide
            rw [if_neg kept, known, if_neg (by decide)]
            cases paid : (storeOf site settings root).payload outside.entropy result.content with
            | error failure =>
                unfold Store.write
                rw [paid]
                exact (Act.does_fail failure).stop _
            | ok content =>
                have wrote := Store.write_does usable outside.entropy result.content paid site
                dsimp only
                cases done : ((storeOf site settings root).written site content).1 with
                | error failure =>
                    rw [done] at wrote
                    exact wrote.stop _
                | ok first =>
                    rw [done] at wrote
                    refine wrote.seq ?_
                    have called := register_does settings outside first
                      ((storeOf site settings root).written site content).2
                    have nothing : registered settings outside first = .ok [] := by
                      rw [registered, alone]
                    rw [nothing] at called
                    exact called.seq (Act.does_pure _)
          · rw [Bool.not_eq_true] at known
            rw [known, if_pos rfl, if_pos (by decide)]
            exact (Act.does_fail _).stop _

structure Sealing (settings : Settings) (site : Site) (text : String) (key : Points)
    (token : String) (first : Path) (copies : List Path) : Prop where
  configured : settings.encryptionKey = some key
  filled : key ≠ []
  targets : ∃ root, rootOf site settings = .ok root ∧
    (storeOf site settings root).targets site = .ok (first, copies)
  opened : Envelope.reveal key token = .ok (Utf8.encode text)
  openedBytes : Envelope.revealBytes key (Utf8.encode token) = .ok (Utf8.encode text)

theorem exists_sealing (sealed : settings.encrypt = true)
    (sixteen : outside.entropy.salt.length = Envelope.saltSize)
    (twelve : outside.entropy.nonce.length = Envelope.nonceSize)
    (rooted : rootOf site settings = .ok root) {text : String} {content : Bytes}
    (paid : (storeOf site settings root).payload outside.entropy text = .ok content) :
    ∃ key token, content = Utf8.encode token ∧ ∀ {first copies},
      (storeOf site settings root).targets site = .ok (first, copies) →
        Sealing settings site text key token first copies := by
  have locked : (storeOf site settings root).encrypt = true := sealed
  obtain ⟨key, token, configured, filled, same, opened⟩ :=
    Store.sealed_payload locked sixteen twelve paid
  exact ⟨key, token, same, fun all => {
    configured := configured
    filled := filled
    targets := ⟨root, rooted, all⟩
    opened := opened
    openedBytes := (Envelope.revealBytes_encode key token).trans opened }⟩

/-- What a run has written that keeps its index sealed: one text, which the key opens, to the first
destination and to the copies. -/
structure KeptSealed (settings : Settings) (site after : Site) (index : IndexResult)
    (key : Points) (token : String) (first : Path) (copies : List Path) : Prop extends
    Sealing settings site index.content key token first copies where
  named : ∀ path ∈ first :: copies, endsWith path.name Store.sealedEnding = true
  output : index.outputPath = some first.toText
  written : after = Store.writeEach site (first :: copies) (Utf8.encode token)
  changed : Wrote site after (first :: copies) (Utf8.encode token)
  kept : after.content first = .ok (Utf8.encode token)

/-- What a run has written that breaks off: a beginning of such a text, to the first destination. -/
structure BrokenSealed (settings : Settings) (site after : Site) (failure : Failure)
    (text : String) (key : Points) (token : String) (first : Path) (copies : List Path) :
    Prop extends Sealing settings site text key token first copies where
  named : endsWith first.name Store.sealedEnding = true
  torn : Store.Torn site after (Utf8.encode token) first failure

def LeavesSealed (settings : Settings) (site after : Site) (failure : Failure) : Prop :=
  (∀ place, Item.FilesAgree site.root after.root place) ∨
    ∃ text key token first copies,
      BrokenSealed settings site after failure text key token first copies

theorem storedRun_cases (registry : Registry) (site : Site) (sealed : settings.encrypt = true)
    (sixteen : outside.entropy.salt.length = Envelope.saltSize)
    (twelve : outside.entropy.nonce.length = Envelope.nonceSize) :
    (∃ failure, (storedRun registry settings outside site).1 = .error failure ∧
      LeavesSealed settings site (storedRun registry settings outside site).2 failure) ∨
    ∃ index key token first copies,
      (storedRun registry settings outside site).1 = .ok (index, []) ∧
      KeptSealed settings site (storedRun registry settings outside site).2 index key token first
        copies := by
  have unchanged (failure : Failure) : LeavesSealed settings site site failure :=
    .inl fun _ _ => Iff.rfl
  unfold storedRun
  cases rooted : rootOf site settings with
  | error fault => exact .inl ⟨_, rfl, unchanged _⟩
  | ok root =>
      dsimp only
      cases indexAt registry site settings (outside.room - 1) outside.now root with
      | error failure => exact .inl ⟨_, rfl, unchanged _⟩
      | ok made =>
          dsimp only
          split
          · exact .inl ⟨_, rfl, unchanged _⟩
          · cases paid : (storeOf site settings root).payload outside.entropy made.content with
            | error failure => exact .inl ⟨_, rfl, unchanged _⟩
            | ok content =>
                dsimp only
                have locked : (storeOf site settings root).encrypt = true := sealed
                obtain ⟨key, token, rfl, sealing⟩ :=
                  exists_sealing sealed sixteen twelve rooted paid
                rcases Store.written_cases locked site (Utf8.encode token) with
                  ⟨failure, failed, nothing | ⟨first, copies, all, named, torn⟩⟩ |
                  ⟨first, copies, all, wrote, named, changed, read⟩
                · rw [failed]
                  exact .inl ⟨_, rfl, .inl nothing.filesAgree⟩
                · rw [failed]
                  exact .inl ⟨_, rfl, .inr ⟨made.content, key, token, first, copies,
                    { sealing all with named := named, torn := torn }⟩⟩
                · rw [wrote]
                  exact .inr ⟨_, key, token, first, copies, rfl,
                    { sealing all with
                      named := named
                      output := rfl
                      written := rfl
                      changed := changed
                      kept := read }⟩

theorem storedRun_of_first (sealed : settings.encrypt = true)
    (home : hasNul (.ofText site.home) = false) (rooted : rootOf site settings = .ok root)
    {made : IndexResult}
    (indexed : indexAt registry site settings (outside.room - 1) outside.now root = .ok made)
    (known : (storeOf site settings root).isKnown = true) {content : Bytes}
    (paid : (storeOf site settings root).payload outside.entropy made.content = .ok content)
    {first : Path} (start : ((storeOf site settings root).primary site >>=
      (storeOf site settings root).target) = .ok first)
    (done : (Store.writeFile site first content).2 = .ok ()) :
    (storedRun registry settings outside site).1 = .ok (keptAt first made, []) ∧
      (storedRun registry settings outside site).2.content first = .ok content := by
  have usable := storeOf_usable settings (exists_of_indexed indexed) home
  have wrote := Store.written_of_first usable start done
  have locked : (storeOf site settings root).encrypt = true := sealed
  have kept : (storeOf site settings root).isKnown ≠ false := by
    rw [known]
    decide
  unfold storedRun
  rw [rooted]
  dsimp only
  rw [indexed]
  dsimp only
  rw [if_neg kept, paid]
  dsimp only
  rcases Store.written_cases locked site content with
    ⟨failure, failed, _⟩ | ⟨other, copies, _, whole, _, _, read⟩
  · cases wrote.symm.trans failed
  · rw [whole] at wrote ⊢
    cases wrote
    exact ⟨rfl, read⟩

/-- A run that keeps its index sealed leaks nothing. Without a key it fails and no file has changed.
When it fails with a key, no file has changed either, unless the writing of the first destination
broke off and left a beginning of what follows. When it succeeds, one text that the key opens to the
content of the index has been written to the first destination and to the copies, whose names tell
that they are sealed, and to nothing else. It succeeds once the first destination is written,
whatever becomes of the copies. The texts of the environment hold no character that a path may not
hold. -/
theorem run_keeps_sealed (registry : Registry) {settings : Settings} {outside : Surroundings}
    {site : Site} (sealed : settings.encrypt = true) (alone : settings.collection = none)
    (sixteen : outside.entropy.salt.length = Envelope.saltSize)
    (twelve : outside.entropy.nonce.length = Envelope.nonceSize)
    (home : hasNul (.ofText site.home) = false) :
    (settings.encryptionKey.getD [] = [] →
      ∃ failure, ((run registry settings outside).outcome site).1 = .error failure ∧
        ∀ place, Item.FilesAgree site.root
          ((run registry settings outside).outcome site).2.site.root place) ∧
    (∀ failure, ((run registry settings outside).outcome site).1 = .error failure →
      LeavesSealed settings site ((run registry settings outside).outcome site).2.site failure) ∧
    (∀ index calls, ((run registry settings outside).outcome site).1 = .ok (index, calls) →
      ∃ key token first copies, KeptSealed settings site
        ((run registry settings outside).outcome site).2.site index key token first copies) ∧
    ∀ root made content first, rootOf site settings = .ok root →
      (generateAt registry site settings (outside.room - 1) outside.now root).outcome.1 =
        .ok made →
      (storeOf site settings root).isKnown = true →
      (storeOf site settings root).payload outside.entropy made.content = .ok content →
      (do (storeOf site settings root).target (← (storeOf site settings root).primary site)) =
        .ok first →
      (Store.writeFile site first content).2 = .ok () →
      ((run registry settings outside).outcome site).1 = .ok (keptAt first made, []) ∧
        ((run registry settings outside).outcome site).2.site.content first = .ok content := by
  obtain ⟨answer, left⟩ := (storedRun_does registry outside alone home).outcome
  rw [answer, left]
  have ends := storedRun_cases registry site sealed sixteen twelve
  refine ⟨fun blank => ?_, fun failure failed => ?_, fun index calls done => ?_,
    fun root made content first rooted generated known paid start done => ?_⟩
  · rcases ends with
      ⟨failure, failed, unchanged | ⟨_, _, _, _, _, torn⟩⟩ | ⟨_, _, _, _, _, _, kept⟩
    · exact ⟨failure, failed, unchanged⟩
    · rw [torn.configured] at blank
      exact absurd blank torn.filled
    · rw [kept.configured] at blank
      exact absurd blank kept.filled
  · rcases ends with ⟨_, other, left⟩ | ⟨_, _, _, _, _, done, _⟩
    · cases other.symm.trans failed
      exact left
    · cases done.symm.trans failed
  · rcases ends with ⟨_, failed, _⟩ | ⟨_, key, token, first, copies, same, kept⟩
    · cases done.symm.trans failed
    · cases same.symm.trans done
      exact ⟨key, token, first, copies, kept⟩
  · have indexed : indexAt registry site settings (outside.room - 1) outside.now root =
        .ok made := by
      rw [← generated,
        (generateAt_gives registry site settings (outside.room - 1) outside.now root).outcome]
    exact storedRun_of_first sealed home rooted indexed known paid start done

def sealedSettings : Settings :=
  { notesSettings with
    encrypt := true, encryptionKey := some (points "tall ship"), store := "both" }

def sealedOutside : Surroundings :=
  { notesOutside with entropy := ⟨List.replicate 16 7, List.replicate 12 9⟩ }

theorem sealedSettings_target :
    ((storeOf notesSite sealedSettings (.ofPlace ["repo"])).primary notesSite >>=
      (storeOf notesSite sealedSettings (.ofPlace ["repo"])).target) =
        .ok (.ofPlace (["repo"] ++ [Store.directoryName] ++ ["repo_INDEX.md.enc"])) := by
  have name : indexName { sealedSettings with encrypt := false } (.ofPlace ["repo"]) =
    "repo_INDEX.md" := notesSite_indexName
  have primary : (storeOf notesSite sealedSettings (.ofPlace ["repo"])).primary notesSite =
      .ok (storeOf notesSite sealedSettings (.ofPlace ["repo"])).repositoryPath := rfl
  rw [primary, repositoryPath_storeOf, indexPath, name]
  rfl

theorem notesSite_keeps_sealed :
    sealedSettings.encrypt = true ∧ sealedSettings.collection = none ∧
    sealedOutside.entropy.salt.length = Envelope.saltSize ∧
    sealedOutside.entropy.nonce.length = Envelope.nonceSize ∧
    hasNul (.ofText notesSite.home) = false ∧
    ∃ index token,
      ((run Registry.standard sealedSettings sealedOutside).outcome notesSite).1 =
        .ok (index, []) ∧
      index.outputPath = some "/repo/.codeindex/repo_INDEX.md.enc" ∧
      ((run Registry.standard sealedSettings sealedOutside).outcome notesSite).2.site.content
        (.ofPlace ["repo", ".codeindex", "repo_INDEX.md.enc"]) = .ok (Utf8.encode token) ∧
      Envelope.reveal (points "tall ship") token = .ok (Utf8.encode index.content) := by
  have locked : sealedSettings.encrypt = true := rfl
  have alone : sealedSettings.collection = none := rfl
  have sixteen : sealedOutside.entropy.salt.length = Envelope.saltSize := rfl
  have twelve : sealedOutside.entropy.nonce.length = Envelope.nonceSize := rfl
  have home : hasNul (.ofText notesSite.home) = false := by decide
  obtain ⟨_, _, done, first⟩ :=
    run_keeps_sealed Registry.standard locked alone sixteen twelve home
  obtain ⟨scan, scanned, _, nothing⟩ := notesSite_scan
  have clean : ∀ entry ∈ scan.candidates,
      hasNul ((Path.ofPlace ["repo"]).child entry.path) = false := by
    rw [nothing]
    exact fun _ => nofun
  obtain ⟨full, attached⟩ := exists_withSymbols 990 notesSite [Profiles.go] clean
  have generated := (generateAt_gives Registry.standard notesSite sealedSettings 990
    sealedOutside.now (.ofPlace ["repo"])).outcome.trans
      (notesSettings_indexed notesSite_found scanned attached)
  generalize resultOf _ _ _ _ _ _ = made at generated
  have fits : Fits (.ofPlace (["repo"] ++ [Store.directoryName] ++ ["repo_INDEX.md.enc"])) :=
    ⟨by decide, by decide, by decide⟩
  have wrote (content : Bytes) : (Store.writeFile notesSite
      (.ofPlace (["repo"] ++ [Store.directoryName] ++ ["repo_INDEX.md.enc"])) content).2 =
        .ok () := by
    rw [Site.writeFile_absent fits (by decide) notesSite_found rfl (by rintro _ ⟨⟩) rfl]
  have given : (storeOf notesSite sealedSettings (.ofPlace ["repo"])).key =
      some (points "tall ship") := rfl
  obtain ⟨content, paid⟩ :=
    Store.exists_payload locked given (by decide) (by decide) sealedOutside.entropy made.content
  obtain ⟨ran, _⟩ := first (.ofPlace ["repo"]) made content _ notesSite_rooted generated rfl paid
    sealedSettings_target (wrote content)
  obtain ⟨key, token, path, copies, kept⟩ := done _ _ ran
  cases kept.configured
  have same : path = .ofPlace (["repo"] ++ [Store.directoryName] ++ ["repo_INDEX.md.enc"]) := by
    obtain ⟨root, rooted, all⟩ := kept.targets
    cases rooted.symm.trans notesSite_rooted
    obtain ⟨chosen, _, primary, found, _⟩ := Store.exists_of_targets all
    have start := sealedSettings_target
    rw [primary] at start
    exact Except.ok.inj (found.symm.trans start)
  refine ⟨locked, alone, sixteen, twelve, home, _, token, ran, rfl, ?_, kept.opened⟩
  have read := kept.kept
  rw [same] at read
  exact read

end Indexing

end SourceAtlas
