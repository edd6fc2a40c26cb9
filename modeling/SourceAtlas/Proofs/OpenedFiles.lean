import SourceAtlas.Proofs.CommandEnds
import SourceAtlas.Proofs.SealedText
import SourceAtlas.Proofs.SettingsRoot

/-!
What becomes of a sealed file that is to be opened. Its content is printed or written, or it is
refused with a message, or a failure goes through to the end of the program; but for the content
that is written, or the beginning of it where the writing breaks off, no file changes.
-/
namespace SourceAtlas

open Text

namespace Site
variable {site : Site} {path : Path} {content : Bytes}

theorem parent_of_unnamed (unnamed : path.names = []) : path.parent = path := by
  rw [Path.parent, unnamed]
  exact congrArg (Path.mk path.root) unnamed.symm

theorem named_of_makeDirectory {after : Site} (made : site.makeDirectory path = .ok after) :
    path.names ≠ [] := by
  intro unnamed
  unfold makeDirectory at made
  rw [parent_of_unnamed unnamed] at made
  split at made
  · cases made
  next absent =>
    split at made
    · cases made
    next above =>
      obtain ⟨other, located⟩ := exists_itself (locate_of_place above)
      cases located.symm.trans (locate_of_missing absent)
  · cases made

theorem makeDirectoriesFrom_unnamed (unnamed : path.names = []) (fuel : Nat) :
    (makeDirectoriesFrom fuel site path).1 = site ∧
      ((makeDirectoriesFrom fuel site path).2 = .ok () → site.isDirectory? path = .ok true) := by
  fun_cases makeDirectoriesFrom fuel site path
  case case1 made => exact absurd unnamed (named_of_makeDirectory made)
  case case3 | case4 | case5 | case6 | case7 | case8 =>
    exact absurd (List.isEmpty_iff.mpr unnamed) ‹¬path.names.isEmpty = true›
  case case10 there _ _ => exact ⟨rfl, fun _ => there⟩
  case case2 | case9 | case11 | case12 => exact ⟨rfl, nofun⟩

theorem makeDirectories_unnamed (unnamed : path.names = []) :
    (site.makeDirectories path).1 = site ∧
      ((site.makeDirectories path).2 = .ok () → site.isDirectory? path = .ok true) := by
  unfold makeDirectories
  by_cases there : site.isDirectory? path = .ok true
  · simp [there]
  · split
    · exact ⟨rfl, fun _ => by simp_all⟩
    · exact makeDirectoriesFrom_unnamed unnamed _

theorem write_directory (there : site.isDirectory? path = .ok true) (content : Bytes) :
    ∃ error, site.write path content = (site, .error (.os error)) := by
  obtain ⟨_, place, entries, placed, found⟩ := place_of_isDirectory there
  unfold write
  cases made : site.place .toMake path with
  | error error => exact ⟨error, rfl⟩
  | ok other =>
      obtain ⟨_, first⟩ := exists_way Reach.noConfusion (locate_of_place placed)
      obtain ⟨_, second⟩ := exists_way Reach.noConfusion (locate_of_place made)
      obtain ⟨_, rfl⟩ := first.unique second
      simp only [found]
      exact ⟨_, rfl⟩

theorem writeFile_unnamed (unnamed : path.names = []) (site : Site) (content : Bytes) :
    ∃ fault, Store.writeFile site path content = (site, .error fault) ∧
      ∀ cut, fault ≠ .cut cut := by
  have unmade : (site.makeDirectories path).1 = site ∧ _ := makeDirectories_unnamed unnamed
  obtain ⟨stays, present⟩ := unmade
  have clean : hasNul path = false := by rw [hasNul, unnamed]; rfl
  unfold Store.writeFile
  rw [parent_of_unnamed unnamed, clean]
  cases made : site.makeDirectories path with
  | mk after result =>
      rw [made] at stays present
      obtain rfl : after = site := stays
      cases result with
      | error error => exact ⟨_, rfl, by simp⟩
      | ok _ =>
          obtain ⟨error, failed⟩ := write_directory (present rfl) content
          simp only [Bool.false_eq_true, if_false, failed]
          exact ⟨_, rfl, by simp⟩

theorem writeFile_cases (site : Site) (path : Path) (content : Bytes) :
    (∃ place held, site.holding? place content = some held ∧
        (Store.writeFile site path content).2 = site.ending place ∧
        (Store.writeFile site path content).1.place .existing path = .ok place ∧
        (Store.writeFile site path content).1.root.get? place = some (.file held) ∧
        Wrote site (Store.writeFile site path content).1 [path] content) ∨
      (∃ fault, (Store.writeFile site path content).2 = .error fault ∧ ∀ cut, fault ≠ .cut cut) ∧
        Wrote site (Store.writeFile site path content).1 [] content := by
  by_cases named : path.names = []
  · obtain ⟨fault, failed, whole⟩ := writeFile_unnamed named site content
    rw [failed]
    exact .inr ⟨⟨fault, rfl, whole⟩, .refl _ _ _⟩
  · exact writeFile_wrote named site content

theorem content_of_writeFile (done : (Store.writeFile site path content).2 = .ok ()) :
    Wrote site (Store.writeFile site path content).1 [path] content ∧
      (Store.writeFile site path content).1.content path = .ok content := by
  rcases writeFile_cases site path content with
    ⟨place, held, holds, ending, placed, found, wrote⟩ | ⟨⟨fault, failed, _⟩, _⟩
  · cases holding_of_ending holds (ending.symm.trans done)
    exact ⟨wrote, content_eq_ok.mpr ⟨place, placed, found⟩⟩
  · cases done.symm.trans failed

theorem writeFile_frame (site : Site) (path : Path) (content : Bytes) :
    Wrote site (Store.writeFile site path content).1 [path] content := by
  rcases writeFile_cases site path content with ⟨_, _, _, _, _, _, wrote⟩ | ⟨_, nothing⟩
  · exact wrote
  · exact nothing.mono (List.nil_subset _)

theorem writeFile_unopened {fault : WriteFault}
    (failed : (Store.writeFile site path content).2 = .error fault)
    (unopened : ∀ cut, fault ≠ .cut cut) :
    Wrote site (Store.writeFile site path content).1 [] content := by
  rcases writeFile_cases site path content with ⟨place, _, _, ending, _⟩ | ⟨_, nothing⟩
  · rw [failed, Site.ending] at ending
    split at ending
    · exact absurd (Except.error.inj ending) (unopened _)
    · cases ending
  · exact nothing

end Site

namespace CommandLine

theorem writeOpened_outcome (output : String) (content : Bytes) (site : Site) :
    (writeOpened output content).outcome site =
      match site.expandHome (.ofText output) with
      | .error fault => (.error (.path fault), ⟨site, []⟩)
      | .ok target =>
          (match (Store.writeFile site target content).2 with
            | .ok () => .ok (.printed
                ("Decrypted index written to " ++ shownPath site target ++ "\n"))
            | .error fault => .error (.ofWrite fault),
            ⟨(Store.writeFile site target content).1, []⟩) := by
  have here : Act.site.outcome site = (.ok site, ⟨site, []⟩) := rfl
  unfold writeOpened
  rw [Act.outcome_of_ok here]
  cases site.expandHome (.ofText output) with
  | error fault =>
      have lost : (Store.ofPath (.error fault) : Act Path).outcome site =
        (.error (.path fault), ⟨site, []⟩) := rfl
      rw [Act.outcome_of_error lost]
  | ok target =>
      have expanded : (Store.ofPath (.ok target)).outcome site =
        (.ok target, ⟨site, []⟩) := rfl
      rw [Act.outcome_of_ok expanded, Act.outcome_of_ok here]
      dsimp only
      have working := Site.exists_withRoot_of_writeFile site target content
      generalize Store.writeFile site target content = written at working ⊢
      obtain ⟨after, result⟩ := written
      obtain ⟨root, rfl⟩ := working
      cases result with
      | ok done => rfl
      | error fault => rfl

theorem decrypt_outcome (key : Option Points) (file : String) (output : Option String)
    (site : Site) :
    (decrypt key file output).outcome site =
      match key.filter (!·.isEmpty) with
      | none => (.ok (.refused ("$" ++ keyVariable ++ " must be set to decrypt")), ⟨site, []⟩)
      | some passphrase =>
          match openSealed site passphrase (.ofText file) with
          | .error failure => (.error failure, ⟨site, []⟩)
          | .ok (.error message) => (.ok (.refused message), ⟨site, []⟩)
          | .ok (.ok content) =>
              match output with
              | some target => (writeOpened target content).outcome site
              | none =>
                  match Utf8.decode content with
                  | .ok text => (.ok (.printed text), ⟨site, []⟩)
                  | .error fault => (.error (.notText fault), ⟨site, []⟩) := by
  have here : Act.site.outcome site = (.ok site, ⟨site, []⟩) := rfl
  unfold decrypt
  cases key.filter (!·.isEmpty) with
  | none => rfl
  | some passphrase =>
      dsimp only
      rw [Act.outcome_of_ok here]
      cases openSealed site passphrase (.ofText file) with
      | error failure => rfl
      | ok opened =>
          rcases opened with message | content
          · rfl
          · cases output with
            | some target => rfl
            | none =>
                dsimp only
                cases Utf8.decode content with
                | ok text => rfl
                | error fault => rfl

theorem passphrase_eq_some {key : Option Points} {passphrase : Points} :
    key.filter (!·.isEmpty) = some passphrase ↔ key = some passphrase ∧ passphrase ≠ [] := by
  simp [Option.filter_eq_some_iff]

theorem passphrase_eq_none {key : Option Points} :
    key.filter (!·.isEmpty) = none ↔ ∀ passphrase, key = some passphrase → passphrase = [] := by
  simp [Option.filter_eq_none_iff]

def Opens (site : Site) (key : Option Points) (file : String) (content : Bytes) : Prop :=
  ∃ (passphrase : Points) (data : Bytes),
    key = some passphrase ∧ passphrase ≠ [] ∧ hasNul (.ofText file) = false ∧
    site.read (.ofText file) = .ok data ∧ Envelope.revealBytes passphrase data = .ok content

inductive Refuses (site : Site) (key : Option Points) (file : String) : String → Prop
  | keyless : (∀ passphrase, key = some passphrase → passphrase = []) →
      Refuses site key file ("$" ++ keyVariable ++ " must be set to decrypt")
  | missing {passphrase : Points} {error : OsError} : key = some passphrase → passphrase ≠ [] →
      hasNul (.ofText file) = false → site.read (.ofText file) = .error error →
      error.fault = .missing → Refuses site key file error.message
  | unopened {passphrase : Points} {data : Bytes} {fault : Envelope.Fault} :
      key = some passphrase → passphrase ≠ [] → hasNul (.ofText file) = false →
      site.read (.ofText file) = .ok data → Envelope.revealBytes passphrase data = .error fault →
      (∀ lost, fault ≠ .passphrase lost) → Refuses site key file fault.message

/-- No message is laid down for what happens. -/
inductive Escapes (site : Site) (key : Option Points) (file : String) (output : Option String) :
    Failure → Prop
  | unnamed {passphrase : Points} : key = some passphrase → passphrase ≠ [] →
      hasNul (.ofText file) = true → Escapes site key file output (.path .embeddedNul)
  | unread {passphrase : Points} {error : OsError} : key = some passphrase → passphrase ≠ [] →
      hasNul (.ofText file) = false → site.read (.ofText file) = .error error →
      error.fault ≠ .missing → Escapes site key file output (.os error)
  | unencodable {passphrase : Points} {data : Bytes} {lost : Utf8.EncodeFault} :
      key = some passphrase → passphrase ≠ [] → hasNul (.ofText file) = false →
      site.read (.ofText file) = .ok data →
      Envelope.revealBytes passphrase data = .error (.passphrase lost) →
      Escapes site key file output (.passphrase lost)
  | notText {content : Bytes} {fault : Utf8.Fault} : Opens site key file content →
      output = none → Utf8.decode content = .error fault →
      Escapes site key file output (.notText fault)
  | homeless {content : Bytes} {target : String} {fault : PathFault} :
      Opens site key file content → output = some target →
      site.expandHome (.ofText target) = .error fault →
      Escapes site key file output (.path fault)
  | unwritten {content : Bytes} {target : String} {path : Path} {fault : WriteFault} :
      Opens site key file content → output = some target →
      site.expandHome (.ofText target) = .ok path →
      (Store.writeFile site path content).2 = .error fault →
      Escapes site key file output (.ofWrite fault)

variable {site : Site} {key : Option Points} {file : String} {output : Option String}

theorem decrypt_of_opens {content : Bytes} (opens : Opens site key file content)
    (output : Option String) :
    (decrypt key file output).outcome site =
      match output with
      | some target => (writeOpened target content).outcome site
      | none =>
          match Utf8.decode content with
          | .ok text => (.ok (.printed text), ⟨site, []⟩)
          | .error fault => (.error (.notText fault), ⟨site, []⟩) := by
  obtain ⟨passphrase, data, given, filled, clean, read, revealed⟩ := opens
  have opened : openSealed site passphrase (.ofText file) = .ok (.ok content) := by
    rw [openSealed, clean, read]
    simp only [Bool.false_eq_true, if_false, revealed]
  rw [decrypt_outcome, passphrase_eq_some.mpr ⟨given, filled⟩]
  dsimp only
  rw [opened]

theorem decrypt_of_refuses {message : String} (refuses : Refuses site key file message) :
    (decrypt key file output).outcome site = (.ok (.refused message), ⟨site, []⟩) := by
  rw [decrypt_outcome]
  cases refuses with
  | keyless unset => rw [passphrase_eq_none.mpr unset]
  | @missing passphrase error given filled clean failed absent =>
      have unopened : openSealed site passphrase (.ofText file) = .ok (.error error.message) := by
        rw [openSealed, clean, failed]
        simp only [Bool.false_eq_true, if_false, absent]
        rfl
      rw [passphrase_eq_some.mpr ⟨given, filled⟩]
      dsimp only
      rw [unopened]
  | @unopened passphrase data fault given filled clean read wrong encodable =>
      have unopened : openSealed site passphrase (.ofText file) = .ok (.error fault.message) := by
        rw [openSealed, clean, read]
        simp only [Bool.false_eq_true, if_false, wrong]
      rw [passphrase_eq_some.mpr ⟨given, filled⟩]
      dsimp only
      rw [unopened]

/-- What has changed when nothing is printed: no file, or where the writing of the content broke off
the one that its path leads to. -/
inductive Spared (before after : Site) (key : Option Points) (file : String)
    (output : Option String) (failure : Failure) : Prop
  | whole (same : ∀ place, Item.FilesAgree before.root after.root place)
  | broken {content : Bytes} {target : String} {path : Path} {fault : OsFault}
      (isFault : failure = .brokenOff fault) (opens : Opens before key file content)
      (asked : output = some target) (home : before.expandHome (.ofText target) = .ok path)
      (wrote : Wrote before after [path] content)

theorem decrypt_of_unwritten {content : Bytes} {target : String} {path : Path}
    (opens : Opens site key file content) (asked : output = some target)
    (home : site.expandHome (.ofText target) = .ok path) {fault : WriteFault}
    (failed : (Store.writeFile site path content).2 = .error fault) :
    ∃ after, (decrypt key file output).outcome site = (.error (.ofWrite fault), ⟨after, []⟩) ∧
      Spared site after key file output (.ofWrite fault) := by
  rw [decrypt_of_opens opens, asked]
  dsimp only
  rw [writeOpened_outcome, home]
  dsimp only
  rw [failed]
  refine ⟨_, rfl, ?_⟩
  cases fault with
  | cut fault => exact .broken rfl opens rfl home (Site.writeFile_frame site path content)
  | os error => exact .whole (Site.writeFile_unopened failed (by simp)).filesAgree
  | path fault => exact .whole (Site.writeFile_unopened failed (by simp)).filesAgree

theorem decrypt_of_escapes {failure : Failure} (escapes : Escapes site key file output failure) :
    ∃ after, (decrypt key file output).outcome site = (.error failure, ⟨after, []⟩) ∧
      Spared site after key file output failure := by
  have kept {failure : Failure} : Spared site site key file output failure :=
    .whole fun _ _ => Iff.rfl
  cases escapes with
  | @unnamed passphrase given filled clean =>
      have barred : openSealed site passphrase (.ofText file) = .error (.path .embeddedNul) := by
        rw [openSealed, clean, if_pos rfl]
      refine ⟨site, ?_, kept⟩
      rw [decrypt_outcome, passphrase_eq_some.mpr ⟨given, filled⟩]
      dsimp only
      rw [barred]
  | @unread passphrase error given filled clean failed other =>
      have barred : openSealed site passphrase (.ofText file) = .error (.os error) := by
        have differs : (error.fault == .missing) = false := by
          cases kind : error.fault <;> first | rfl | exact absurd kind other
        rw [openSealed, clean, failed]
        simp only [Bool.false_eq_true, if_false, differs]
      refine ⟨site, ?_, kept⟩
      rw [decrypt_outcome, passphrase_eq_some.mpr ⟨given, filled⟩]
      dsimp only
      rw [barred]
  | @unencodable passphrase data lost given filled clean read wrong =>
      have barred : openSealed site passphrase (.ofText file) = .error (.passphrase lost) := by
        rw [openSealed, clean, read]
        simp only [Bool.false_eq_true, if_false, wrong]
      refine ⟨site, ?_, kept⟩
      rw [decrypt_outcome, passphrase_eq_some.mpr ⟨given, filled⟩]
      dsimp only
      rw [barred]
  | notText opens without failed =>
      refine ⟨site, ?_, kept⟩
      rw [decrypt_of_opens opens, without]
      dsimp only
      rw [failed]
  | homeless opens asked lost =>
      refine ⟨site, ?_, kept⟩
      rw [decrypt_of_opens opens, asked]
      dsimp only
      rw [writeOpened_outcome, lost]
  | unwritten opens asked home failed => exact decrypt_of_unwritten opens asked home failed

theorem opens_cases (site : Site) (key : Option Points) (file : String) (output : Option String) :
    (∃ content, Opens site key file content) ∨ (∃ message, Refuses site key file message) ∨
      ∃ failure, Escapes site key file output failure := by
  cases armed : key.filter (!·.isEmpty) with
  | none => exact .inr (.inl ⟨_, .keyless (passphrase_eq_none.mp armed)⟩)
  | some passphrase =>
      obtain ⟨given, filled⟩ := passphrase_eq_some.mp armed
      cases clean : hasNul (.ofText file) with
      | true => exact .inr (.inr ⟨_, .unnamed given filled clean⟩)
      | false =>
          cases read : site.read (.ofText file) with
          | error error =>
              by_cases absent : error.fault = .missing
              · exact .inr (.inl ⟨_, .missing given filled clean read absent⟩)
              · exact .inr (.inr ⟨_, .unread given filled clean read absent⟩)
          | ok data =>
              cases revealed : Envelope.revealBytes passphrase data with
              | error fault =>
                  by_cases encodable : ∀ lost, fault ≠ .passphrase lost
                  · exact .inr (.inl ⟨_, .unopened given filled clean read revealed encodable⟩)
                  · obtain ⟨lost, same⟩ := not_forall.mp encodable
                    rw [not_not.mp same] at revealed
                    exact .inr (.inr ⟨_, .unencodable given filled clean read revealed⟩)
              | ok content =>
                  exact .inl ⟨content, passphrase, data, given, filled, clean, read, revealed⟩

theorem decrypt_cases (key : Option Points) (file : String) (output : Option String)
    (site : Site) :
    (∃ content text, Opens site key file content ∧ output = none ∧ Utf8.encode text = content ∧
      (decrypt key file output).outcome site = (.ok (.printed text), ⟨site, []⟩)) ∨
    (∃ content target path after, Opens site key file content ∧ output = some target ∧
      site.expandHome (.ofText target) = .ok path ∧
      (decrypt key file output).outcome site = (.ok (.printed
        ("Decrypted index written to " ++ shownPath site path ++ "\n")), ⟨after, []⟩) ∧
      after.content path = .ok content ∧ Wrote site after [path] content) ∨
    (∃ message, Refuses site key file message) ∨
    ∃ failure, Escapes site key file output failure := by
  rcases opens_cases site key file output with ⟨content, opens⟩ | stopped
  · rw [decrypt_of_opens opens]
    cases output with
    | none =>
        cases decoded : Utf8.decode content with
        | ok text => exact .inl ⟨content, text, opens, rfl, Utf8.encode_of_decode decoded, rfl⟩
        | error fault => exact .inr (.inr (.inr ⟨_, .notText opens rfl decoded⟩))
    | some target =>
        dsimp only
        cases home : site.expandHome (.ofText target) with
        | error fault => exact .inr (.inr (.inr ⟨_, .homeless opens rfl home⟩))
        | ok path =>
            cases done : (Store.writeFile site path content).2 with
            | ok _ =>
                obtain ⟨wrote, holds⟩ := Site.content_of_writeFile done
                refine .inr (.inl ⟨content, target, path, _, opens, rfl, home, ?_, holds, wrote⟩)
                rw [writeOpened_outcome, home]
                dsimp only
                rw [done]
            | error fault => exact .inr (.inr (.inr ⟨_, .unwritten opens rfl home done⟩))
  · exact .inr (.inr stopped)

/-- How a command to open a file ends, over all sites, files and outputs. What is printed is exactly
the content, and what is written is exactly the content and changes no other file. Otherwise there
is a refusal, which leaves the site as it is, or a failure that leaves the program and changes no
file, unless the writing of the content broke off: then its path leads to a beginning of it. -/
theorem opening_ends {arguments : List String} {verbose : Bool} {file : String}
    {output : Option String}
    (read : Invocation.read arguments = .ok ⟨verbose, .decrypt file output⟩)
    (registry : Registry) (outside : Surroundings) (key : Option Points) (site : Site) :
    let finished := run registry outside key site arguments
    ((∃ content text, Opens site key file content ∧ output = none ∧ Utf8.encode text = content ∧
        finished.ending = .ok (.printed text) ∧ finished.site = site) ∨
      (∃ content target path, Opens site key file content ∧ output = some target ∧
        site.expandHome (.ofText target) = .ok path ∧
        finished.ending = .ok (.printed
          ("Decrypted index written to " ++ shownPath site path ++ "\n")) ∧
        finished.site.content path = .ok content ∧ Wrote site finished.site [path] content) ∨
      (∃ message, Refuses site key file message) ∨
      ∃ failure, Escapes site key file output failure) ∧
    (∀ message, Refuses site key file message →
      finished.ending = .ok (.refused message) ∧ finished.site = site) ∧
    ∀ failure, Escapes site key file output failure →
      finished.ending = .error failure ∧ Spared site finished.site key file output failure := by
  dsimp only
  obtain ⟨ending, left⟩ := run_of_read read registry outside key site
  rw [ending, left, Invocation.run]
  dsimp only
  refine ⟨?_, fun message refuses => ?_, fun failure escapes => ?_⟩
  · rcases decrypt_cases key file output site with ⟨content, text, opens, without, same, ends⟩ |
      ⟨content, target, path, after, opens, asked, home, ends, reads, wrote⟩ | stopped
    · rw [ends]
      exact .inl ⟨content, text, opens, without, same, rfl, rfl⟩
    · rw [ends]
      exact .inr (.inl ⟨content, target, path, opens, asked, home, rfl, reads, wrote⟩)
    · exact .inr (.inr stopped)
  · rw [decrypt_of_refuses refuses]
    exact ⟨rfl, rfl⟩
  · obtain ⟨after, ends, same⟩ := decrypt_of_escapes escapes
    rw [ends]
    exact ⟨rfl, same⟩

def harbourSite : Site where
  root := .directory [
    ("note", .file (Utf8.encode (Envelope.carrying (List.replicate 16 7 ++ List.replicate 12 9 ++
      Cipher.Gcm.encrypt (Digest.stretch (Utf8.encode "tall ship") (List.replicate 16 7)
        Envelope.iterations) (List.replicate 12 9) (Utf8.encode "naïve"))))),
    ("drawer", .directory [])]

theorem harbourSite_opens :
    Opens harbourSite (some (points "tall ship")) "/note" (Utf8.encode "naïve") := by
  have path : Path.ofText "/note" = .ofPlace ([] ++ ["note"]) := by decide
  have nothing : "".toList.all isBlank = true := rfl
  have sixteen : (List.replicate 16 (7 : UInt8)).length = Envelope.saltSize := rfl
  have twelve : (List.replicate 12 (9 : UInt8)).length = Envelope.nonceSize := rfl
  have stretched : Envelope.keyOf (points "tall ship") (List.replicate 16 7) =
      .ok (Digest.stretch (Utf8.encode "tall ship") (List.replicate 16 7) Envelope.iterations) := by
    rw [Envelope.keyOf, Utf8.encodePoints_points]
    rfl
  have bare := Envelope.reveal_around stretched sixteen twelve (Utf8.encode "naïve") nothing nothing
  refine ⟨points "tall ship", _, rfl, by decide, by decide, ?_,
    (Envelope.revealBytes_encode _ _).trans bare⟩
  rw [path, String.empty_append, String.append_empty]
  exact Site.read_file ⟨by decide, by decide, by decide⟩ (by decide) rfl rfl rfl

theorem harbourSite_ends :
    (run .standard stillSurroundings (some (points "tall ship")) harbourSite
      ["decrypt", "/note"]).ending = .ok (.printed "naïve") ∧
    (run .standard stillSurroundings none harbourSite ["decrypt", "/note"]).ending =
      .ok (.refused "$CODEINDEX_ENCRYPTION_KEY must be set to decrypt") ∧
    (run .standard stillSurroundings (some (points "tall ship")) harbourSite
      ["decrypt", "/drawer"]).ending = .error (.os ⟨.isDirectory, "/drawer"⟩) := by
  have note : Invocation.read ["decrypt", "/note"] = .ok ⟨false, .decrypt "/note" none⟩ := rfl
  have drawer : Invocation.read ["decrypt", "/drawer"] = .ok ⟨false, .decrypt "/drawer" none⟩ := rfl
  have path : Path.ofText "/drawer" = .ofPlace ["drawer"] := by decide
  have refused : harbourSite.read (.ofText "/drawer") = .error ⟨.isDirectory, "/drawer"⟩ := by
    have fits : Fits (.ofPlace ["drawer"]) := ⟨by decide, by decide, by decide⟩
    have found : harbourSite.root.get? ["drawer"] = some (.directory []) := rfl
    have readable : harbourSite.isUnreadable (.ofPlace ["drawer"]) = false := by
      unfold Site.isUnreadable
      split
      · rfl
      · rfl
    rw [path, Site.read, readable, Site.content, Site.item_directory fits (by decide) found]
    rfl
  have decoded : Utf8.decode (Utf8.encode "naïve") = .ok "naïve" :=
    toOption_eq_some.mp (by decide +kernel)
  obtain ⟨printed, _⟩ := run_of_read note .standard stillSurroundings (some (points "tall ship"))
    harbourSite
  obtain ⟨_, unkeyed, _⟩ := opening_ends note .standard stillSurroundings none harbourSite
  obtain ⟨_, _, escapes⟩ := opening_ends drawer .standard stillSurroundings
    (some (points "tall ship")) harbourSite
  refine ⟨?_, (unkeyed _ (.keyless (by rintro _ ⟨⟩))).1,
    (escapes _ (.unread rfl (by decide) (by decide) refused (by rintro ⟨⟩))).1⟩
  rw [printed, Invocation.run]
  dsimp only
  rw [decrypt_of_opens harbourSite_opens]
  dsimp only
  rw [decoded]

end CommandLine

end SourceAtlas
