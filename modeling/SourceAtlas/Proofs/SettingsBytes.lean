import SourceAtlas.Proofs.CoercedSettings
import SourceAtlas.Proofs.CommandEnds

/-!
The settings that the bytes of a file give, whatever they are. A document that does not parse or is
no mapping is refused with a message. Bytes that are no text, scalars that spell nothing of their
kind, and integers too long to be written are not refused but spoil the run: the failure goes
through to the end of the program.
-/
namespace SourceAtlas.Settings

open Text
open Yaml (Value)

inductive Refused (content : Bytes) : SettingsFault → Prop
  | malformed {text : String} : Utf8.decode content = .ok text →
      (strip (universalLines text)).isEmpty = false →
      Yaml.load (universalLines text) = .error .malformed →
      Refused content (.document .malformed)
  | notAMapping {text : String} {v : Value} : Utf8.decode content = .ok text → Reads text v →
      v.isSomething = true → (∀ entries, v ≠ .mapping entries) → Refused content .notAMapping

inductive Spoilt (content : Bytes) : SettingsFault → Prop
  | encoding {fault : Utf8.Fault} : Utf8.decode content = .error fault →
      Spoilt content (.encoding fault)
  | document {text : String} {fault : Yaml.Fault} : Utf8.decode content = .ok text →
      (strip (universalLines text)).isEmpty = false →
      Yaml.load (universalLines text) = .error fault → fault ≠ .malformed →
      Spoilt content (.document fault)
  | numeral {text : String} {entries : List (Value × Value)} : Utf8.decode content = .ok text →
      Reads text (.mapping entries) → SomeUnwritable (asked entries) →
      Spoilt content (.numeral .tooLong)

variable {content : Bytes} {fault : SettingsFault}

theorem Refused.kind (refused : Refused content fault) : fault.kind = .configuration := by
  cases refused with
  | malformed => rfl
  | notAMapping => rfl

theorem Spoilt.kind (spoilt : Spoilt content fault) : fault.kind ≠ .configuration := by
  cases spoilt with
  | encoding => exact FailureKind.noConfusion
  | @document _ problem _ _ _ other =>
      cases problem with
      | malformed => exact absurd rfl other
      | _ => exact FailureKind.noConfusion
  | numeral => exact FailureKind.noConfusion

theorem ofBytes_of_document (root : Path) {text : String} {fault : Yaml.Fault}
    (decoded : Utf8.decode content = .ok text)
    (written : (strip (universalLines text)).isEmpty = false)
    (failed : Yaml.load (universalLines text) = .error fault) :
    ofBytes root content = .error (.document fault) := by
  rw [ofBytes, decoded]
  dsimp only
  rw [if_neg (Bool.eq_false_iff.mp written), failed]

theorem ofBytes_of_refused (root : Path) (refused : Refused content fault) :
    ofBytes root content = .error fault := by
  cases refused with
  | malformed decoded written failed => exact ofBytes_of_document root decoded written failed
  | notAMapping decoded reads something other =>
      rw [ofBytes_of_reads root decoded reads, ofValue_notAMapping root something other]

theorem ofBytes_of_spoilt (root : Path) (spoilt : Spoilt content fault) :
    ofBytes root content = .error fault := by
  cases spoilt with
  | encoding failed => rw [ofBytes, failed]
  | document decoded written failed _ => exact ofBytes_of_document root decoded written failed
  | numeral decoded reads long =>
      rw [ofBytes_of_reads root decoded reads, ofValue_mapping, (ofEntries_fails root _).1 long]

theorem ofBytes_cases (root : Path) (content : Bytes) :
    (∃ fault, Refused content fault) ∨ (∃ fault, Spoilt content fault) ∨
      ∃ settings, ofBytes root content = .ok settings ∧ settings.root = root ∧
        settings.Sound := by
  cases decoded : Utf8.decode content with
  | error fault => exact .inr (.inl ⟨_, .encoding decoded⟩)
  | ok text =>
      have valued {v : Value} (reads : Reads text v) :
          (∃ fault, Refused content fault) ∨ (∃ fault, Spoilt content fault) ∨
            ∃ settings, ofBytes root content = .ok settings ∧ settings.root = root ∧
              settings.Sound := by
        rw [ofBytes_of_reads root decoded reads]
        rcases ofValue_cases root v with ⟨something, other, _⟩ | ⟨entries, rfl, long, _⟩ |
          ⟨_, _, settings, given⟩
        · exact .inl ⟨_, .notAMapping decoded reads something other⟩
        · exact .inr (.inl ⟨_, .numeral decoded reads long⟩)
        · exact .inr (.inr ⟨settings, given⟩)
      cases blank : (strip (universalLines text)).isEmpty with
      | true => exact valued (.blank blank)
      | false =>
          cases loaded : Yaml.load (universalLines text) with
          | ok v => exact valued (.document blank loaded)
          | error fault =>
              by_cases malformed : fault = .malformed
              · subst malformed
                exact .inl ⟨_, .malformed decoded blank loaded⟩
              · exact .inr (.inl ⟨_, .document decoded blank loaded malformed⟩)

theorem ofBytes_error_iff (root : Path) :
    ofBytes root content = .error fault ↔ Refused content fault ∨ Spoilt content fault := by
  constructor
  · intro failed
    rcases ofBytes_cases root content with ⟨other, refused⟩ | ⟨other, spoilt⟩ | ⟨_, done, _⟩
    · cases failed.symm.trans (ofBytes_of_refused root refused)
      exact .inl refused
    · cases failed.symm.trans (ofBytes_of_spoilt root spoilt)
      exact .inr spoilt
    · cases failed.symm.trans done
  · rintro (refused | spoilt)
    · exact ofBytes_of_refused root refused
    · exact ofBytes_of_spoilt root spoilt

open CommandLine

theorem beq_configuration (kind : FailureKind) :
    (kind == .configuration) = decide (kind = .configuration) := by
  cases kind <;> rfl

theorem generate_fails_iff {site : Site} {options : GenerateOptions} {directory : Path}
    (home : site.expandHome (.ofText options.path) = .ok directory)
    (there : site.isDirectory? directory = .ok true) (registry : Registry)
    (outside : Surroundings) (key : Option Points) (verbose : Bool) (failure : Failure) :
    ((generate registry outside key verbose options).outcome site).1 = .error failure ↔
      ∃ fault, load site (.ofText options.path) = .error fault ∧ fault.kind ≠ .configuration ∧
        failure = .settings fault := by
  rw [generate_outcome, home]
  dsimp only
  rw [there]
  dsimp only
  cases load site (.ofText options.path) with
  | error fault =>
      simp only [beq_configuration, decide_eq_true_eq]
      split
      next known =>
        refine iff_of_false nofun ?_
        rintro ⟨_, ⟨⟩, unknown, _⟩
        exact unknown known
      next unknown =>
        constructor
        · rintro ⟨⟩
          exact ⟨fault, rfl, unknown, rfl⟩
        · rintro ⟨_, ⟨⟩, _, rfl⟩
          rfl
  | ok settings =>
      refine iff_of_false ?_ nofun
      dsimp only
      split
      · nofun
      · intro failed
        obtain ⟨ending, done⟩ := makeIndex_ok registry outside options.toStdout
          (options.applyTo verbose (key.filter (!·.isEmpty)) settings) site
        cases failed.symm.trans done

theorem generate_refuses {site : Site} {options : GenerateOptions} {directory : Path}
    (home : site.expandHome (.ofText options.path) = .ok directory)
    (there : site.isDirectory? directory = .ok true) {fault : SettingsFault}
    (failed : load site (.ofText options.path) = .error fault)
    (known : fault.kind = .configuration) (registry : Registry) (outside : Surroundings)
    (key : Option Points) (verbose : Bool) :
    (generate registry outside key verbose options).outcome site =
      (.ok (.refused fault.message), ⟨site, []⟩) := by
  rw [generate_outcome, home]
  dsimp only
  rw [there]
  dsimp only
  rw [failed]
  dsimp only
  rw [beq_configuration, if_pos (decide_eq_true known)]

/-- What becomes of the settings in a file of any bytes, and of the command that asks for them.
Settings are as a run takes them. A refusal is a message and leaves the site as it is. All else that
the bytes can do is to spoil the run, and only then does a failure leave the program. -/
theorem load_by_content {site : Site} {path root : Path}
    (contains : Contains site path root content) :
    (∀ fault, load site path = .error fault ↔ Refused content fault ∨ Spoilt content fault) ∧
    (∀ fault, Refused content fault → fault.kind = .configuration) ∧
    (∀ fault, Spoilt content fault → fault.kind ≠ .configuration) ∧
    ((∀ fault, ¬Refused content fault ∧ ¬Spoilt content fault) →
      ∃ settings, load site path = .ok settings ∧ settings.root = root ∧ settings.Sound) ∧
    ∀ registry outside key arguments verbose options directory,
      Invocation.read arguments = .ok ⟨verbose, .generate options⟩ →
      Path.ofText options.path = path → site.expandHome path = .ok directory →
      site.isDirectory? directory = .ok true →
        (∀ fault, Refused content fault →
          (run registry outside key site arguments).ending = .ok (.refused fault.message) ∧
          (run registry outside key site arguments).site = site) ∧
        ∀ failure, (run registry outside key site arguments).ending = .error failure ↔
          ∃ fault, Spoilt content fault ∧ failure = .settings fault := by
  have loaded := load_of_contains contains
  refine ⟨fun fault => ?_, fun _ => Refused.kind, fun _ => Spoilt.kind, fun fine => ?_, ?_⟩
  · rw [loaded, ofBytes_error_iff]
  · rw [loaded]
    rcases ofBytes_cases root content with ⟨fault, refused⟩ | ⟨fault, spoilt⟩ | given
    · exact absurd refused (fine fault).1
    · exact absurd spoilt (fine fault).2
    · exact given
  · rintro registry outside key arguments verbose options directory read rfl home there
    obtain ⟨ending, left⟩ := run_of_read read registry outside key site
    refine ⟨fun fault refused => ?_, fun failure => ?_⟩
    · have failed := loaded.trans (ofBytes_of_refused root refused)
      have ends := generate_refuses home there failed refused.kind registry outside key verbose
      rw [ending, left, Invocation.run, ends]
      exact ⟨rfl, rfl⟩
    · rw [ending, Invocation.run, generate_fails_iff home there]
      simp only [loaded, ofBytes_error_iff]
      constructor
      · rintro ⟨fault, refused | spoilt, unknown, rfl⟩
        · exact absurd refused.kind unknown
        · exact ⟨fault, spoilt, rfl⟩
      · rintro ⟨fault, spoilt, rfl⟩
        exact ⟨fault, .inr spoilt, spoilt.kind, rfl⟩

/-- The file of the settings of `app` has these bytes. -/
def bytesSite (content : Bytes) : Site where
  root := .directory [("app", .directory [(settingsName, .file content)])]

theorem bytesSite_contains (content : Bytes) :
    Contains (bytesSite content) (.ofPlace ["app"]) (.ofPlace ["app"]) content :=
  contains_of_file ⟨by decide, by decide, by decide⟩ (by decide) rfl rfl rfl

theorem strayByte_spoilt : Spoilt [0xff] (.encoding ⟨0, 1, 0xff, "invalid start byte"⟩) := by
  refine .encoding ?_
  rw [Utf8.decode, Utf8.fronts, Utf8.frontsFrom, List.drop_nil, Utf8.frontsFrom]
  rfl

def hasNoParse (text : String) : Bool :=
  match Yaml.load text with
    | .error .malformed => true
    | _ => false

theorem load_of_hasNoParse {text : String} (unparsed : hasNoParse text = true) :
    Yaml.load text = .error .malformed := by
  unfold hasNoParse at unparsed
  split at unparsed
  next same => exact same
  · cases unparsed

theorem openList_refused : Refused [0x5b] (.document .malformed) := by
  have decoded : Utf8.decode [0x5b] = .ok "[" := by
    rw [Utf8.decode, Utf8.fronts, Utf8.frontsFrom, List.drop_nil, Utf8.frontsFrom]
    rfl
  exact .malformed decoded (by decide +kernel) (load_of_hasNoParse (by decide +kernel))

theorem strayByte_fails :
    load (bytesSite [0xff]) (.ofPlace ["app"]) =
      .error (.encoding ⟨0, 1, 0xff, "invalid start byte"⟩) ∧
    (run .standard stillSurroundings none (bytesSite [0xff]) ["generate", "/app"]).ending =
      .error (.settings (.encoding ⟨0, 1, 0xff, "invalid start byte"⟩)) ∧
    (run .standard stillSurroundings none (bytesSite [0x5b]) ["generate", "/app"]).ending =
      .ok (.refused "Failed to parse .codeindex.yml") := by
  have read : Invocation.read ["generate", "/app"] =
    .ok ⟨false, .generate { path := "/app" }⟩ := rfl
  have path : Path.ofText "/app" = .ofPlace ["app"] := by decide
  have there (content : Bytes) :
      (bytesSite content).isDirectory? (.ofPlace ["app"]) = .ok true :=
    Site.isDirectory_directory ⟨by decide, by decide, by decide⟩ (by decide) rfl
  obtain ⟨spoils, _, _, _, fails⟩ := load_by_content (bytesSite_contains [0xff])
  obtain ⟨_, _, _, _, refuses⟩ := load_by_content (bytesSite_contains [0x5b])
  have ends := fails .standard stillSurroundings none _ _ _ _ read path rfl (there _)
  have stops := refuses .standard stillSurroundings none _ _ _ _ read path rfl (there _)
  exact ⟨(spoils _).mpr (.inr strayByte_spoilt), (ends.2 _).mpr ⟨_, strayByte_spoilt, rfl⟩,
    (stops.1 _ openList_refused).1⟩

end SourceAtlas.Settings
