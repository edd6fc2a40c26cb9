import SourceAtlas.Proofs.AlikeSettings
import SourceAtlas.Proofs.CommandEnds
import SourceAtlas.Proofs.IndexRequests
import SourceAtlas.Proofs.SettingsBytes
import SourceAtlas.Service.Answer

/-!
The two ways to ask for an index without keeping it: a command that prints it, and a request to the
service. They read what is asked for differently, and they agree on it.
-/
namespace SourceAtlas

open Text

namespace Settings

def Found (site : Site) (path : String) (settings : Settings) : Prop :=
  ∃ root, site.expandHome (.ofText path) = .ok root ∧ site.isDirectory? root = .ok true ∧
    load site (.ofText path) = .ok settings

theorem exists_of_isDirectory {site : Site} {path : Path}
    (there : site.isDirectory? path = .ok true) : site.exists? path = .ok true := by
  unfold Site.isDirectory? at there
  unfold Site.exists?
  cases probed : site.probe path with
  | error error =>
      rw [probed] at there
      cases there
  | ok found =>
      rw [probed] at there
      cases found with
      | none => cases there
      | some item => rfl

def HomeAbsolute (site : Site) (path : Path) : Prop :=
  ∀ user rest home, path = ⟨"", ("~" ++ user) :: rest⟩ → site.homeOf? user = some home →
    (Path.ofText home).isAbsolute = true

theorem homeAbsolute_of_head {site : Site} {path : Path} {name : String}
    (first : path.names.head? = some name) (other : dropFront? ['~'] name.toList = none) :
    HomeAbsolute site path := by
  rintro user rest home rfl _
  cases first
  have tilde := dropFront_append "~".toList user.toList
  rw [← String.toList_append] at tilde
  cases tilde.symm.trans other

theorem expandHome_again {site : Site} {path root : Path} (home : HomeAbsolute site path)
    (expanded : site.expandHome path = .ok root) : site.expandHome root = .ok root := by
  have start := expanded
  unfold Site.expandHome at expanded
  split at expanded
  next rooted =>
    cases expanded
    exact start
  next relative =>
    split at expanded
    next name rest names =>
      split at expanded
      next =>
        cases expanded
        exact start
      next user dropped =>
        split at expanded
        next front known =>
          cases expanded
          have spelled := (dropFront?_eq_some_iff _ _ _).mp dropped
          have named : name = "~" ++ String.ofList user := by
            rw [← String.toList_inj, spelled, String.toList_append]
            exact congrArg _ String.toList_ofList.symm
          refine if_pos (home (.ofList user) rest front ?_ known)
          obtain ⟨before, _⟩ := path
          rw [Path.isAbsolute, Bool.not_eq_true', Bool.not_eq_false, String.isEmpty_iff] at relative
          dsimp only at relative names
          rw [relative, names, named]
        next => cases expanded
    · cases expanded
      exact start

theorem load_expanded {site : Site} {path root : Path} (home : HomeAbsolute site path)
    (expanded : site.expandHome path = .ok root) :
    load site root = load site path := by
  have same : fileFor site root = fileFor site path := by
    unfold fileFor
    rw [expanded, expandHome_again home expanded]
  unfold load
  rw [same]

end Settings

namespace CommandLine

theorem withLineEnd_of_ends {text : String} (ends : ∃ front, text = front ++ "\n") :
    withLineEnd text = text := by
  obtain ⟨front, rfl⟩ := ends
  refine if_pos ((endsWith_iff _ _).mpr ?_)
  rw [String.toList_append]
  exact List.suffix_append _ _

theorem exitCode_refusalOf (failure : Failure) : (refusalOf failure).exitCode = 1 := by
  unfold refusalOf
  split <;> rfl

theorem makeIndex_succeeds_iff (registry : Registry) (outside : Surroundings)
    (settings : Settings) (site : Site) (ending : Ending) :
    ((makeIndex registry outside true settings).outcome site).1 = .ok ending ∧
        ending.exitCode = 0 ↔
      ∃ result, Indexing.indexOf registry site settings (outside.room - callsAbove) outside.now =
          .ok result ∧
        ending = .printed result.content := by
  have given := Indexing.generate_gives_index registry site settings (outside.room - callsAbove)
    outside.now
  rw [(makeIndex_printing given).outcome.1]
  cases indexed : Indexing.indexOf registry site settings (outside.room - callsAbove)
      outside.now with
  | ok result =>
      have whole : printingOf (.ok result) = .printed result.content :=
        congrArg Ending.printed (withLineEnd_of_ends (Indexing.content_ends indexed))
      rw [whole]
      constructor
      · rintro ⟨ends, _⟩
        exact ⟨result, rfl, (Except.ok.inj ends).symm⟩
      · rintro ⟨_, same, rfl⟩
        cases same
        exact ⟨rfl, rfl⟩
  | error failure =>
      constructor
      · rintro ⟨ends, success⟩
        rw [← Except.ok.inj ends, printingOf, exitCode_refusalOf] at success
        cases success
      · rintro ⟨_, same, _⟩
        cases same

theorem generate_succeeds_iff (registry : Registry) (outside : Surroundings) (key : Option Points)
    (verbose : Bool) {options : GenerateOptions} (prints : options.toStdout = true) (site : Site)
    (ending : Ending) :
    ((generate registry outside key verbose options).outcome site).1 = .ok ending ∧
        ending.exitCode = 0 ↔
      ∃ loaded result, Settings.Found site options.path loaded ∧
        Indexing.indexOf registry site
          (options.applyTo verbose (key.filter (!·.isEmpty)) loaded)
          (outside.room - callsAbove) outside.now = .ok result ∧
        ending = .printed result.content := by
  rw [generate_outcome]
  constructor
  · rintro ⟨ends, success⟩
    split at ends
    · cases ends
    next root expanded =>
      split at ends
      · cases ends
      · cases ends
        cases success
      next there =>
        split at ends
        · dsimp only at ends
          split at ends
          · cases ends
            cases success
          · cases ends
        next loaded found =>
          dsimp only at ends
          rw [prints, Bool.not_true, Bool.and_false, if_neg Bool.false_ne_true] at ends
          obtain ⟨result, indexed, printed⟩ :=
            (makeIndex_succeeds_iff registry outside _ site ending).mp ⟨ends, success⟩
          exact ⟨loaded, result, ⟨root, expanded, there, found⟩, indexed, printed⟩
  · rintro ⟨loaded, result, ⟨root, expanded, there, found⟩, indexed, rfl⟩
    rw [expanded]
    dsimp only
    rw [there]
    dsimp only
    rw [found]
    dsimp only
    rw [prints, Bool.not_true, Bool.and_false, if_neg Bool.false_ne_true]
    exact (makeIndex_succeeds_iff registry outside _ site _).mpr ⟨result, indexed, rfl⟩

end CommandLine

end SourceAtlas

namespace SourceAtlas.Service

open Text CommandLine

namespace IndexRequest

variable {request : IndexRequest}

def applied (request : IndexRequest) (settings : Settings) : Settings :=
  { settings with
    tier := request.tier.getD settings.tier
    hashAlgorithm := request.hashAlgorithm.getD settings.hashAlgorithm
    maxCandidates := request.maxCandidates.getD settings.maxCandidates
    languages := if request.languages.isEmpty then settings.languages
      else request.languages.map lower }

theorem applyTo_eq (allowed : request.Allowed) (settings : Settings) :
    request.applyTo settings = .ok (request.applied settings) := by
  have known {choice : Option String} {names : List String}
      (member : ∀ label ∈ choice, label ∈ names) : choice.filter (!names.contains ·) = none := by
    cases choice with
    | none => rfl
    | some label =>
        rw [Option.filter_some, List.contains_iff_mem.mpr (member label rfl)]
        rfl
  unfold applyTo
  dsimp only
  rw [known allowed.tier, known allowed.hash]
  rfl

theorem settings_of_there (request : IndexRequest) {site : Site} {root : Path}
    (expanded : site.expandHome (.ofText request.path) = .ok root)
    (there : site.isDirectory? root = .ok true) :
    request.settings site =
      match Settings.load site root with
        | .error fault => .error (.settings fault)
        | .ok settings => request.applyTo settings := by
  unfold IndexRequest.settings
  rw [expanded]
  dsimp only
  rewrite [Settings.exists_of_isDirectory there, there]
  rfl

theorem settings_iff (allowed : request.Allowed) {site : Site}
    (home : Settings.HomeAbsolute site (.ofText request.path)) (settings : Settings) :
    request.settings site = .ok settings ↔
      ∃ loaded, Settings.Found site request.path loaded ∧ settings = request.applied loaded := by
  constructor
  · intro given
    unfold IndexRequest.settings at given
    split at given
    · cases given
    next root expanded =>
      split at given
      · cases given
      · cases given
      · cases given
      · cases given
      next _ there =>
        rw [Settings.load_expanded home expanded] at given
        split at given
        · cases given
        next loaded found =>
          rw [applyTo_eq allowed] at given
          exact ⟨loaded, ⟨root, expanded, there, found⟩, (Except.ok.inj given).symm⟩
  · rintro ⟨loaded, ⟨root, expanded, there, given⟩, rfl⟩
    rw [settings_of_there request expanded there, Settings.load_expanded home expanded, given]
    exact applyTo_eq allowed loaded

end IndexRequest

def answerTo : Except Failure IndexResult → Except Failure Answer
  | .ok result => .ok (.index result)
  | .error failure =>
      match statusOf? failure.kind with
      | some status => .ok (.refused status failure.message)
      | none => .error failure

theorem answer_gives {body : Option Payload} {request : IndexRequest}
    (asked : IndexRequest.ofPayload body = .ok request) (registry : Registry) (site : Site)
    (room : Nat) (now : Moment) : (answer registry site room now { body := body }).Gives
      (answerTo (request.settings site >>= fun settings =>
        Indexing.indexOf registry site settings (room - callsAbove) now)) := by
  have route : Route.ofTarget? "/index" = some .index := by decide +kernel
  have method : (!Route.index.methods.contains (upper "POST")) = false := by decide
  unfold answer
  dsimp only
  rw [route]
  dsimp only
  rw [method, if_neg Bool.false_ne_true]
  unfold indexFor
  rw [asked]
  dsimp only
  unfold refusing
  have refused (failure : Failure) : Noted.Gives
      (match statusOf? failure.kind with
        | some status => return .refused status failure.message
        | none => Noted.fail failure) (answerTo (.error failure)) := by
    unfold answerTo
    dsimp only
    cases statusOf? failure.kind with
    | some status => exact Noted.gives_pure _
    | none => exact Noted.gives_fail _
  cases request.settings site with
  | error failure => exact (Noted.gives_fail failure).caught (refused failure)
  | ok settings =>
      rw [bind_of_ok rfl]
      have made := Indexing.generate_gives_index registry site settings (room - callsAbove) now
      cases indexed : Indexing.indexOf registry site settings (room - callsAbove) now with
      | error failure =>
          rw [indexed] at made
          exact (made.stop _).caught (refused failure)
      | ok result =>
          rw [indexed] at made
          exact (made.seq (Noted.gives_pure (Answer.index result))).kept _

theorem exists_of_answerTo {made : Except Failure IndexResult} {response : Answer}
    (answered : answerTo made = .ok response) (success : response.status = 200) :
    ∃ result, made = .ok result ∧ response = .index result := by
  have statuses : ∀ kind : FailureKind, statusOf? kind ≠ some 200 := by
    intro kind
    cases kind <;> decide
  unfold answerTo at answered
  split at answered
  next result =>
    cases answered
    exact ⟨result, rfl, rfl⟩
  next failure =>
    split at answered
    next status known =>
      cases answered
      obtain rfl : status = 200 := success
      exact absurd known (statuses _)
    · cases answered

namespace IndexRequest

variable {request : IndexRequest}

theorem languageNames_join (allowed : request.Allowed) (filled : request.languages ≠ []) :
    languageNames (join "," request.languages) = request.languages.map Registry.requestKey := by
  have named : ∀ name ∈ request.languages.map strip, (!name.isEmpty) = true := by
    intro name member
    obtain ⟨written, asked, rfl⟩ := List.mem_map.mp member
    rw [Bool.not_eq_true']
    exact Bool.eq_false_iff.mpr fun empty =>
      (allowed.languages written asked).2 (String.isEmpty_iff.mp empty)
  rw [languageNames, split_languages allowed filled, List.filter_eq_self.mpr named, List.map_map]
  rfl

theorem select_eq (registry : Registry) (names : List String) :
    (registry.select (names.map Registry.requestKey)).1 =
      (registry.select (names.map lower)).1 := by
  have keys : (fun name => registry.get? (Registry.requestKey name)) ∘ Registry.requestKey =
      (fun name => registry.get? (Registry.requestKey name)) ∘ lower := by
    funext name
    rw [Function.comp_apply, Function.comp_apply, Registry.requestKey_requestKey,
      Registry.requestKey_lower]
  unfold Registry.select
  dsimp only
  rw [List.filterMap_map, List.filterMap_map, keys]

/-- The settings of the two front ends differ in the names of the languages and in what is of no
account for an index that is not kept. -/
theorem alike (allowed : request.Allowed) (registry : Registry) (verbose : Bool)
    (key : Option Points) (loaded : Settings) :
    Settings.Alike registry (request.applied loaded)
      (request.asOptions.applyTo verbose key loaded) := by
  have same : (request.asOptions.applyTo verbose key loaded).languages.isEmpty =
        (request.applied loaded).languages.isEmpty ∧
      (registry.select (request.asOptions.applyTo verbose key loaded).languages).1 =
        (registry.select (request.applied loaded).languages).1 := by
    change ((request.languageText.map languageNames).getD loaded.languages).isEmpty =
        (if request.languages.isEmpty then loaded.languages
          else request.languages.map lower).isEmpty ∧
      (registry.select ((request.languageText.map languageNames).getD loaded.languages)).1 =
        (registry.select (if request.languages.isEmpty then loaded.languages
          else request.languages.map lower)).1
    unfold languageText
    split
    · exact ⟨rfl, rfl⟩
    next named =>
      have filled : request.languages ≠ [] := fun none => named (List.isEmpty_iff.mpr none)
      rw [Option.map_some, Option.getD_some, languageNames_join allowed filled, List.isEmpty_map,
        List.isEmpty_map]
      exact ⟨rfl, select_eq registry _⟩
  exact ⟨rfl, rfl, rfl, rfl, rfl, rfl, same.1, same.2⟩

/-- The index that a request asks for: its directory has settings, and they give it with what is
asked for in their place and so many calls left. -/
def Asks (request : IndexRequest) (registry : Registry) (site : Site) (room : Nat) (now : Moment)
    (result : IndexResult) : Prop :=
  ∃ loaded, Settings.Found site request.path loaded ∧
    Indexing.indexOf registry site (request.applied loaded) room now = .ok result

/-- The calls that are left to the service reach as far for a request as those that are left to the
command, which stands higher. -/
def Reached (request : IndexRequest) (registry : Registry) (site : Site) (room : Nat) : Prop :=
  ∀ loaded root, Settings.Found site request.path loaded →
    Indexing.rootOf site (request.applied loaded) = .ok root →
    Indexing.SameReach registry site (request.applied loaded) root (room - callsAbove)
      (room - CommandLine.callsAbove)

theorem asks_iff {registry : Registry} {site : Site} {room : Nat}
    (reached : request.Reached registry site room) (now : Moment) (result : IndexResult) :
    request.Asks registry site (room - CommandLine.callsAbove) now result ↔
      request.Asks registry site (room - callsAbove) now result := by
  refine exists_congr fun loaded => and_congr_right fun found => ?_
  rw [Indexing.indexOf_of_reach fun root => reached loaded root found]

theorem Asks.unique {registry : Registry} {site : Site} {room : Nat} {now : Moment}
    {result other : IndexResult} (first : request.Asks registry site room now result)
    (second : request.Asks registry site room now other) : result = other := by
  obtain ⟨loaded, ⟨_, _, _, given⟩, indexed⟩ := first
  obtain ⟨loaded', ⟨_, _, _, given'⟩, indexed'⟩ := second
  obtain rfl : loaded = loaded' := Except.ok.inj (given.symm.trans given')
  exact Except.ok.inj (indexed.symm.trans indexed')

theorem command_succeeds_iff (allowed : request.Allowed) (registry : Registry) (site : Site)
    (outside : Surroundings) (key : Option Points) (verbose whole : Bool) (ending : Ending) :
    (run registry outside key site (request.commandLine verbose whole)).ending = .ok ending ∧
        ending.exitCode = 0 ↔
      ∃ result, request.Asks registry site (outside.room - CommandLine.callsAbove) outside.now
          result ∧
        ending = .printed result.content := by
  have prints : request.asOptions.toStdout = true := rfl
  rw [(run_of_read (read_commandLine allowed verbose whole) registry outside key site).1]
  refine (generate_succeeds_iff registry outside key verbose prints site ending).trans ?_
  constructor
  · rintro ⟨loaded, result, found, indexed, ends⟩
    have same := (alike allowed registry verbose (key.filter (!·.isEmpty)) loaded).symm
    exact ⟨result, ⟨loaded, found, Indexing.indexOf_of_alike same indexed⟩, ends⟩
  · rintro ⟨result, ⟨loaded, found, indexed⟩, ends⟩
    have same := alike allowed registry verbose (key.filter (!·.isEmpty)) loaded
    exact ⟨loaded, result, found, Indexing.indexOf_of_alike same indexed, ends⟩

theorem service_succeeds_iff (allowed : request.Allowed) {site : Site}
    (home : Settings.HomeAbsolute site (.ofText request.path)) (registry : Registry) (room : Nat)
    (now : Moment) (response : Answer) :
    (answer registry site room now { body := some request.payload }).outcome.1 = .ok response ∧
        response.status = 200 ↔
      ∃ result, request.Asks registry site (room - callsAbove) now result ∧
        response = .index result := by
  rw [(answer_gives (ofPayload_payload allowed) registry site room now).outcome]
  constructor
  · rintro ⟨answered, success⟩
    obtain ⟨result, made, rfl⟩ := exists_of_answerTo answered success
    obtain ⟨settings, given, indexed⟩ := exists_of_bind made
    obtain ⟨loaded, found, rfl⟩ := (settings_iff allowed home settings).mp given
    exact ⟨result, ⟨loaded, found, indexed⟩, rfl⟩
  · rintro ⟨result, ⟨loaded, found, indexed⟩, rfl⟩
    have given := (settings_iff allowed home _).mpr ⟨loaded, found, rfl⟩
    rw [bind_of_ok given, indexed]
    exact ⟨rfl, rfl⟩

end IndexRequest

/-- A command that prints the index of a request succeeds exactly if the service answers it, and
then they give the same text. A path that begins with a minus sign follows two dashes, and one that
begins with a home directory needs an absolute one. Both may nest as many calls; as the service
nests a few more before it comes to the index, it must get as far with those that are left. -/
theorem front_ends_agree (registry : Registry) (site : Site) (outside : Surroundings)
    (key : Option Points) (verbose whole : Bool) {request : IndexRequest}
    (allowed : request.Allowed) (home : Settings.HomeAbsolute site (.ofText request.path))
    (reached : request.Reached registry site outside.room) :
    ((∃ ending, (run registry outside key site (request.commandLine verbose whole)).ending =
        .ok ending ∧ ending.exitCode = 0) ↔
      ∃ response, (answer registry site outside.room outside.now
        { body := some request.payload }).outcome.1 = .ok response ∧ response.status = 200) ∧
    ∀ ending response,
      (run registry outside key site (request.commandLine verbose whole)).ending = .ok ending →
      ending.exitCode = 0 →
      (answer registry site outside.room outside.now { body := some request.payload }).outcome.1 =
        .ok response →
      response.status = 200 →
      ∃ result, response = .index result ∧ ending.output = result.content := by
  have command := IndexRequest.command_succeeds_iff allowed registry site outside key verbose whole
  have service := IndexRequest.service_succeeds_iff allowed home registry outside.room outside.now
  simp only [IndexRequest.asks_iff reached] at command
  constructor
  · constructor
    · rintro ⟨ending, succeeds⟩
      obtain ⟨result, asks, _⟩ := (command ending).mp succeeds
      exact ⟨_, (service _).mpr ⟨result, asks, rfl⟩⟩
    · rintro ⟨response, succeeds⟩
      obtain ⟨result, asks, _⟩ := (service response).mp succeeds
      exact ⟨_, (command _).mpr ⟨result, asks, rfl⟩⟩
  · intro ending response ends success answered approved
    obtain ⟨result, asks, rfl⟩ := (command ending).mp ⟨ends, success⟩
    obtain ⟨other, again, rfl⟩ := (service response).mp ⟨answered, approved⟩
    obtain rfl := asks.unique again
    exact ⟨result, rfl, rfl⟩

theorem isDirectory_of_names {site : Site} {path : Path} {place : Place}
    {entries : List (String × Item)} (ordinary : Fits path) (leads : site.namesOf path = place)
    (fits : Fits (.ofPlace place)) (down : ".." ∉ place)
    (found : site.root.get? place = some (.directory entries)) :
    site.isDirectory? path = .ok true := by
  have located := Site.locate_below fits down found .existing []
  rw [List.append_nil, locate] at located
  have reached : site.item path = .ok (.directory entries) := by
    unfold Site.item Site.place
    dsimp only
    rw [if_neg (Nat.not_le.mpr ordinary.short), leads, located]
    dsimp only [Bind.bind, Except.bind]
    rw [found]
  unfold Site.isDirectory? Site.probe
  rw [if_neg (Bool.eq_false_iff.mp ordinary.clean), reached]
  rfl

theorem found_bare {site : Site} {path : String} {root : Path} {place : Place}
    {entries : List (String × Item)} (expanded : site.expandHome (.ofText path) = .ok root)
    (ordinary : Fits root) (leads : site.namesOf root = place)
    (clean : hasNul (root.child settingsName) = false)
    (fits : Fits (.ofPlace (place ++ [settingsName]))) (down : ".." ∉ place)
    (found : site.root.get? place = some (.directory entries))
    (bare : entries.lookup settingsName = none) :
    Settings.Found site path { root := .ofPlace place } := by
  have there := isDirectory_of_names ordinary leads fits.above down found
  have downward : ".." ∉ place ++ [settingsName] := by
    rw [List.mem_append, not_or]
    exact ⟨down, by decide⟩
  have located : locate site.root .toMake linkLimit [] (place ++ [settingsName]) = .ok _ :=
    Site.locate_absent fits downward found bare .toMake
  obtain ⟨_, way⟩ := exists_way Reach.noConfusion located
  rw [← leads, ← Settings.namesOf_settings] at way
  have resolved := Site.resolve_of_way clean way
  rw [Settings.namesOf_settings, leads] at resolved
  have absent : site.exists? (.ofPlace (place ++ [settingsName])) = .ok false := by
    rw [Site.exists?, Site.probe, fits.clean, Site.item_absent fits downward found bare]
    rfl
  refine ⟨root, expanded, there, ?_⟩
  unfold Settings.load
  rw [Settings.fileFor_directory expanded there, resolved]
  change (Settings.liftPath
    (site.resolve (Path.ofPlace (place ++ [settingsName])).parent) >>= _) = _
  rw [Site.parent_ofPlace, Site.resolve_directory fits.above down found]
  change (Settings.liftOs (site.exists? (.ofPlace (place ++ [settingsName]))) >>= _) = _
  rw [absent]
  rfl

section Asked
variable {site : Site} {request : IndexRequest} {place : Place} {entries : List (String × Item)}

theorem adaptersAt_asked (asked : (request.languages.map lower).map Registry.requestKey = ["go"])
    (site : Site) (place : Place) :
    Indexing.adaptersAt .standard site (request.applied { root := .ofPlace place })
      (.ofPlace place) = .ok [Profiles.go] := by
  have named : ¬request.languages.isEmpty = true := by
    intro empty
    rw [List.isEmpty_iff.mp empty] at asked
    cases asked
  refine Indexing.adaptersAt_go ?_ site (.ofPlace place)
  unfold IndexRequest.applied
  rw [if_neg named, asked]

variable (found : Settings.Found site request.path { root := .ofPlace place })
  (names : ProperNames place) (fits : Fits (.ofPlace place))
  (real : site.root.get? place = some (.directory entries))
  (unlocked : site.isLocked place = false)
  (asked : (request.languages.map lower).map Registry.requestKey = ["go"])
include found names fits real unlocked asked

theorem exists_asked {tier : Tier}
    (labelled : Tier.ofLabel? (request.tier.getD "structured") = some tier) {room : Nat}
    (low : Scan.callsFor (Item.heightAll entries) ≤ room - 1)
    (idle : ((ScanThreads.walkAt site place (Indexing.requestOf
      (request.applied { root := .ofPlace place }) room [Profiles.go])).all entries).work = [])
    (now : Moment) : ∃ result, request.Asks .standard site room now result := by
  have rooted : Indexing.rootOf site (request.applied { root := .ofPlace place }) =
      .ok (.ofPlace place) :=
    Site.resolve_directory fits names.down real
  obtain ⟨result, indexed⟩ := Indexing.exists_index names fits real unlocked
    (adaptersAt_asked asked site place) labelled low idle now
  refine ⟨result, _, found, ?_⟩
  unfold Indexing.indexOf
  rw [rooted]
  exact indexed

theorem reached_asked {room : Nat}
    (low : Scan.callsFor (Item.heightAll entries) ≤ room - callsAbove - 1) :
    request.Reached .standard site room := by
  intro loaded root other rooted
  obtain ⟨_, _, _, given⟩ := found
  obtain ⟨_, _, _, again⟩ := other
  obtain rfl := Except.ok.inj (again.symm.trans given)
  obtain rfl : root = .ofPlace place :=
    Except.ok.inj (rooted.symm.trans (Site.resolve_directory fits names.down real))
  have chosen := adaptersAt_asked asked site place
  constructor
  · intro adapters setting same settled
    cases chosen.symm.trans same
    have asked := (ScanThreads.settled_for settled).1
    have listed : setting.listing = .ok entries := by
      rw [ScanThreads.settle_directory names fits real] at settled
      rw [← Except.ok.inj settled]
      exact (Site.list_directory fits names.down real).trans
        (if_neg (Bool.eq_false_iff.mp unlocked))
    have shallow := ScanThreads.Setting.shallow_of_height listed (asked ▸ low)
    rw [ScanThreads.Setting.Shallow, asked] at shallow
    refine iff_of_true (le_trans shallow ?_) shallow
    change room - callsAbove - 1 ≤ room - CommandLine.callsAbove - 1
    unfold callsAbove CommandLine.callsAbove
    omega
  · intro adapters scan same _ entry _ adapter content spoken _
    cases chosen.symm.trans same
    have listed := List.mem_reverse.mp (List.mem_of_find?_eq_some spoken)
    obtain rfl := List.mem_singleton.mp listed
    rfl

end Asked

theorem work_of_ineligible {walk : Walk} {name : String} {content : Bytes}
    (unread : walk.rules.isEligible name = false) :
    (walk.all [(name, .file content)]).work = [] := by
  rw [Walk.all, Walk.entries_eq_map, List.map_singleton, Walk.item, Walk.fileFindings, unread,
    Findings.gather, List.mergeSort_singleton]
  split <;> rfl

/-- A directory whose name begins with a minus sign, and a home directory that is named after the
superuser, whose own has settings that are no text. -/
def oddSite : Site where
  root := .directory [("-x", .directory [("notes.txt", .file [104, 105])]),
    ("~root", .directory []), ("root", .directory [(settingsName, .file [0xff])])]
  home := "./~root"
  accounts user := if user = "root" then some "/root" else none

theorem oddSite_dash : Settings.Found oddSite "-x" { root := .ofPlace ["-x"] } :=
  found_bare rfl ⟨by decide, by decide, by decide⟩ rfl (by decide)
    ⟨by decide, by decide, by decide⟩ (by decide) rfl rfl

theorem oddSite_tilde : Settings.Found oddSite "~" { root := .ofPlace ["~root"] } :=
  found_bare rfl ⟨by decide, by decide, by decide⟩ rfl (by decide)
    ⟨by decide, by decide, by decide⟩ (by decide) rfl rfl

theorem oddSite_proper : ProperNames ["-x"] ∧ ProperNames ["~root"] :=
  ⟨List.forall_mem_singleton.mpr ⟨by decide, by decide, by decide, by decide⟩,
    List.forall_mem_singleton.mpr ⟨by decide, by decide, by decide, by decide⟩⟩

theorem oddSite_asked {request : IndexRequest} {name : String} (listed : name ∈ ["-x", "~root"])
    (found : Settings.Found oddSite request.path { root := .ofPlace [name] })
    (asked : (request.languages.map lower).map Registry.requestKey = ["go"]) {tier : Tier}
    (labelled : Tier.ofLabel? (request.tier.getD "structured") = some tier) (room : Nat)
    (enough : 7 ≤ room) :
    ∃ result, request.Asks .standard oddSite room stillSurroundings.now result := by
  have low : 6 ≤ room - 1 := by omega
  rcases List.mem_pair.mp listed with rfl | rfl
  · refine exists_asked found oddSite_proper.1 ⟨by decide, by decide, by decide⟩ rfl rfl asked
      labelled low (work_of_ineligible ?_) _
    rw [ScanThreads.walkAt, ScanRules.isEligible_compile, Indexing.requestOf, byName,
      List.mergeSort_singleton]
    decide
  · exact exists_asked found oddSite_proper.2 ⟨by decide, by decide, by decide⟩ rfl rfl asked
      labelled low (by simp [Walk.all, Walk.entries, Findings.gather]) _

theorem oddSite_home : Settings.HomeAbsolute oddSite (.ofText "-x") :=
  Settings.homeAbsolute_of_head rfl (by decide)

def fullRequest : IndexRequest where
  path := "-x"
  tier := some "summary"
  hashAlgorithm := some "sha256"
  maxCandidates := some 7
  languages := [" Go "]

theorem fullRequest_allowed : fullRequest.Allowed where
  tier := by decide
  hash := by decide
  most := by
    have small (limit : Nat) (some : 1 ≤ limit) : (7 : Int).natAbs < Nat.pow 10 limit :=
      Nat.lt_of_lt_of_le (by decide : 7 < 10 ^ 1) (Nat.pow_le_pow_right (by decide) some)
    rintro _ ⟨⟩
    exact ⟨by decide, if_pos (small Decimal.digitLimit (by decide))⟩
  languages := by decide

theorem oddSite_agrees :
    fullRequest.commandLine true false = ["generate", "--verbose", "--stdout", "--format",
      "summary", "--hash", "sha256", "--max-candidates", "7", "--languages", " Go ", "--", "-x"] ∧
    fullRequest.Allowed ∧ Settings.HomeAbsolute oddSite (.ofText fullRequest.path) ∧
    fullRequest.Reached .standard oddSite stillSurroundings.room ∧
    ∃ ending result,
      (run .standard stillSurroundings (some (points "tall ship")) oddSite
        (fullRequest.commandLine true false)).ending = .ok ending ∧ ending.exitCode = 0 ∧
      (answer .standard oddSite stillSurroundings.room stillSurroundings.now
        { body := some fullRequest.payload }).outcome.1 = .ok (.index result) ∧
      ending.output = result.content := by
  have found : Settings.Found oddSite fullRequest.path { root := .ofPlace ["-x"] } := oddSite_dash
  obtain ⟨made, asks⟩ := oddSite_asked (by decide) found (by decide) rfl
    (stillSurroundings.room - callsAbove) (by decide)
  have low : 6 ≤ stillSurroundings.room - callsAbove - 1 := by decide
  have reached : fullRequest.Reached .standard oddSite stillSurroundings.room :=
    reached_asked found oddSite_proper.1 ⟨by decide, by decide, by decide⟩ rfl rfl (by decide) low
  obtain ⟨answered, approved⟩ := (IndexRequest.service_succeeds_iff fullRequest_allowed oddSite_home
    .standard stillSurroundings.room stillSurroundings.now _).mpr ⟨made, asks, rfl⟩
  obtain ⟨same, texts⟩ := front_ends_agree .standard oddSite stillSurroundings
    (some (points "tall ship")) true false fullRequest_allowed oddSite_home reached
  obtain ⟨ending, ends, success⟩ := same.mpr ⟨_, answered, approved⟩
  obtain ⟨result, index, output⟩ := texts _ _ ends success answered approved
  rw [index] at answered
  exact ⟨by decide, fullRequest_allowed, oddSite_home, reached, ending, result, ends, success,
    answered, output⟩

def goRequest (path : String) : IndexRequest where
  path := path
  languages := ["go"]

theorem goRequest_allowed (path : String) : (goRequest path).Allowed where
  tier := by rintro _ ⟨⟩
  hash := by rintro _ ⟨⟩
  most := by rintro _ ⟨⟩
  languages := List.forall_mem_singleton.mpr ⟨by decide, by decide⟩

theorem oddSite_again : (goRequest "~").settings oddSite =
    .error (.settings (.encoding ⟨0, 1, 0xff, "invalid start byte"⟩)) := by
  obtain ⟨root, expanded, there, _⟩ := oddSite_tilde
  have tilde : oddSite.expandHome (.ofText "~") = .ok ⟨"", ["~root"]⟩ := by cbv
  obtain rfl : root = ⟨"", ["~root"]⟩ := Except.ok.inj (expanded.symm.trans tilde)
  have home : oddSite.expandHome ⟨"", ["~root"]⟩ = .ok (.ofPlace ["root"]) := by cbv
  have absolute : Settings.HomeAbsolute oddSite ⟨"", ["~root"]⟩ := by
    intro user rest front spelled known
    have named : "~" ++ user = "~root" := (List.cons.inj (congrArg Path.names spelled).symm).1
    obtain rfl : user = "root" := by
      rw [← String.toList_inj, String.toList_append] at named
      exact String.toList_inj.mp (List.cons.inj named).2
    cases known
    decide
  have same : Settings.load oddSite ⟨"", ["~root"]⟩ = Settings.load oddSite (.ofPlace ["root"]) :=
    (Settings.load_expanded absolute home).symm
  have contains : Settings.Contains oddSite (.ofPlace ["root"]) (.ofPlace ["root"]) [0xff] :=
    Settings.contains_of_file ⟨by decide, by decide, by decide⟩ (by decide) rfl rfl rfl
  have failed := same.trans ((Settings.load_of_contains contains).trans
    (Settings.ofBytes_of_spoilt _ Settings.strayByte_spoilt))
  rw [IndexRequest.settings_of_there (goRequest "~") tilde there, failed]

theorem not_asked_of_few {request : IndexRequest} {registry : Registry} {site : Site} {room : Nat}
    (few : room ≤ 6) {now : Moment} {result : IndexResult} :
    ¬request.Asks registry site room now result := by
  rintro ⟨loaded, _, indexed⟩
  unfold Indexing.indexOf at indexed
  split at indexed
  · cases indexed
  obtain ⟨adapters, _, scan, _, _, _, scanned, _⟩ :=
    Indexing.exists_of_indexAt (Indexing.exists_of_indexed indexed) indexed
  obtain ⟨setting, settled, done⟩ := exists_of_bind scanned
  obtain ⟨_, shallow, _⟩ := ScanThreads.Setting.sequential_eq_ok_iff.mp done
  rw [ScanThreads.Setting.Shallow, (ScanThreads.settled_for settled).1] at shallow
  have least : 6 ≤ Scan.callsFor setting.findings.levels := le_max_left _ _
  change _ ≤ room - 1 at shallow
  omega

theorem front_ends_differ :
    ¬((∃ ending, (run .standard stillSurroundings none oddSite
          ["generate", "-x", "--stdout", "--languages", "go"]).ending = .ok ending ∧
        ending.exitCode = 0) ↔
      ∃ response, (answer .standard oddSite stillSurroundings.room stillSurroundings.now
          { body := some (goRequest "-x").payload }).outcome.1 = .ok response ∧
        response.status = 200) ∧
    ¬((∃ ending, (run .standard stillSurroundings none oddSite
          ["generate", "~", "--stdout", "--languages", "go"]).ending = .ok ending ∧
        ending.exitCode = 0) ↔
      ∃ response, (answer .standard oddSite stillSurroundings.room stillSurroundings.now
          { body := some (goRequest "~").payload }).outcome.1 = .ok response ∧
        response.status = 200) ∧
    ¬((∃ ending, (run .standard { stillSurroundings with room := 10 } none oddSite
          ["generate", "--stdout", "--languages", "go", "--", "-x"]).ending = .ok ending ∧
        ending.exitCode = 0) ↔
      ∃ response, (answer .standard oddSite 10 stillSurroundings.now
          { body := some (goRequest "-x").payload }).outcome.1 = .ok response ∧
        response.status = 200) := by
  have dash : Settings.Found oddSite (goRequest "-x").path { root := .ofPlace ["-x"] } :=
    oddSite_dash
  refine ⟨fun same => ?_, fun same => ?_, fun same => ?_⟩
  -- the command has no path, and the service finds the directory
  · have stopped : Invocation.read ["generate", "-x", "--stdout", "--languages", "go"] =
      .error (.misuse "codeindex" "unrecognized arguments: -x") := rfl
    obtain ⟨made, asks⟩ := oddSite_asked (by decide) dash (by decide) rfl
      (stillSurroundings.room - callsAbove) (by decide)
    have answered := (IndexRequest.service_succeeds_iff (goRequest_allowed "-x") oddSite_home
      .standard stillSurroundings.room stillSurroundings.now _).mpr ⟨made, asks, rfl⟩
    obtain ⟨ending, ends, success⟩ := same.mpr ⟨_, answered⟩
    rw [ending_of_stop stopped] at ends
    cases ends
    cases success
  -- the command indexes the home directory, and the service reads the settings of another
  · have written : (goRequest "~").commandLine false false =
      ["generate", "~", "--stdout", "--languages", "go"] := by decide
    have found : Settings.Found oddSite (goRequest "~").path { root := .ofPlace ["~root"] } :=
      oddSite_tilde
    obtain ⟨made, asks⟩ := oddSite_asked (by decide) found (by decide) rfl
      (stillSurroundings.room - CommandLine.callsAbove) (by decide)
    have printed := (IndexRequest.command_succeeds_iff (goRequest_allowed "~") .standard oddSite
      stillSurroundings none false false _).mpr ⟨made, asks, rfl⟩
    rw [written] at printed
    obtain ⟨response, answered, approved⟩ := same.mp ⟨_, printed⟩
    rw [(answer_gives (IndexRequest.ofPayload_payload (goRequest_allowed "~")) .standard oddSite
      stillSurroundings.room stillSurroundings.now).outcome] at answered
    obtain ⟨result, indexed, _⟩ := exists_of_answerTo answered approved
    obtain ⟨settings, given, _⟩ := exists_of_bind indexed
    rw [oddSite_again] at given
    cases given
  -- the scan of the service runs out of calls
  · have written : (goRequest "-x").commandLine false false =
      ["generate", "--stdout", "--languages", "go", "--", "-x"] := by decide
    obtain ⟨made, asks⟩ := oddSite_asked (by decide) dash (by decide) rfl
      (10 - CommandLine.callsAbove) (by decide)
    have printed := (IndexRequest.command_succeeds_iff (goRequest_allowed "-x") .standard oddSite
      { stillSurroundings with room := 10 } none false false _).mpr ⟨made, asks, rfl⟩
    rw [written] at printed
    obtain ⟨response, answered⟩ := same.mp ⟨_, printed⟩
    obtain ⟨result, again, _⟩ := (IndexRequest.service_succeeds_iff (goRequest_allowed "-x")
      oddSite_home .standard 10 stillSurroundings.now response).mp answered
    exact not_asked_of_few (by decide) again

end SourceAtlas.Service
