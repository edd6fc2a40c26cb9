import SourceAtlas.Indexing
import SourceAtlas.Service.Payload
import SourceAtlas.Service.Target

/-!
The answers of the service. Two routes are served: one tells that the service is up, the other makes
an index and writes nothing. The paths of the pages that describe the service are taken as well.
-/
namespace SourceAtlas.Service

open Text

structure Request where
  method : String := "POST"
  target : String := "/index"
  body : Option Payload := none

inductive Answer
  | healthy
  | index (result : IndexResult)
  | invalid (problems : List Problem)
  | refused (status : Nat) (detail : String)

def Answer.status : Answer → Nat
  | .healthy => 200
  | .index _ => 200
  | .invalid _ => 422
  | .refused status _ => status

inductive Route
  | health
  | index
  | page
  deriving BEq, DecidableEq, Repr

def Route.table : List (String × Route) :=
  [("/openapi.json", .page), ("/docs", .page), ("/docs/oauth2-redirect", .page), ("/redoc", .page),
    ("/health", .health), ("/index", .index)]

def Route.methods : Route → List String
  | .health => ["GET"]
  | .index => ["POST"]
  | .page => ["GET", "HEAD"]

/-- The route of a path in full; a line break after it does not count. -/
def Route.ofPath? (path : String) : Option Route :=
  Route.table.lookup (if endsWith path "\n" then .ofList path.toList.dropLast else path)

/-- The route of a target. Slashes after a path do not count. -/
def Route.ofTarget? (target : String) : Option Route :=
  let path := Target.path target
  (Route.ofPath? path).or (Route.ofPath? (.ofList (trimEnd (· == '/') path.toList)))

/-- The settings of a directory with what a request asks for in their place. -/
def IndexRequest.applyTo (request : IndexRequest) (settings : Settings) : Except Failure Settings :=
  let refused := fun (choice : Option String) (names : List String) =>
    choice.filter (!names.contains ·)
  match refused request.tier tierNames, refused request.hashAlgorithm hashNames with
  | some label, _ => .error (.unknownChoice "output format" label)
  | none, some label => .error (.unknownChoice "hash algorithm" label)
  | none, none =>
      .ok { settings with
        tier := request.tier.getD settings.tier
        hashAlgorithm := request.hashAlgorithm.getD settings.hashAlgorithm
        maxCandidates := request.maxCandidates.getD settings.maxCandidates
        languages := if request.languages.isEmpty then settings.languages
          else request.languages.map lower }

/-- The settings for a request; its path must lead to a directory. -/
def IndexRequest.settings (request : IndexRequest) (site : Site) : Except Failure Settings :=
  match site.expandHome (.ofText request.path) with
  | .error fault => .error (.path fault)
  | .ok root =>
      match site.exists? root, site.isDirectory? root with
      | .error error, _ | _, .error error => .error (.os error)
      | .ok false, _ => .error (.rootMissing request.path)
      | .ok true, .ok false => .error (.rootNotDirectory request.path)
      | .ok true, .ok true =>
          match Settings.load site root with
          | .error fault => .error (.settings fault)
          | .ok settings => request.applyTo settings

/-- The status for a failure; `none` if the service has no answer to it. -/
def statusOf? : FailureKind → Option Nat
  | .noAdapters => some 422
  | .missing => some 404
  | .notDirectory | .invalid | .encoding | .unencodable | .configuration => some 400
  | _ => none

def refusing (work : Noted Answer) : Noted Answer :=
  tryCatch work fun failure =>
    match statusOf? failure.kind with
    | some status => return .refused status failure.message
    | none => Noted.fail failure

/-- The calls that lead to the making of an index, which has a thread of its own. -/
def callsAbove : Nat := 6

def indexFor (registry : Registry) (site : Site) (room : Nat) (now : Moment)
    (body : Option Payload) : Noted Answer :=
  match IndexRequest.ofPayload body with
  | .error problems => return .invalid problems
  | .ok request => refusing do
      match request.settings site with
      | .error failure => Noted.fail failure
      | .ok settings =>
          return .index (← Indexing.generate registry site settings (room - callsAbove) now)

def answer (registry : Registry) (site : Site) (room : Nat) (now : Moment) (request : Request) :
    Noted Answer :=
  match Route.ofTarget? request.target with
  | none => return .refused 404 "Not Found"
  | some route =>
      if !route.methods.contains (upper request.method) then
        return .refused 405 "Method Not Allowed"
      else match route with
        | .health => return .healthy
        | .index => indexFor registry site room now request.body
        | .page => return .refused 404 "Not Found"

end SourceAtlas.Service
