import Colloquy.Http.MediaType
import Colloquy.Http.Target
import Colloquy.Program
import Colloquy.Text.Hex
import Colloquy.Wire.Session

/-!
# Sessions as a service

A **service** keeps any number of sessions, all with the same setup, and answers requests about
them:

| request | answer |
|---|---|
| `GET /health` | how many sessions there are |
| `POST /session/new` | opens a session and gives its name |
| `GET /session/:id` | the session at a glance |
| `POST /session/:id/turn` | runs a turn: its report, and the event that it raised |

A target that stands for nothing, or is none at all, is not found, and one that is asked in another
way is not allowed. The name of a session has to be a text. Before anything is done the body of a
request is looked at: it has to be declared as JSON, not to be longer than a body may be
(`Request.bodyLimit`), to be JSON, and to be the JSON that is wanted, in this order; what follows the
first value is left alone. Only then is the session looked up.

A session is named after the clock and after a count that all services share. Neither is up to the
service, and so a request comes with the stamp that a session would get which it opened (`Arrival`).
Should a name come twice, the later session takes the place of the earlier one.

What may be got may also be asked for its status only, and is answered without a body then.
-/

namespace Colloquy

open Colloquy.Json (Codec Failure Shape)

/-- A **request**. -/
structure Request where
  method : String
  target : String
  contentType : Option String := none
  body : String := ""
deriving DecidableEq, Repr, Inhabited

/-- The **status** of a response. -/
inductive Status where
  | ok
  | badRequest
  | notFound
  | methodNotAllowed
  | contentTooLarge
  | unsupportedMediaType
  | unprocessable
deriving DecidableEq, Repr, Inhabited

/-- The number of a status. -/
def Status.code : Status → Nat
  | .ok => 200
  | .badRequest => 400
  | .notFound => 404
  | .methodNotAllowed => 405
  | .contentTooLarge => 413
  | .unsupportedMediaType => 415
  | .unprocessable => 422

/-- A **response**: its status, and its body if it has one. -/
structure Response where
  status : Status
  body : Option Json := none

/-- The response that everything went well. -/
def Response.ok (body : Json) : Response := { status := .ok, body := some body }

/-! ### What a path stands for -/

/-- What a path **stands for**. The name of a session is kept as the path writes it. -/
inductive Route where
  | health
  | newSession
  | session (name : String)
  | turn (name : String)
  | live (name : String)
deriving DecidableEq, Repr

/-- The pieces of a path between its slashes. -/
def segments (path : String) : List String := (Text.pieces '/' path.toList).map String.ofList

/-- The route of a path, if it has one. A name at the end of a path is not empty. -/
def Route.ofPath (path : String) : Option Route :=
  match segments path with
  | ["", "health"] => some .health
  | ["", "session", "new"] => some .newSession
  | ["", "session", name] => if name = "" then none else some (.session name)
  | ["", "session", name, "turn"] => some (.turn name)
  | ["", "ws", name] => if name = "" then none else some (.live name)
  | _ => none

/-- Whether something is to be done about what a path stands for, or only looked at. -/
def Route.isAction : Route → Bool
  | .newSession | .turn _ => true
  | _ => false

/-- Whether a route may be asked by this method. -/
def Route.allows (route : Route) (method : String) : Bool :=
  if route.isAction then method = "POST" else method = "GET" || method = "HEAD"

/-! ### Bodies -/

/-- Whether a text declares **JSON**: it is a media type, and one of JSON. -/
def declaresJson (contentType : String) : Bool :=
  (Http.MediaType.ofText contentType).any (·.isJson)

/-- The status of a request whose body cannot be read. -/
def statusOf (failure : Failure) : Status :=
  match failure.inText with
  | .flaw _ => .badRequest
  | .mismatch _ => .unprocessable

/-- How many bytes a **body** may have that is to be read: two mebibytes. -/
def Request.bodyLimit : Nat := 2 * 1024 * 1024

/-- The **body** of a request as what is wanted. -/
def Request.read {α : Type} (request : Request) (codec : Codec α) : Except Status α :=
  if request.contentType.any declaresJson then
    if request.body.utf8ByteSize ≤ bodyLimit then (codec.ofHead request.body).mapError statusOf
    else .error .contentTooLarge
  else .error .unsupportedMediaType

/-- The shape of a request for a session, which may say what the surroundings say first. -/
def openingShape : Shape (Option Conversation) where
  name := "NewSessionRequest"
  blank := none
  fields := [⟨"state", .option Wire.conversation, id, fun v _ => v, .optional⟩]

/-! ### Arrivals -/

/-- A **stamp**: what the clock shows, in nanoseconds, and how far a count has come that all services
share. -/
structure Stamp where
  clock : UInt64
  number : UInt64
deriving DecidableEq, Repr, Inhabited

/-- The **name** of a session that is opened under a stamp. -/
def Stamp.name (stamp : Stamp) : String :=
  "session_" ++ String.ofList (Text.hexDigits stamp.clock.toNat) ++ "_" ++
    toString stamp.number.toNat

/-- A request as it **arrives**, with the stamp of the session that it may open. -/
structure Arrival where
  request : Request
  stamp : Stamp
deriving DecidableEq, Repr, Inhabited

/-! ### The service -/

/-- The state of a **service**: its sessions by name, the oldest first. -/
structure Service where
  sessions : List (String × Session) := []
deriving DecidableEq, Inhabited

namespace Service

/-- The session of a name. -/
def session? (service : Service) (id : String) : Option Session :=
  (service.sessions.find? (·.1 = id)).map (·.2)

/-- The service with another state of a session. -/
def setSession (service : Service) (id : String) (session : Session) : Service where
  sessions := service.sessions.map fun entry => if entry.1 = id then (id, session) else entry

/-- The service with a session under a name, whether or not there has been one. -/
def putSession (service : Service) (id : String) (session : Session) : Service :=
  if (service.session? id).isSome then service.setSession id session
  else { sessions := service.sessions ++ [(id, session)] }

/-- How the service is. -/
def health (setup : Setup) (service : Service) : Json :=
  .object [("status", .string "ok"), ("version", .string Program.version),
    ("sessions_active", .ofNat service.sessions.length),
    ("fallback_enabled", .bool setup.settings.arbiter.enabled)]

/-- **Opens** a session. -/
def openSession (service : Service) (id : String) (conversation : Option Conversation) :
    Json × Service :=
  let session := conversation.elim Session.new Session.new.setConversation
  (.object [("session_id", .string id), ("websocket_url", .string ("/ws/" ++ id))],
    service.putSession id session)

/-- A session at a glance, with its name. -/
def glance (id : String) (session : Session) : Json :=
  match Wire.summary.write session.summary with
  | .object members => .object (("session_id", .string id) :: members)
  | j => j

/-- **Runs** a turn of a session and takes the event that it raised. -/
def runTurn (setup : Setup) (service : Service) (id : String) (session : Session)
    (script : TurnScript) : Json × Service :=
  let (report, session) := session.runTurn setup script
  let (event, session) := session.takeEvent
  (.object [("report", Wire.report.write report),
      ("reprompt_event", (Codec.option Wire.input).write event)],
    service.setSession id session)

/-- The name of a session, as a path writes it. -/
def idOf (name : String) : Except Status String :=
  match Http.decoded? name with
  | some id => .ok id
  | none => .error .badRequest

/-- The response to a request whose route allows it, and the service after it. Live reports need a
connection of their own, which no request of this kind has. -/
def respond (setup : Setup) (service : Service) (arrival : Arrival) :
    Route → Except Status (Response × Service)
  | .health => .ok (.ok (service.health setup), service)
  | .newSession => do
    let conversation ← arrival.request.read openingShape.codec
    let (body, service) := service.openSession arrival.stamp.name conversation
    return (.ok body, service)
  | .session name => do
    let id ← idOf name
    match service.session? id with
    | some session => return (.ok (glance id session), service)
    | none => .error .notFound
  | .turn name => do
    let id ← idOf name
    let script ← arrival.request.read Wire.turnScript
    match service.session? id with
    | some session =>
      let (body, service) := service.runTurn setup id session script
      return (.ok body, service)
    | none => .error .notFound
  | .live name => do
    let _ ← idOf name
    .error (if arrival.request.method = "GET" then .badRequest else .methodNotAllowed)

/-- What comes of a request: the response and the service after it, or the status that says why
there is none. -/
def result (setup : Setup) (service : Service) (arrival : Arrival) :
    Except Status (Response × Service) :=
  match (Http.path? arrival.request.target).bind Route.ofPath with
  | none => .error .notFound
  | some route =>
    if route.allows arrival.request.method then service.respond setup arrival route
    else .error .methodNotAllowed

/-- **Answers** a request. One that is not answered well changes nothing. -/
def answer (setup : Setup) (service : Service) (arrival : Arrival) : Response × Service :=
  match service.result setup arrival with
  | .ok (response, service) =>
    (if arrival.request.method = "HEAD" then { response with body := none } else response, service)
  | .error status => ({ status }, service)

end Service

end Colloquy
