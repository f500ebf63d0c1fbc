import SmsGateway.Dispatch.Dispatcher
import SmsGateway.Server.ErrorReport
import SmsGateway.Server.Route

/-!
The server that consumes delivered events and shows recorded ones. A delivery is let in by the
shared key, has its signature checked where it carries one, and is dispatched at once. An event
that was published before is acknowledged, so that the push queue stops delivering it.
-/

namespace SmsGateway

open SmsGateway.Http

/-- A server: the key that callers have to show, and the dispatcher of delivered events. -/
structure Server (α : Type) where
  key : String
  dispatcher : Dispatcher α

namespace Server

variable {α σ : Type}

def version : String := "0.1.0"

/-- The greatest length of a request's body. -/
def maxBody : Nat := 2097152

/-- Whether a caller may come in with a key. Without a key of its own the server lets nobody in. -/
def isValidKey (s : Server α) (presented : String) : Bool :=
  s.key != "" && Signature.equalBytes (Text.bytes s.key) (Text.bytes presented)

/-- Whether a request carries the key. -/
def isAuthorised (s : Server α) (r : Request) : Bool :=
  s.isValidKey ((r.header? apiKeyHeader).elim "" Request.headerText)

/-- Whether a request's body is what it is signed as. A request need not be signed. -/
def isGenuine (s : Server α) (r : Request) : Bool :=
  match r.header? signatureHeader with
  | some value => Signature.verify r.body s.key (Request.headerText value)
  | none => true

def refusal (f : Failure) : Response :=
  (ErrorReport.ofFailure f).response

/-- The response to a delivered event. -/
def acknowledgement (status id : String) : Response :=
  .json 200 (Json.obj [("status", .str status), ("event_id", .str id)]).compact

/-- The response that tells how the dispatch of an event ended. -/
def afterDispatch (id : String) : Except Failure Unit → Response
  | .ok () => acknowledgement "processed" id
  | .error f => if f.isDuplicate then acknowledgement "duplicate" id else refusal f

/-- The event that a request delivers, or the response to one that delivers none. -/
def delivered (s : Server α) (r : Request) : Except Response Envelope :=
  if maxBody < r.body.length then
    .error (.plain 413 "Failed to buffer the request body: length limit exceeded")
  else if !s.isGenuine r then .error (refusal .invalidSignature)
  else (Envelope.ofBytes r.body).mapError refusal

/-- Consumes a delivered event. -/
def consume (s : Server α) (env : Surroundings α σ) (r : Request) (w : World σ) :
    Option Response × World σ :=
  match s.delivered r with
  | .error response => (some response, w)
  | .ok e =>
      let (result, w) := s.dispatcher.dispatchSync env e w
      (result.map (afterDispatch e.id), w)

def showEvent (env : Surroundings α σ) (id : List Char) (w : World σ) : Response × World σ :=
  match Route.decodedId? id with
  | none => (.plain 400 "Invalid URL: Invalid UTF-8 in `id`", w)
  | some id =>
      match w.load env id with
      | (.ok (some e), w) => (.json 200 e.wire, w)
      | (.ok none, w) => (refusal (.eventNotFound id), w)
      | (.error f, w) => (refusal f, w)

/-- Tells that the server is well. -/
def health (s : Server α) : Response :=
  .json 200 (Json.obj [("status", .str "healthy"), ("version", .str version),
    ("subscribed_event_types", .int s.dispatcher.registry.types.length)]).compact

/-- A request for a known path with a method that it takes. -/
def serve (s : Server α) (env : Surroundings α σ) (route : Route) (r : Request) (w : World σ) :
    Option Response × World σ :=
  match route with
  | .health => (some s.health, w)
  | .consume => s.consume env r w
  | .event id => let (response, w) := showEvent env id w; (some response, w)

/-- A request for a known path: first the key is checked and then the method. -/
def letIn (s : Server α) (env : Surroundings α σ) (route : Route) (r : Request) (w : World σ) :
    Option Response × World σ :=
  if route.isGuarded && !s.isAuthorised r then
    (some (refusal (.authentication "missing or invalid x-api-key header")), w)
  else if route.allows r.method then s.serve env route r w
  else (some (.bare 405), w)

/-- Puts what belongs to a route into a response: the methods where the method was wrong, and no
body where only the head was asked for. -/
def finish (route : Route) (method : String) (r : Response) : Response :=
  let r := if route.allows method then r else { r with allow := some route.methods }
  if method = "HEAD" ∧ route ≠ .consume then { r with body := "" } else r

/-- The response to a request from any origin; `none` if some listener never ends. -/
def handle (s : Server α) (env : Surroundings α σ) (r : Request) (w : World σ) :
    Option Response × World σ :=
  let shared (r : Response) : Response := { r with allowOrigin := some "*" }
  match Route.ofPath? r.path with
  | none => (some (shared (.bare (if r.method = "OPTIONS" then 200 else 404))), w)
  | some route =>
      if r.method = "OPTIONS" then (some (shared (finish route r.method (.bare 200))), w)
      else
        let (response, w) := s.letIn env route r w
        (response.map fun x => shared (finish route r.method x), w)

def diagnostic (name : α → String) (s : Server α) : String :=
  "AppState \x7b dispatcher: " ++ s.dispatcher.diagnostic name ++ ", .. \x7d"

end Server

end SmsGateway
