import SmsGateway.Http.Exchange
import SmsGateway.Text.Percent

namespace SmsGateway.Server

open SmsGateway.Http

/-- What a path leads to. -/
inductive Route where
  | health
  /-- Where the push queue delivers events. -/
  | consume
  /-- A recorded event, by its id as it stands in the path. -/
  | event (id : List Char)
  deriving DecidableEq, Repr

namespace Route

def eventsPath : List Char := "/v1/events/".toList

def ofPath? (path : List Char) : Option Route :=
  if path = "/health".toList then some .health
  else if eventsPath.isPrefixOf path then
    let id := path.drop eventsPath.length
    if id = "consume".toList then some .consume
    else if id = [] ∨ '/' ∈ id then none
    else some (.event id)
  else none

/-- Whether callers have to show the key. -/
def isGuarded : Route → Bool
  | .health => false
  | .consume | .event _ => true

/-- The methods of a route, as a refusal names them. -/
def methods : Route → String
  | .consume => "POST"
  | .health | .event _ => "GET,HEAD"

def allows (r : Route) (method : String) : Bool :=
  match r with
  | .consume => method == "POST"
  | .health | .event _ => method == "GET" || method == "HEAD"

/-- The id in the path of an event, if its bytes are a text. -/
def decodedId? (id : List Char) : Option String :=
  Text.ofBytes? (Text.percentDecode (Text.bytes (String.ofList id)))

end Route

end SmsGateway.Server
