import SmsGateway.Failure
import SmsGateway.Http.Exchange
import SmsGateway.Http.Status
import SmsGateway.Json.Writer

namespace SmsGateway.Server

open SmsGateway.Http

/-- A failure as a caller sees it. -/
structure ErrorReport where
  status : Nat
  code : FailureCode
  message : String
  details : Option Json

namespace ErrorReport

def statusOf : FailureFamily → Nat
  | .validation | .serialization => 422
  | .authentication => 401
  | .notFound => 404
  | .enqueue => 503
  | .persistence | .listener | .configuration | .io | .internal => 500

/-- What a caller is told before the words of a failure. -/
def headingOf : FailureFamily → String
  | .serialization => "Malformed event: "
  | .persistence => "Event log error: "
  | .configuration => "Configuration error: "
  | .io => "IO error: "
  | .validation | .enqueue | .listener | .authentication | .notFound | .internal => ""

/-- The attributes that a validation failure is about, and what may resolve it. -/
def detailsOf (f : Failure) : Option Json :=
  if f.family = .validation ∧ (f.details ≠ [] ∨ f.suggestion?.isSome) then
    some (.obj
      [("fields", .obj (f.details.map fun d => (d.1, .str d.2))),
        ("suggestion", (f.suggestion?.map Json.str).getD .null)])
  else none

def ofFailure (f : Failure) : ErrorReport :=
  ⟨statusOf f.family, f.code, headingOf f.family ++ f.message?.getD f.foreignText, detailsOf f⟩

def text (r : ErrorReport) : String :=
  s!"[{statusText r.status}] {r.code.text}: {r.message}"

/-- The JSON value that a report is sent as. -/
def toJson (r : ErrorReport) : Json :=
  .obj [("error", .obj ([("code", .str r.code.text), ("message", .str r.message)] ++
    r.details.toList.map fun d => ("details", d)))]

def response (r : ErrorReport) : Response :=
  .json r.status r.toJson.compact

end ErrorReport

end SmsGateway.Server
