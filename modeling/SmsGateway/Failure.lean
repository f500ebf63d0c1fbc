namespace SmsGateway

/-- Codes that a program can tell failures apart by. -/
inductive FailureCode where
  | invalidEnvelope
  | missingField
  | invalidExtension
  | invalidPayload
  | writeFailed
  | duplicateEvent
  | connectionFailed
  | rejected
  | queueClosed
  | handlerFailed
  | handlerPanicked
  | invalidKey
  | invalidSignature
  | eventNotFound
  | internal
  deriving DecidableEq, Repr

def FailureCode.all : List FailureCode :=
  [.invalidEnvelope, .missingField, .invalidExtension, .invalidPayload, .writeFailed,
    .duplicateEvent, .connectionFailed, .rejected, .queueClosed, .handlerFailed, .handlerPanicked,
    .invalidKey, .invalidSignature, .eventNotFound, .internal]

def FailureCode.text : FailureCode → String
  | .invalidEnvelope => "VAL_001"
  | .missingField => "VAL_002"
  | .invalidExtension => "VAL_003"
  | .invalidPayload => "VAL_004"
  | .writeFailed => "PER_001"
  | .duplicateEvent => "PER_002"
  | .connectionFailed => "PER_003"
  | .rejected => "ENQ_001"
  | .queueClosed => "ENQ_002"
  | .handlerFailed => "LSN_001"
  | .handlerPanicked => "LSN_002"
  | .invalidKey => "AUTH_001"
  | .invalidSignature => "AUTH_002"
  | .eventNotFound => "NF_001"
  | .internal => "INT_001"

def FailureCode.ofText? (s : String) : Option FailureCode :=
  FailureCode.all.find? fun c => c.text == s

/-- The families of failures. -/
inductive FailureFamily where
  | validation
  | persistence
  | enqueue
  | listener
  | authentication
  | notFound
  | configuration
  | io
  | serialization
  | internal
  deriving DecidableEq, Repr

/-- The word that texts of a family start with. -/
def FailureFamily.heading : FailureFamily → String
  | .validation => "Validation error"
  | .persistence => "Persistence error"
  | .enqueue => "Enqueue error"
  | .listener => "Listener"
  | .authentication => "Authentication error"
  | .notFound => "Not found"
  | .configuration => "Configuration error"
  | .io => "IO error"
  | .serialization => "Serialization error"
  | .internal => "Internal error"

/-- A failure, by its cause. -/
inductive Failure where
  /-- An event broke a rule. -/
  | invalid (message : String) (code : FailureCode)
  /-- A required attribute of an event was blank. -/
  | missingField (field : String)
  /-- The event log refused a write for a reason of its own. -/
  | persistence (message : String)
  /-- The event log holds an event with this id already. -/
  | duplicateEvent (id : String)
  /-- The database behind the event log reported a result code. -/
  | database (resultCode : Nat)
  /-- The push queue refused a task. -/
  | rejected (message : String)
  /-- The push queue takes no more tasks. -/
  | queueClosed
  | listener (name eventType message : String)
  | listenerPanicked (name eventType : String)
  /-- A caller showed no valid key. -/
  | authentication (message : String)
  /-- A body was not signed with the key. -/
  | invalidSignature
  /-- The event log holds no event with this id. -/
  | eventNotFound (id : String)
  /-- A setting is unusable. -/
  | configuration (message : String)
  | malformedConfiguration
  /-- A file could not be read or made. -/
  | io (message : String)
  /-- A JSON text could not be read as what it should be. -/
  | serialization (reason : String)
  /-- Anything else. -/
  | internal (message : String)
  deriving DecidableEq, Repr

namespace Failure

/-- The database's result code for a primary key that is there already. -/
def primaryKeyTaken : Nat := 1555

/-- The database's primary result code for a file it cannot open. -/
def cannotOpen : Nat := 14

def code : Failure → FailureCode
  | .invalid _ code => code
  | .missingField _ => .missingField
  | .persistence _ => .writeFailed
  | .duplicateEvent _ => .duplicateEvent
  | .database resultCode =>
      if resultCode = primaryKeyTaken then .duplicateEvent
      else if resultCode % 256 = cannotOpen then .connectionFailed
      else .writeFailed
  | .rejected _ => .rejected
  | .queueClosed => .queueClosed
  | .listener .. => .handlerFailed
  | .listenerPanicked .. => .handlerPanicked
  | .authentication _ => .invalidKey
  | .invalidSignature => .invalidSignature
  | .eventNotFound _ => .eventNotFound
  | .serialization _ => .invalidPayload
  | .configuration _ | .malformedConfiguration | .io _ | .internal _ => .internal

def family : Failure → FailureFamily
  | .invalid .. | .missingField _ => .validation
  | .persistence _ | .duplicateEvent _ | .database _ => .persistence
  | .rejected _ | .queueClosed => .enqueue
  | .listener .. | .listenerPanicked .. => .listener
  | .authentication _ | .invalidSignature => .authentication
  | .eventNotFound _ => .notFound
  | .configuration _ | .malformedConfiguration => .configuration
  | .io _ => .io
  | .serialization _ => .serialization
  | .internal _ => .internal

/-- Whether a failure reports an id that the event log has recorded already. -/
def isDuplicate (f : Failure) : Bool :=
  f.code == .duplicateEvent

/-- What a failure says, where the words are this library's own. -/
def message? : Failure → Option String
  | .invalid message _ => some message
  | .missingField field => some s!"required attribute '{field}' is missing or empty"
  | .persistence message => some message
  | .duplicateEvent id => some s!"event with id '{id}' is already recorded"
  | .database _ => none
  | .rejected message => some message
  | .queueClosed => some "push queue is closed"
  | .listener _ _ message => some message
  | .listenerPanicked .. => some "handler panicked"
  | .authentication message => some message
  | .invalidSignature => some "payload signature does not match"
  | .eventNotFound id => some s!"event with id '{id}' not found"
  | .configuration message => some message
  | .malformedConfiguration => none
  | .io message => some message
  | .serialization reason => some reason
  | .internal message => some message

/-- The words that stand in a log for a text that is not kept. -/
def foreignText : Failure → String
  | .database _ => "sqlite"
  | _ => ""

def text (f : Failure) : String :=
  let message := f.message?.getD f.foreignText
  match f with
  | .listener name eventType _ | .listenerPanicked name eventType =>
      s!"{f.family.heading} '{name}' failed on [{eventType}]: {message}"
  | _ => s!"{f.family.heading}: {message}"

/-- The attribute that a validation failure is about. -/
def details : Failure → List (String × String)
  | .missingField field => [("field", field)]
  | _ => []

def suggestion? (f : Failure) : Option String :=
  match f with
  | .missingField field => some s!"Set a non-empty '{field}' before dispatching"
  | _ =>
      match f.family with
      | .persistence =>
          if f.isDuplicate then
            some "The event was already processed; it is safe to acknowledge it"
          else some "Check the event log database and retry the occurrence"
      | .enqueue => some "Check the push queue and consumer endpoint configuration"
      | .authentication => some "Check the x-api-key header and signing key"
      | _ => none

/-- Whether a failure was caused by one of a lower layer. -/
def hasCause : Failure → Bool
  | .database _ | .io _ | .serialization _ => true
  | _ => false

end Failure

end SmsGateway
