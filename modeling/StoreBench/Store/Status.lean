namespace StoreBench

/-! The outcome of a store operation. -/

inductive Status where
  | ok
  | error
  | notFound
  | notImplemented
  | unexpectedState
  | badRequest
  | forbidden
  | serviceUnavailable
  | batchedOk
  deriving DecidableEq, Repr

namespace Status

def all : List Status :=
  [.ok, .error, .notFound, .notImplemented, .unexpectedState, .badRequest, .forbidden,
    .serviceUnavailable, .batchedOk]

example (status : Status) : status ∈ all := by cases status <;> decide

def isOk : Status → Bool
  | .ok | .batchedOk => true
  | _ => false

def name : Status → String
  | .ok => "OK"
  | .error => "ERROR"
  | .notFound => "NOT_FOUND"
  | .notImplemented => "NOT_IMPLEMENTED"
  | .unexpectedState => "UNEXPECTED_STATE"
  | .badRequest => "BAD_REQUEST"
  | .forbidden => "FORBIDDEN"
  | .serviceUnavailable => "SERVICE_UNAVAILABLE"
  | .batchedOk => "BATCHED_OK"

def description : Status → String
  | .ok => "The operation completed successfully."
  | .error => "The operation failed."
  | .notFound => "The requested record was not found."
  | .notImplemented => "The operation is not implemented for the current binding."
  | .unexpectedState =>
      "The operation reported success, but the result was not as expected."
  | .badRequest => "The request was not valid."
  | .forbidden => "The operation is forbidden."
  | .serviceUnavailable => "Dependant service for the current binding is not available."
  | .batchedOk => "The operation has been batched by the binding to be executed later."

def ofName? (name : String) : Option Status := all.find? (·.name == name)

theorem ofName?_name (status : Status) : ofName? status.name = some status := by
  cases status <;> decide

end Status
end StoreBench
