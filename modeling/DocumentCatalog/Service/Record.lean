import DocumentCatalog.Filter.Compiler
import DocumentCatalog.Http.Message
import DocumentCatalog.Pool.Machine

/-!
What the service writes to its log.
-/

namespace DocumentCatalog
namespace Service

inductive Level where
  | info | warn | error
  deriving DecidableEq, Repr

def Level.name : Level → String
  | .info => "INFO"
  | .warn => "WARN"
  | .error => "ERROR"

structure Record where
  level : Level
  message : String
  fields : List (String × String) := []
  deriving DecidableEq, Repr

namespace Record

/-- What a call of the pool is worth telling: that the handle it saw did not answer, and that it
made a new one. -/
def ofEvents {Handle : Type} (description : String) : List (Event Handle) → List Record
  | .looked :: .unanswered cause :: rest =>
      { level := .warn, message := "Store ping failed, reconnecting: " ++ cause.chain } ::
        ofEvents description rest
  | .connected _ :: rest =>
      { level := .info, message := "Connected to document store " ++ description } ::
        ofEvents description rest
  | _ :: rest => ofEvents description rest
  | [] => []

/-- What is told about a filter, unless all of it was understood. -/
def ofCompiled (filter : String) (compiled : Filter.Compiled) : Option Record :=
  if compiled.diagnostics.isEmpty then none
  else
    some
      { level := .warn, message := "filter compiled with dropped constraints"
        fields := [("filter", filter),
          ("dropped", Text.numeral compiled.diagnostics.length)] }

def acquireFailed (failure : Failure) : Record :=
  { level := .error, message := "Failed to acquire document store: " ++ failure.chain }

def queryFailed (collection : String) (failure : Failure) : Record :=
  { level := .error, message := "Failed to query " ++ collection ++ ": " ++ failure.chain }

/-- How a request ended, by its status. -/
def outcome (status : Nat) : Level × String :=
  if 500 ≤ status then (.error, "request error")
  else if 400 ≤ status then (.warn, "request failed")
  else (.info, "request completed")

/-- What is told about every request, with the reason if it was not let through. -/
def ofRequest (request : Http.Request) (status : Nat) (rejection : Option Http.Rejection) :
    Record :=
  let (level, message) := outcome status
  { level, message
    fields :=
      [("method", request.method), ("path", request.path), ("query", request.query),
        ("status", Text.numeral status), ("client_ip", "unknown")] ++
      (rejection.map fun reason => ("error", reason.message)).toList }

end Record
end Service
end DocumentCatalog
