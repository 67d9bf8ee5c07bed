import QueueService.Error.Service
import QueueService.Xml

/-!
# Reporting failures

A failure as it is told: its code and wording, and what lies behind it, which only privileged callers
get to see.
-/

namespace QueueService

/-- A failure by its code, with its wording and what lies behind it. -/
structure Failure where
  code : ErrorCode
  message : String
  cause? : Option String
  deriving DecidableEq

namespace Failure

/-- A failure of the service itself, with what lies behind it. -/
def internal (cause : String) : Failure :=
  { code := .internalFailure, message := ServiceError.internalMessage, cause? := some cause }

/-- The failure that a request ended in. -/
def ofError (e : ServiceError) : Failure :=
  { code := e.code, message := e.message, cause? := e.detail? }

end Failure

/-- What a caller gets to see of a failure. -/
structure ErrorReport where
  code : ErrorCode
  message : String
  detail? : Option String
  requestId : String
  deriving DecidableEq

namespace ErrorReport

/-- The namespace of all answers. -/
def xmlNamespace : String := "http://queue.amazonaws.com/doc/2012-11-05/"

/-- Report a failure. What lies behind it is left out for callers without privilege. -/
def ofFailure (f : Failure) (privileged : Bool) (requestId : String) : ErrorReport :=
  { code := f.code, message := f.message,
    detail? := if privileged then f.cause? else none, requestId }

/-- The short text of a report. -/
def toText (report : ErrorReport) : String := report.code.wire ++ ": " ++ report.message

/-- The document of a report. -/
def toXml (report : ErrorReport) : Xml :=
  let detail :=
    match report.detail? with
    | some text => Xml.leaf "Detail" text
    | none => Xml.empty "Detail"
  .element "ErrorResponse" [("xmlns", xmlNamespace)]
    [.text "\n  ",
      .node "Error"
        [.text "\n    ", .leaf "Type" report.code.fault,
          .text "\n    ", .leaf "Code" report.code.wire,
          .text "\n    ", .leaf "Message" report.message,
          .text "\n    ", detail,
          .text "\n  "],
      .text "\n  ", .node "RequestId" [.verbatim report.requestId],
      .text "\n"]

end ErrorReport

end QueueService
