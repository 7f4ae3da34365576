-- SUMMARY: Remarks on dictionaries and on requests as log entries.
import Radius.Address.Printer
import Radius.Dictionary.Load
import Radius.Handler.Users
import Radius.Log.Basic

/-!
# Remarks as log entries

A remark is a warning with the facts of its cause as fields, but for the end of a
resource, which is of interest only to those who look for faults.
-/

namespace Radius

def AuthProtocol.name : AuthProtocol → String
  | .pap  => "Pap"
  | .chap => "Chap"

/-- The facts of a remark on a line, besides the line. -/
def LoadWarning.Cause.fields : LoadWarning.Cause → List (String × LogValue)
  | .skipped error              => [("error", .plain error.message)]
  | .unknownDirective directive => [("directive", .quoted directive)]
  | .trailingTokens _ directive => [("directive", .quoted directive.keyword)]
  | .includeTooDeep target      => [("include", .quoted target)]
  | .includeNotFound target     => [("include", .quoted target)]
  | .includeFailed error        => [("error", .plain error.message)]

/-- The part of the program that loads dictionaries. -/
def loadTarget : String := "radius_codec::dictionary::parser"

def LoadWarning.entry (warning : LoadWarning) : LogEntry where
  level := .warn
  target := loadTarget
  message := warning.cause.message
  fields :=
    [("resource", .quoted warning.resource), ("line", .number warning.line)] ++ warning.cause.fields

def LoadRemark.entry : LoadRemark → LogEntry
  | .warning found           => found.entry
  | .finished resource types =>
      ⟨.debug, loadTarget, "Parsed dictionary resource",
        [("resource", .quoted resource), ("types", .number types)]⟩

def HandlerWarning.fields : HandlerWarning → List (String × LogValue)
  | .authenticationFailed userName remote identifier protocol =>
      [("username", .plain userName), ("client_addr", .plain remote.toText),
        ("request_id", .number identifier.toNat), ("protocol", .plain protocol.name)]
  | .replySkipped userName name error =>
      [("username", .plain userName), ("attribute", .plain name), ("error", .plain error.message)]

def HandlerWarning.entry (warning : HandlerWarning) : LogEntry where
  level := .warn
  target := "radius_endpoint::handler"
  message := warning.message
  fields := warning.fields

end Radius
