-- SUMMARY: Log entries: level, target, message and named fields, and the line they make.
import Radius.Text.Quoted

/-!
# Log entries

An entry says how serious it is, which part of the program it comes from, what
happened, and with which facts. On a line the message comes before the fields. A
message may hold words of a stranger, so its characters that steer a terminal are
written as their numbers; fields stay as they are.
-/

namespace Radius

inductive LogLevel where
  | error
  | warn
  | info
  | debug
  | trace
deriving DecidableEq, Repr

namespace LogLevel

def name : LogLevel → String
  | .error => "ERROR"
  | .warn  => "WARN"
  | .info  => "INFO"
  | .debug => "DEBUG"
  | .trace => "TRACE"

/-- How far a level goes into detail. -/
def detail : LogLevel → Nat
  | .error => 1
  | .warn  => 2
  | .info  => 3
  | .debug => 4
  | .trace => 5

end LogLevel

inductive LogValue where
  | plain (text : String)
  /-- A text that stands between quotes. -/
  | quoted (text : String)
  | number (n : Nat)
deriving DecidableEq, Repr

def LogValue.toText : LogValue → String
  | .plain text  => text
  | .quoted text => Quoted.quote text
  | .number n    => toString n

structure LogEntry where
  level : LogLevel
  /-- The part of the program that the entry comes from. -/
  target : String
  message : String
  fields : List (String × LogValue)
deriving DecidableEq, Repr

namespace LogEntry

/-- Whether an entry has a field. The message is a field too. -/
def hasField (entry : LogEntry) (name : String) : Bool :=
  name = "message" || entry.fields.any (·.1 = name)

/-- A character of a message on a line. -/
def escape (c : Char) : List Char :=
  match c with
  | '\x07' => ['\\', 'x', '0', '7']
  | '\x08' => ['\\', 'x', '0', '8']
  | '\x0c' => ['\\', 'x', '0', 'c']
  | '\x1b' => ['\\', 'x', '1', 'b']
  | '\x7f' => ['\\', 'x', '7', 'f']
  | c      => if 0x80 ≤ c.toNat && c.toNat ≤ 0x9F then Quoted.numbered c else [c]

/-- The line of an entry. -/
def line (entry : LogEntry) : String :=
  let message := String.ofList (entry.message.toList.flatMap escape)
  let fields := entry.fields.map (fun field => s!" {field.1}={field.2.toText}")
  s!"{entry.level.name} {entry.target}: {message}" ++ String.join fields

end LogEntry
end Radius
