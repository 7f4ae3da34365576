-- SUMMARY: What the arguments of the command line ask for.

/-!
# Arguments

The one positional argument is the path of the configuration. Options are flags with
a long and a short form; short ones may stand together behind one dash. Two dashes
end the options, and a dash alone is a path. Arguments are taken from the left: help
and version answer as soon as they are met, and so does the first misuse.
-/

namespace Radius

/-- How to run the endpoint. -/
structure Invocation where
  configPath : String
  /-- Whether only the configuration is checked. -/
  validateOnly : Bool
deriving DecidableEq, Repr

inductive CommandRequest where
  | run (invocation : Invocation)
  | help
  | version
  /-- An option that is unknown or given twice, or an argument too many. -/
  | misuse
deriving DecidableEq, Repr

inductive Flag where
  | validate
  | help
  | version
deriving DecidableEq, Repr

namespace Flag

def ofLong? : String → Option Flag
  | "validate" => some .validate
  | "help"     => some .help
  | "version"  => some .version
  | _          => none

def ofShort? : Char → Option Flag
  | 'v' => some .validate
  | 'h' => some .help
  | 'V' => some .version
  | _   => none

end Flag

/-- The path of the configuration unless another one is given. -/
def defaultConfigPath : String := "config.json"

/-- What arguments have said so far. -/
structure ArgumentScan where
  path : Option String
  validate : Bool

namespace ArgumentScan

def start : ArgumentScan := ⟨none, false⟩

def invocation (scan : ArgumentScan) : Invocation :=
  ⟨scan.path.getD defaultConfigPath, scan.validate⟩

/-- Take flags from the left; an answer other than the scan itself ends it. -/
def takeFlags (scan : ArgumentScan) : List (Option Flag) → Except CommandRequest ArgumentScan
  | []                     => .ok scan
  | none :: _              => .error .misuse
  | some .help :: _        => .error .help
  | some .version :: _     => .error .version
  | some .validate :: more =>
      if scan.validate then .error .misuse else takeFlags { scan with validate := true } more

/-- Take a positional argument. -/
def takePath (scan : ArgumentScan) (path : String) : Except CommandRequest ArgumentScan :=
  if scan.path.isSome then .error .misuse else .ok { scan with path := some path }

/-- Take an argument in front of the end of the options. -/
def take (scan : ArgumentScan) (argument : String) : Except CommandRequest ArgumentScan :=
  match argument.toList with
  | '-' :: '-' :: name  => scan.takeFlags [Flag.ofLong? (String.ofList name)]
  | '-' :: c :: letters => scan.takeFlags ((c :: letters).map Flag.ofShort?)
  | _                   => scan.takePath argument

/-- Take arguments from the left. -/
def takeAll (scan : ArgumentScan) : List String → Except CommandRequest ArgumentScan
  | [] => .ok scan
  | argument :: later =>
      if argument = "--" then later.foldlM takePath scan
      else
        match scan.take argument with
        | .ok scan       => takeAll scan later
        | .error request => .error request

end ArgumentScan

/-- What a command line asks for. -/
def CommandRequest.ofArguments (arguments : List String) : CommandRequest :=
  match ArgumentScan.start.takeAll arguments with
  | .ok scan       => .run scan.invocation
  | .error request => request

end Radius
