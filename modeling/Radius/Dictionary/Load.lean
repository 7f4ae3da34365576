-- SUMMARY: Filling a dictionary from resources: lines are carried out one by one, includes are followed, and faults are reported and skipped.
import Radius.Dictionary.Resource
import Radius.Dictionary.Statement
import Radius.Text.Layout

/-!
# Loading a dictionary

A resource is read line by line into a dictionary. A line that cannot be carried out,
and an include that cannot be followed, leaves a warning and changes nothing; only a
resource that cannot be read at all fails. An include is carried out where it stands,
as deep as `maxIncludeDepth` below the first resource. The end of every resource is
remarked as well.
-/

namespace Radius

/-- Includes in a resource this deep are skipped. -/
def maxIncludeDepth : Nat := 16

/-! ## Warnings -/

/-- What happened to a line. -/
inductive LoadWarning.Cause where
  | skipped (error : DictionaryError)
  | unknownDirective (directive : String)
  | trailingTokens (count : Nat) (directive : Directive)
  | includeTooDeep (target : String)
  | includeNotFound (target : String)
  | includeFailed (error : DictionaryError)
deriving DecidableEq, Repr

/-- A remark on a line of a resource; lines count from 1. -/
structure LoadWarning where
  resource : String
  line : Nat
  cause : LoadWarning.Cause
deriving DecidableEq, Repr

def LoadWarning.Cause.message : LoadWarning.Cause → String
  | .skipped _             => "Skipping dictionary line"
  | .unknownDirective _    => "Unknown line type"
  | .trailingTokens count _ => s!"Ignoring {count} trailing token(s)"
  | .includeTooDeep _      => "Include depth exceeded, skipping"
  | .includeNotFound _     => "Included dictionary not found"
  | .includeFailed _       => "Failed to include dictionary"

/-- What loading remarks on. -/
inductive LoadRemark where
  | warning (warning : LoadWarning)
  /-- A resource has been read to its end, and there are so many types now. -/
  | finished (resource : String) (types : Nat)
deriving DecidableEq, Repr

def LoadRemark.warning? : LoadRemark → Option LoadWarning
  | .warning found => some found
  | .finished ..   => none

/-! ## Lines -/

/-- The words of each line of a resource, with the line's number; blank lines and comments have
none. -/
structure Line where
  number : Nat
  tokens : List String
deriving DecidableEq, Repr

namespace Line

/-- The words of a line that says something; none for a blank line and a comment. -/
def tokensOf (line : List Char) : List String :=
  match Layout.words line with
  | []           => []
  | first :: later =>
      if first.head? = some '#' then [] else (first :: later).map String.ofList

/-- The lines of a text that say something. -/
def ofText (text : List Char) : List Line :=
  ((Layout.lines text).zipIdx 1).filterMap (fun entry =>
    match tokensOf entry.1 with
    | []     => none
    | tokens => some ⟨entry.2, tokens⟩)

/-- The first word in upper case. -/
def keyword (line : Line) : String :=
  String.ofList (Layout.upper ((line.tokens.head?.getD "").toList))

end Line

/-! ## Loading -/

/-- A dictionary under way. -/
structure Loading where
  dictionary : Dictionary
  /-- The remarks so far, the latest first. -/
  journal : List LoadRemark
deriving DecidableEq

namespace Loading

/-- The remarks in their order. -/
def remarks (loading : Loading) : List LoadRemark := loading.journal.reverse

/-- The warnings in their order. -/
def warnings (loading : Loading) : List LoadWarning :=
  loading.remarks.filterMap LoadRemark.warning?

def remark (loading : Loading) (remark : LoadRemark) : Loading :=
  { loading with journal := remark :: loading.journal }

def warn (loading : Loading) (resource : String) (line : Nat) (cause : LoadWarning.Cause) :
    Loading :=
  loading.remark (.warning ⟨resource, line, cause⟩)

/-- Reads a resource into a dictionary under way. -/
abbrev Reader := (resource : String) → Loading → Except DictionaryError Loading

/-- Follow an include; `deeper` reads the resource it means, unless the include is too deep. -/
def follow (source : Source) (deeper : Option Reader) (resource : String) (line : Nat)
    (target : String) (loading : Loading) : Loading :=
  match deeper with
  | none => loading.warn resource line (.includeTooDeep target)
  | some read =>
      match source.resolve resource target with
      | none => loading.warn resource line (.includeNotFound target)
      | some found =>
          match read found loading with
          | .ok loaded    => loaded
          | .error fault => loading.warn resource line (.includeFailed fault)

/-- Remark on words past the last one that a directive needs. -/
def remarkTrailing (resource : String) (line : Line) (directive : Directive) (loading : Loading) :
    Loading :=
  if directive.arity < line.tokens.length then
    loading.warn resource line.number
      (.trailingTokens (line.tokens.length - directive.arity) directive)
  else loading

/-- Carry one line out. -/
def step (source : Source) (deeper : Option Reader) (resource : String) (loading : Loading)
    (line : Line) : Loading :=
  match Directive.ofKeyword? line.keyword with
  | none => loading.warn resource line.number (.unknownDirective line.keyword)
  | some directive =>
      let loading := loading.remarkTrailing resource line directive
      match Statement.ofTokens directive line.tokens with
      | .error fault => loading.warn resource line.number (.skipped fault)
      | .ok (.inclusion target) => loading.follow source deeper resource line.number target
      | .ok statement =>
          match statement.apply loading.dictionary with
          | .ok dictionary => { loading with dictionary := dictionary }
          | .error fault   => loading.warn resource line.number (.skipped fault)

/-- Read a resource whose includes `deeper` reads. -/
def readResource (source : Source) (deeper : Option Reader) : Reader := fun resource loading =>
  match source.read resource with
  | .error fault => .error (.unreadable resource fault)
  | .ok bytes =>
      let loaded := (Line.ofText (Utf8.lossyChars bytes)).foldl (step source deeper resource) loading
      .ok (loaded.remark (.finished resource loaded.dictionary.size))

/-- Read a resource whose includes may go `depth` deeper. -/
def readTo (source : Source) : (depth : Nat) → Reader
  | 0         => readResource source none
  | depth + 1 => readResource source (some (readTo source depth))

end Loading

namespace Dictionary

/-- The includes that the lines of a resource ask for. -/
def inclusions (bytes : Bytes) : List String :=
  (Line.ofText (Utf8.lossyChars bytes)).filterMap (fun line =>
    match (Directive.ofKeyword? line.keyword).map (Statement.ofTokens · line.tokens) with
    | some (.ok (.inclusion target)) => some target
    | _                              => none)

/-- Read a resource, and all it includes, into a dictionary. -/
def load (dictionary : Dictionary) (source : Source) (resource : String) :
    Except DictionaryError Loading :=
  Loading.readTo source maxIncludeDepth resource ⟨dictionary, []⟩

end Dictionary
end Radius
