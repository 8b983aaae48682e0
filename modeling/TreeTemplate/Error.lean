import TreeTemplate.Token
import TreeTemplate.Value
import TreeTemplate.Form.Marker

/-!
# Errors

An error has a cause, the trail of places in the tree that lead to it, outermost first, and the name
of the template if that was given by name.  `Cause.message` says what went wrong without the place.
-/

namespace TreeTemplate

/-- The kinds of errors. -/
inductive ErrorKind where
  /-- A node or a path was made from malformed parts. -/
  | invalidArgument
  /-- A block names a helper that is not registered. -/
  | helperNotFound
  /-- A template was asked for by a name that is not registered. -/
  | unknownTemplate
  /-- Blocks are nested deeper than allowed. -/
  | maxDepth
  /-- A tree has no text. -/
  | format
  /-- The output could not be written. -/
  | io
  /-- Data could not be taken as a value. -/
  | serialize
deriving DecidableEq, Repr

/-- The word for a kind of errors in reports. -/
def ErrorKind.name : ErrorKind → String
  | .invalidArgument => "InvalidArgument"
  | .helperNotFound => "HelperNotFound"
  | .unknownTemplate => "UnknownTemplate"
  | .maxDepth => "MaxDepth"
  | .format => "Format"
  | .io => "Io"
  | .serialize => "Serialize"

/-- What went wrong. -/
inductive Cause where
  | emptyPath
  | invalidPath (text : String)
  | invalidHelper (name : String)
  | invalidTag (tag : String)
  | invalidAttribute (name : String)
  | emptyTemplateName
  /-- A reference in data form has no path or several. -/
  | pathCount (marker : Marker) (found : Nat)
  /-- The path of a reference in data form is no string. -/
  | pathNotString (marker : Marker) (found : Value.Kind)
  /-- A block in data form lacks its helper or its path. -/
  | blockIncomplete
  /-- The helper or the path of a block in data form is no string. -/
  | blockNotStrings
  /-- An unescaped value in data form is missing or has company. -/
  | unescapedCount (found : Nat)
  | helperNotFound (name : String)
  | unknownTemplate (name : String)
  | maxDepth (limit : UInt64)
  /-- A value of this kind has no text. -/
  | unformattable (kind : Value.Kind)
  /-- A placeholder is left in a tree to be written. -/
  | unexpanded (token : Token)
  | writeFailed (reason : String)
  /-- A natural number is beyond the integers of values. -/
  | integerRange
  /-- An integer of 128 bits. -/
  | wideInteger (signed : Bool)
  | keyNotString
  | valueBeforeKey
  /-- Data refused to be serialized, with its own words. -/
  | refused (message : String)
deriving DecidableEq, Repr

namespace Cause

/-- The kind of errors a cause belongs to. -/
def kind : Cause → ErrorKind
  | .emptyPath | .invalidPath _ | .invalidHelper _ | .invalidTag _ | .invalidAttribute _
  | .emptyTemplateName | .pathCount _ _ | .pathNotString _ _ | .blockIncomplete | .blockNotStrings
  | .unescapedCount _ => .invalidArgument
  | .helperNotFound _ => .helperNotFound
  | .unknownTemplate _ => .unknownTemplate
  | .maxDepth _ => .maxDepth
  | .unformattable _ | .unexpanded _ => .format
  | .writeFailed _ => .io
  | .integerRange | .wideInteger _ | .keyNotString | .valueBeforeKey | .refused _ => .serialize

/-- What went wrong, in words. -/
def message : Cause → String
  | .emptyPath => "path must not be empty"
  | .invalidPath text => s!"`{text}` is not a valid path"
  | .invalidHelper name => s!"`{name}` is not a valid helper name"
  | .invalidTag tag => s!"`{tag}` is not a valid tag"
  | .invalidAttribute name => s!"`{name}` is not a valid attribute name"
  | .emptyTemplateName => "template name must not be empty"
  | .pathCount marker found =>
    "`" ++ marker.text ++ s!"` expects exactly one path argument, found {found}"
  | .pathNotString marker found =>
    "`" ++ marker.text ++ "` path must be a string, found " ++ found.name
  | .blockIncomplete =>
    "`" ++ Marker.block.text ++ "` expects a helper and an argument path"
  | .blockNotStrings =>
    "`" ++ Marker.block.text ++ "` helper and path must be strings"
  | .unescapedCount found =>
    "`" ++ Marker.unescaped.text ++ s!"` expects exactly one value, found {found}"
  | .helperNotFound name => s!"unknown helper `{name}`"
  | .unknownTemplate name => s!"unknown template `{name}`"
  | .maxDepth limit => s!"reached maximum expansion depth ({limit})"
  | .unformattable kind => "cannot format value of type " ++ kind.name
  | .unexpanded token => "cannot serialize unexpanded placeholder `" ++ token.text ++ "`"
  | .writeFailed _ => "failed to write output"
  | .integerRange => "integer out of range for a template value"
  | .wideInteger signed => (if signed then "i" else "u") ++ "128 is not supported"
  | .keyNotString => "map key must be a string"
  | .valueBeforeKey => "map value serialized before its key"
  | .refused message => message

/-- The words of the output for its failure. -/
def source? : Cause → Option String
  | .writeFailed reason => some reason
  | _ => none

end Cause

/-- A place in a tree. -/
inductive Label where
  | element (tag : String)
  | block (helper : String) (arg : Path)
  | attribute (name : String)
deriving DecidableEq, Repr

/-- A place as reports show it: the tag, the opening token, or the attribute name behind `@`. -/
def Label.text : Label → String
  | .element tag => tag
  | .block helper arg => (Token.opening helper arg).text
  | .attribute name => "@" ++ name

/-- An error with its place. -/
structure Error where
  cause : Cause
  /-- The places around the error, outermost first. -/
  trail : List Label := []
  /-- The name under which the template was asked for. -/
  template : Option String := none
deriving DecidableEq, Repr

namespace Error

/-- The kind of an error. -/
def kind (error : Error) : ErrorKind :=
  error.cause.kind

/-- What went wrong, without the place. -/
def message (error : Error) : String :=
  error.cause.message

/-- Puts a place around an error. -/
def within (label : Label) (error : Error) : Error :=
  { error with trail := label :: error.trail }

/-- Names the template an error comes from. -/
def inTemplate (name : String) (error : Error) : Error :=
  { error with template := some name }

end Error

/-- Fails with a cause, the place not known yet. -/
def fail {α : Type} (cause : Cause) : Except Error α :=
  .error ⟨cause, [], none⟩

/-- Puts a place around the error of a computation that fails. -/
def within {α : Type} (label : Label) (result : Except Error α) : Except Error α :=
  result.mapError (Error.within label)

/-- Types of computations that may fail at a place in a tree. -/
class Located (m : Type → Type) where
  /-- Puts a place around the failure of a computation. -/
  within {α : Type} (label : Label) (computation : m α) : m α

instance : Located (Except Error) := ⟨within⟩

end TreeTemplate
