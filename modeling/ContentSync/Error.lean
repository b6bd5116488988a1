/-!
# Errors

Every failure of the library is one `Error`: a cause with the data that names it. Its
`message` is the sentence a person reads, and its `kind` the short name of the cause.
-/

namespace ContentSync

/-- What went wrong. -/
inductive Error where
  /-- Content that does not have the required shape. -/
  | malformed (detail : String)
  /-- An element that lacks an attribute it must carry. -/
  | missingAttribute (element attributeName : String)
  /-- A text that is no value of the named type, and why. -/
  | invalidValue (typeName value reason : String)
  /-- A markup document that cannot be read. -/
  | markup (detail : String)
  /-- A node that two aggregators claim. -/
  | ambiguousAggregate (path first second : String)
  /-- A configuration that cannot be used. -/
  | config (detail : String)
  /-- A node or version that does not exist. -/
  | notFound (what : String)
  /-- A node that exists already. -/
  | itemExists (path : String)
  /-- An operation the repository refuses. -/
  | repository (detail : String)
  /-- A file that cannot be read or written. -/
  | io (detail : String)
  /-- A JSON text that cannot be read as the value asked for. -/
  | json (detail : String)
deriving DecidableEq, Repr

/-- The sentence that describes an error. -/
def Error.message : Error → String
  | .malformed d => "Malformed content: " ++ d
  | .missingAttribute e a => "Missing attribute '" ++ a ++ "' on element <" ++ e ++ ">"
  | .invalidValue t v r => "Invalid " ++ t ++ " value '" ++ v ++ "': " ++ r
  | .markup d => "XML error: " ++ d
  | .ambiguousAggregate p f s =>
    "Ambiguous aggregate coverage at " ++ p ++ ": matched by both '" ++ f ++ "' and '" ++ s ++ "'"
  | .config d => "Configuration error: " ++ d
  | .notFound w => "Node not found: " ++ w
  | .itemExists p => "Item already exists: " ++ p
  | .repository d => "Repository error: " ++ d
  | .io d => "I/O error: " ++ d
  | .json d => "JSON error: " ++ d

/-- The short name of the cause of an error. -/
def Error.kind : Error → String
  | .malformed _ => "Malformed"
  | .missingAttribute _ _ => "MissingAttribute"
  | .invalidValue _ _ _ => "InvalidValue"
  | .markup _ => "Xml"
  | .ambiguousAggregate _ _ _ => "AmbiguousAggregate"
  | .config _ => "Config"
  | .notFound _ => "NotFound"
  | .itemExists _ => "ItemExists"
  | .repository _ => "Repository"
  | .io _ => "Io"
  | .json _ => "Json"

end ContentSync
