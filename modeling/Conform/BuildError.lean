import Conform.Kind

/-!
# Errors of construction

What can go wrong while a context is configured or a schema is built.  Each cause has a code, a
broad category and a message.
-/

namespace Conform

/-- Why a schema could not be built or a context not be configured. -/
inductive BuildError where
  /-- No builder of the name. -/
  | unknownBuilder (name : String)
  /-- An extension declares a builder whose name is taken. -/
  | builderConflict (name ext : String)
  /-- No kind of the name. -/
  | unknownType (name : String)
  /-- The format is not declared for the kind. -/
  | unknownFormat (kind : Kind) (format : String)
  /-- No extend hook of the name. -/
  | unknownExtend (name : String)
  /-- The operation needs an object or array schema. -/
  | notComposite (operation : String) (kind : Kind)
  /-- The children do not fit the kind. -/
  | invalidChildren (kind : Kind) (reason : String)
  /-- The property is not declared. -/
  | unknownProperty (name : String)
  /-- A conditional option has no predicate. -/
  | missingPredicate (index : Nat)
  /-- A regular expression is malformed. -/
  | invalidPattern (pattern reason : String)
  /-- The argument of an extend hook has the wrong shape. -/
  | invalidArgument (name reason : String)
  /-- Something was registered after the first schema was built. -/
  | contextFrozen
  /-- The configuration could not be read. -/
  | config (reason : String)
  deriving DecidableEq

namespace BuildError

open Text

def code : BuildError → String
  | .unknownBuilder _ => "MODEL_UNKNOWN_BUILDER"
  | .builderConflict .. => "MODEL_BUILDER_CONFLICT"
  | .unknownType _ => "MODEL_UNKNOWN_TYPE"
  | .unknownFormat .. => "MODEL_UNKNOWN_FORMAT"
  | .unknownExtend _ => "MODEL_UNKNOWN_EXTEND"
  | .notComposite .. => "MODEL_NOT_COMPOSITE"
  | .invalidChildren .. => "MODEL_INVALID_CHILDREN"
  | .unknownProperty _ => "MODEL_UNKNOWN_PROPERTY"
  | .missingPredicate _ => "MODEL_MISSING_PREDICATE"
  | .invalidPattern .. => "MODEL_INVALID_PATTERN"
  | .invalidArgument .. => "MODEL_INVALID_ARGUMENT"
  | .contextFrozen => "MODEL_CONTEXT_FROZEN"
  | .config _ => "MODEL_CONFIG"

def category : BuildError → String
  | .unknownBuilder _ | .unknownType _ | .unknownFormat .. | .unknownExtend _
  | .unknownProperty _ => "lookup"
  | .builderConflict .. | .contextFrozen => "registry"
  | .notComposite .. | .invalidChildren .. | .missingPredicate _ | .invalidPattern ..
  | .invalidArgument .. => "builder"
  | .config _ => "config"

def message : BuildError → String
  | .unknownBuilder name => "unknown builder " ++ tick name
  | .builderConflict name ext =>
    "builder " ++ tick name ++ " declared by extension " ++ tick ext ++ " is already registered"
  | .unknownType name => "unknown type " ++ tick name
  | .unknownFormat kind format =>
    "format " ++ tick format ++ " is not registered for type " ++ tick kind.name
  | .unknownExtend name => "unknown extend hook " ++ tick name
  | .notComposite operation kind =>
    tick operation ++ " requires an object or array model, got " ++ tick kind.name
  | .invalidChildren kind reason =>
    "invalid children for " ++ tick kind.name ++ " model: " ++ reason
  | .unknownProperty name => "unknown property " ++ tick name
  | .missingPredicate index =>
    "conditional option " ++ toString index ++ " has no " ++ tick "applies" ++ " predicate"
  | .invalidPattern pattern reason => "invalid pattern " ++ tick pattern ++ ": " ++ reason
  | .invalidArgument name reason => "invalid argument for " ++ tick name ++ ": " ++ reason
  | .contextFrozen => "model context is frozen: register extensions before building models"
  | .config reason => "invalid configuration: " ++ reason

end BuildError

end Conform
