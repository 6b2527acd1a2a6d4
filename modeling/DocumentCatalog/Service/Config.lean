import DocumentCatalog.Failure
import DocumentCatalog.Text.FileName
import DocumentCatalog.Text.Numeral
import DocumentCatalog.Text.Utf8

/-!
How the service is set up. Variables of the environment replace the defaults one by one; a value
that is no text counts as missing.
-/

namespace DocumentCatalog
namespace Service

structure Config where
  port : Nat := 8001
  environment : String := "development"
  dataDirectory : String := "./data"
  collection : String := "documents"
  /-- The number of documents on a page, unless a request asks for less. -/
  resultsLimit : Nat := 100
  defaultSortField : String := "tokenid"
  idField : String := "tokenid"
  searchableFields : List String := ["name", "character", "background"]
  /-- Fields that no answer shows. -/
  privateFields : List String := ["_id"]
  deriving DecidableEq, Repr

/-- Variables with the octets of their values. -/
abbrev Environment := List (String × List Nat)

/-- The text of a variable. -/
def Environment.text? (env : Environment) (name : String) : Option String :=
  (List.lookup name env).bind Text.Utf8.text?

inductive ConfigError where
  | invalidPort (text : String) (cause : Text.NumeralError)
  | invalidLimit (text : String) (cause : Text.NumeralError)
  | zeroLimit
  deriving DecidableEq, Repr

def ConfigError.failure : ConfigError → Failure
  | .invalidPort text cause => { reason := "Invalid PORT: " ++ text, causes := [cause.message] }
  | .invalidLimit text cause =>
      { reason := "Invalid RESULTS_LIMIT: " ++ text, causes := [cause.message] }
  | .zeroLimit => { reason := "RESULTS_LIMIT must be at least 1" }

namespace Config

def greatestPort : Nat := 0xFFFF

def readPort : Option String → Except ConfigError Nat
  | none => .ok ({} : Config).port
  | some text => (Text.readNat greatestPort text).mapError (.invalidPort text)

/-- A limit of zero is refused, since no page could hold a document. -/
def readLimit : Option String → Except ConfigError Nat
  | none => .ok ({} : Config).resultsLimit
  | some text =>
      match Text.readWord text with
      | .error cause => .error (.invalidLimit text cause)
      | .ok 0 => .error .zeroLimit
      | .ok limit => .ok limit

/-- The configuration that an environment asks for. -/
def ofEnvironment (env : Environment) : Except ConfigError Config := do
  let standard : Config := {}
  let port ← readPort (env.text? "PORT")
  let resultsLimit ← readLimit (env.text? "RESULTS_LIMIT")
  let text (name default : String) := (env.text? name).getD default
  let fields (name : String) (default : List String) :=
    ((env.text? name).map Text.entries).getD default
  return { port, resultsLimit
           environment := text "ENVIRONMENT" standard.environment
           dataDirectory := text "DATA_DIR" standard.dataDirectory
           collection := text "COLLECTION_NAME" standard.collection
           defaultSortField := text "DEFAULT_SORT_FIELD" standard.defaultSortField
           idField := text "ID_FIELD" standard.idField
           searchableFields := fields "SEARCHABLE_FIELDS" standard.searchableFields
           privateFields := fields "PRIVATE_FIELDS" standard.privateFields }

/-- Whether the configuration is the default one, however its directory is spelled. -/
def isDefault (c : Config) : Bool :=
  let standard : Config := {}
  decide ({ c with dataDirectory := standard.dataDirectory } = standard) &&
    Text.FileName.samePath c.dataDirectory standard.dataDirectory

/-- Where the service listens: on every interface. -/
def listenAddress (c : Config) : String :=
  "0.0.0.0:" ++ Text.numeral c.port

end Config
end Service
end DocumentCatalog
