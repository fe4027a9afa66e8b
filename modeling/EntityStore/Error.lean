import EntityStore.Schema.FieldType
import EntityStore.Document.Decode

/-!
# Errors

Every way in which an operation can fail is one constructor of `Error`, and holds what its message
shows. `Error.kind` sorts the causes, and `Error.message` is the only place that words them.
-/

namespace EntityStore

/-- How an attribute breaks the rules declared for it. -/
inductive ValidationFailure where
  | missing (name : String)
  | isNull (name : String)
  | wrongType (name : String) (type : FieldType)
  | notAllowed (name : String) (allowed : List String)
  | tooSmall (name : String) (bound : Binary64)
  | tooLarge (name : String) (bound : Binary64)
  | noMatch (name pattern : String)
deriving DecidableEq, Repr

/-- Why no related row was found. -/
inductive MissingTarget where
  | nullKey (column : String)
  | noRow (table column : String) (key : Value)
  | noIntermediate (entity column : String) (key : Value)
deriving DecidableEq, Repr

/-- A setting that cannot be used. -/
inductive ConfigError where
  | invalidValue (field value expected : String)
  | validationFailed (field reason : String)
deriving DecidableEq, Repr

/-- What a payments operation refuses, or its provider reports. -/
inductive PaymentsError where
  | notACustomer (entity id : String)
  | alreadyCustomer (entity id customer : String)
  | noSubscription (kind : String)
  | invalidRequest (reason : String)
  | provider (reason : String)
deriving DecidableEq, Repr

/-- What a two-factor operation refuses, or its provider reports. -/
inductive AuthError where
  | notEnabled (entity : String) (id : Int)
  | provider (reason : String)
deriving DecidableEq, Repr

/-- The sorts of errors that callers tell apart. -/
inductive ErrorKind where
  | recordNotFound
  | relationNotFound
  | invalidQueryCondition
  | definition
  | validation
  | database
  | integrity
  | missingPrimaryKey
  | serialization
  | transaction
  | configuration
  | payments
  | auth
deriving DecidableEq, Repr

/-- The cause of a failure. -/
inductive Error where
  | noRecord (entity : String) (id : Int)
  | noRecords (entity : String)
  | noRowReturned
  | undeclaredRelation (entity relation : String)
  | missingTarget (entity relation : String) (cause : MissingTarget)
  | unsupportedOperator (text : String)
  | unsupportedDirection (text : String)
  | unsupportedJoin (operator : String)
  | noAlternatives
  | rangeBounds (column : String) (count : Nat)
  | unknownAttribute (entity field : String)
  | invalidIdentifier (text : String)
  | aggregateWithoutColumn (function : String)
  | notARow (value : Value)
  | manyRelated (relation entity : String)
  | pageBounds (limit page : Nat)
  | emptyChunks
  | unreadableSchema
  | duplicateModel (entity : String)
  | unregisteredModel (entity : String)
  | attributeCollision (field entity : String)
  | fieldCollision (field entity source : String)
  | duplicateRelation (relation entity : String)
  | unknownTarget (relation entity : String)
  | missingThrough (relation entity : String)
  | invalidPattern (entity field : String)
  | unknownSearchColumn (column entity : String)
  | missingCapability (entity capability : String)
  | noPivot (relation : String)
  | noIntermediate (relation : String)
  | invalidAttributes (failures : List ValidationFailure)
  | refused (reason : String)
  | duplicateKey (table column : String) (key : Int)
  | keyOverflow
  | poolClosed
  | notRetrieved (action entity : String)
  | missingPrimaryKey
  | decode (cause : DecodeError)
  | notNumeric (function column : String) (value : Value)
  | transactionFinished
  | nestedBegin
  | nestedTransaction
  | commitFailed (cause : Error)
  | config (cause : ConfigError)
  | noDatabaseUrl
  | noPaymentsProvider
  | noTwoFactorProvider
  | payments (cause : PaymentsError)
  | auth (cause : AuthError)
deriving Repr

namespace ValidationFailure

def message : ValidationFailure → String
  | .missing name => name ++ " is required"
  | .isNull name => name ++ " cannot be null"
  | .wrongType name type => name ++ " must be of type " ++ type.title
  | .notAllowed name allowed => name ++ " must be one of [" ++ ", ".intercalate allowed ++ "]"
  | .tooSmall name bound => name ++ " must be at least " ++ bound.plainText
  | .tooLarge name bound => name ++ " must be at most " ++ bound.plainText
  | .noMatch name pattern => name ++ " does not match " ++ pattern

end ValidationFailure

namespace MissingTarget

def message : MissingTarget → String
  | .nullKey column => column ++ " is null"
  | .noRow table column key => table ++ "." ++ column ++ " = " ++ key.render
  | .noIntermediate entity column key =>
    "no " ++ entity ++ " with " ++ column ++ " = " ++ key.render

end MissingTarget

namespace ConfigError

/-- The name of the kind. -/
def title : ConfigError → String
  | .invalidValue .. => "InvalidValue"
  | .validationFailed .. => "ValidationFailed"

def message : ConfigError → String
  | .invalidValue field value expected =>
    "Invalid value for field '" ++ field ++ "': '" ++ value ++ "'. Expected: " ++ expected
  | .validationFailed field reason =>
    "Configuration validation failed for " ++ field ++ ": " ++ reason

end ConfigError

namespace PaymentsError

def message : PaymentsError → String
  | .notACustomer entity id => entity ++ " " ++ id ++ " is not a payments customer"
  | .alreadyCustomer entity id customer =>
    entity ++ " " ++ id ++ " is already a payments customer (" ++ customer ++ ")"
  | .noSubscription kind => "No " ++ kind ++ " subscription found"
  | .invalidRequest reason => "Invalid payments request: " ++ reason
  | .provider reason => "Payments provider error: " ++ reason

end PaymentsError

namespace AuthError

def message : AuthError → String
  | .notEnabled entity id =>
    "Two-factor authentication is not enabled for " ++ entity ++ " " ++ toString id
  | .provider reason => "Auth provider error: " ++ reason

end AuthError

namespace ErrorKind

/-- The name of the kind. -/
def title : ErrorKind → String
  | .recordNotFound => "RecordNotFound"
  | .relationNotFound => "RelationNotFound"
  | .invalidQueryCondition => "InvalidQueryCondition"
  | .definition => "Definition"
  | .validation => "Validation"
  | .database => "Database"
  | .integrity => "Integrity"
  | .missingPrimaryKey => "MissingPrimaryKey"
  | .serialization => "Serialization"
  | .transaction => "Transaction"
  | .configuration => "Configuration"
  | .payments => "Payments"
  | .auth => "Auth"

/-- The words in front of every message of a kind. -/
def heading : ErrorKind → String
  | .recordNotFound => "Record not found: "
  | .relationNotFound => "Relation not found: "
  | .invalidQueryCondition => "Invalid query condition: "
  | .definition => "Model definition error: "
  | .validation => "Validation error: "
  | .database => "Database error: "
  | .integrity => "Integrity error: "
  | .missingPrimaryKey => "Primary key is missing or invalid"
  | .serialization => "Serialization error: "
  | .transaction => "Transaction error: "
  | .configuration => "Configuration error: "
  | .payments => "Payments error: "
  | .auth => "Auth error: "

end ErrorKind

namespace Error

def kind : Error → ErrorKind
  | .noRecord .. | .noRecords _ | .noRowReturned => .recordNotFound
  | .undeclaredRelation .. | .missingTarget .. => .relationNotFound
  | .unsupportedOperator _ | .unsupportedDirection _ | .unsupportedJoin _ | .noAlternatives
  | .rangeBounds .. | .unknownAttribute .. | .invalidIdentifier _ | .aggregateWithoutColumn _
  | .notARow _ | .manyRelated .. | .pageBounds .. | .emptyChunks => .invalidQueryCondition
  | .unreadableSchema | .duplicateModel _ | .unregisteredModel _ | .attributeCollision ..
  | .fieldCollision .. | .duplicateRelation .. | .unknownTarget .. | .missingThrough ..
  | .invalidPattern .. | .unknownSearchColumn .. | .missingCapability .. | .noPivot _
  | .noIntermediate _ => .definition
  | .invalidAttributes _ | .refused _ => .validation
  | .duplicateKey .. | .keyOverflow | .poolClosed => .database
  | .notRetrieved .. => .integrity
  | .missingPrimaryKey => .missingPrimaryKey
  | .decode _ | .notNumeric .. => .serialization
  | .transactionFinished | .nestedBegin | .nestedTransaction | .commitFailed _ => .transaction
  | .config _ | .noDatabaseUrl | .noPaymentsProvider | .noTwoFactorProvider => .configuration
  | .payments _ => .payments
  | .auth _ => .auth

/-- Something that was looked for is not there. -/
def isNotFound (e : Error) : Bool :=
  e.kind = .recordNotFound || e.kind = .relationNotFound

/-- A value inside a sentence: texts without quotes. -/
def inSentence : Value → String
  | .text s => s
  | v => v.render

/-- The message without its heading. -/
def detail : Error → String
  | .noRecord entity id => "No " ++ entity ++ " results for " ++ toString id
  | .noRecords entity => "No " ++ entity ++ " results found for query"
  | .noRowReturned => "no rows returned by a query that expected to return at least one row"
  | .undeclaredRelation entity relation =>
    "relation '" ++ relation ++ "' is not declared on " ++ entity
  | .missingTarget entity relation cause =>
    "Model Relation Not Found: " ++ entity ++ "." ++ relation ++ " (" ++ cause.message ++ ")"
  | .unsupportedOperator text => "unsupported operator '" ++ text ++ "'"
  | .unsupportedDirection text => "unsupported order direction '" ++ text ++ "'"
  | .unsupportedJoin operator => "joins only support '=', got '" ++ operator ++ "'"
  | .noAlternatives => "or_where requires at least one condition"
  | .rangeBounds column count =>
    "where_between on '" ++ column ++ "' expects exactly 2 values, got " ++ toString count
  | .unknownAttribute entity field => entity ++ " has no attribute '" ++ field ++ "'"
  | .invalidIdentifier text => "invalid identifier '" ++ text ++ "'"
  | .aggregateWithoutColumn function => function ++ " requires a column"
  | .notARow value => "expected an object of attribute values, got " ++ value.render
  | .manyRelated relation entity =>
    "relation '" ++ relation ++ "' on " ++ entity ++ " returns many rows"
  | .pageBounds limit page =>
    "paginate expects a positive limit and page, got limit " ++ toString limit ++ " and page " ++
      toString page
  | .emptyChunks => "chunk size must be positive"
  | .unreadableSchema => ""
  | .duplicateModel entity => "Model " ++ entity ++ " is defined more than once"
  | .unregisteredModel entity => "Model " ++ entity ++ " is not registered"
  | .attributeCollision field entity =>
    "attribute '" ++ field ++ "' on " ++ entity ++ " collides with a system field"
  | .fieldCollision field entity source =>
    "field '" ++ field ++ "' on " ++ entity ++ " is introduced twice (" ++ source ++ ")"
  | .duplicateRelation relation entity =>
    "Relation '" ++ relation ++ "' is declared more than once on " ++ entity
  | .unknownTarget relation entity =>
    "invalid relation configuration: Relation '" ++ relation ++ "' targets unknown model '" ++
      entity ++ "'"
  | .missingThrough relation entity =>
    "invalid relation configuration: Relation '" ++ relation ++ "' on " ++ entity ++
      " needs a 'through' model"
  | .invalidPattern entity field => "invalid pattern for " ++ entity ++ "." ++ field
  | .unknownSearchColumn column entity =>
    "Search column '" ++ column ++ "' is not a column of " ++ entity
  | .missingCapability entity capability => entity ++ " is not " ++ capability
  | .noPivot relation => "relation '" ++ relation ++ "' has no pivot table"
  | .noIntermediate relation => "relation '" ++ relation ++ "' has no intermediate model"
  | .invalidAttributes failures => "; ".intercalate (failures.map ValidationFailure.message)
  | .refused reason => reason
  | .duplicateKey table column key =>
    "duplicate key value violates unique constraint: " ++ table ++ "." ++ column ++ " = " ++
      toString key
  | .keyOverflow => "attempt to add with overflow"
  | .poolClosed => "attempted to acquire a connection on a closed pool"
  | .notRetrieved action entity => "Failed to retrieve " ++ action ++ " " ++ entity
  | .missingPrimaryKey => ""
  | .decode cause => cause.message
  | .notNumeric function column value =>
    function ++ " of '" ++ column ++ "' is not numeric: " ++ inSentence value
  | .transactionFinished => "transaction already committed or rolled back"
  | .nestedBegin => "nested transactions are not supported"
  | .nestedTransaction => "Nested transactions are not supported"
  | .commitFailed cause =>
    "Failed to commit transaction: " ++ cause.kind.heading ++ cause.detail
  | .config cause => cause.message
  | .noDatabaseUrl => "DATABASE_URL is not set"
  | .noPaymentsProvider => "No payments provider configured"
  | .noTwoFactorProvider => "No two-factor provider configured"
  | .payments cause => cause.message
  | .auth cause => cause.message

/-- The full message. -/
def message (e : Error) : String :=
  e.kind.heading ++ e.detail

end Error

end EntityStore
