import Sqlwright.Value

/-!
Everything that can go wrong, by cause. Each cause belongs to one kind of error, and most have a
message for the caller.
-/

namespace Sqlwright

open Number Text

/-- The kinds of error that callers tell apart. -/
inductive ErrorKind
  | configuration
  | unsupportedDriver
  | invalidIdentifier
  | missingColumnType
  | emptyTable
  | duplicatePrimaryKey
  | blueprintLocked
  | invalidDefault
  | invalidColumnDefinition
  | invalidForeignKeyAction
  | unsupportedOperation
  | queryMisuse
  | invalidOperator
  | invalidJoinType
  | invalidDirection
  | missingWhereClause
  | inconsistentInsertColumns
  | paginationRequiresOrder
  | paginationRequiresLimit
  | missingTable
  | emptyInsert
  | unsupportedClause
  | recordNotFound
  | missingConnection
  | driverFault
  | badValue
  | unknownKey
  | outOfRange
  | overflow
  | noAttribute
  | wrongType
  deriving DecidableEq, Repr

/-- The causes of errors. -/
inductive Error
  /- settings, connections and the registry of dialects -/
  | invalidBoolean (key given : String)
  | invalidInteger (key given : String)
  | belowMinimum (key : String) (minimum given : Int)
  | invalidFloat (key given : String)
  | chunkSizeNotPositive
  | invalidDeletedAtColumn (given : String)
  | unknownSettings (names : List String)
  | missingScheme (address : String)
  | invalidPort (scheme : String)
  | malformedAddress
  | unknownScheme (driver : String) (available : List String)
  | variableNotSet (name : String)
  | connectionTaken (name : String)
  | connectionUnknown (name : String)
  | driverNameTaken (name owner : String)
  | dialectTaken (name : String)
  | unsupportedDriver (name : String) (available : List String)
  /- names -/
  | invalidIdentifier (shown : String)
  /- schema -/
  | unknownColumnType
  | missingColumnType (table column : String)
  | emptyTable (table : String)
  | duplicatePrimaryKey (table owner claimant : String)
  | blueprintLocked (table : String)
  | booleanDefault (column : String) (given : Value)
  | setDefaultNotText (column : String)
  | defaultOutsideValues (given : Value) (values : List String) (column : String)
  | unsupportedDefault (given : Value) (column : String)
  | columnAlreadyDefined (column table : String)
  | invalidLength (column : String) (given : Value)
  | lengthNotPositive (column : String)
  | scaleWithoutPrecision (column : String)
  | emptyCheck (column : String)
  | noValues (column : String)
  | valueNotText (column : String) (given : Value)
  | noColumnNames
  | unknownColumn (name : Value) (table : String)
  | invalidForeignKeyAction (given : Value)
  | constraintsOnExistingTable (dialect table : String)
  | renameUnsupported (dialect : String)
  | foreignKeyWithoutTable (table : String) (columns : List String)
  | noCatalog (dialect : String)
  | unknownSetStyle (style : String)
  | templateField
  | templateIndex
  | templateAttribute
  | templateSubscript
  | malformedTemplate
  | malformedLayout
  | unknownLevel
  /- queries -/
  | invalidOperator (given : Value)
  | invalidJoinType (given : Value)
  | invalidDirection (given : Value)
  | invalidConnector (given : Value)
  | nullComparison (operator : String)
  | nullNegation
  | emptyMembership (column : String)
  | invalidLimit (given : Value)
  | invalidPage (given : Value)
  | pageWithoutLimit
  | unorderedPage (dialect : String)
  | missingTable
  | missingWhere (operation : String)
  | joinedMutation (operation : String)
  | emptyUpdate
  | amountNotNumeric (operation : String) (given : Value)
  | emptyInsert
  | inconsistentColumns (index : Nat) (expected received : List Key)
  | topWithoutSelect
  | unknownPagination (style : String)
  | unknownParameterStyle (style : String)
  /- execution -/
  | missingConnection (operation : String)
  | unfilteredFirst
  | recordNotFound (table : String)
  | invalidChunkSize (given : Value)
  | driverFault (text : String)
  | countNotInteger
  | countInfinite
  | countNotNumber
  | emptyRow

namespace Error

def kind : Error → ErrorKind
  | .invalidBoolean .. | .invalidInteger .. | .belowMinimum .. | .invalidFloat ..
  | .chunkSizeNotPositive | .invalidDeletedAtColumn .. | .unknownSettings .. | .missingScheme ..
  | .invalidPort .. | .unknownScheme .. | .variableNotSet .. | .connectionTaken ..
  | .connectionUnknown .. | .driverNameTaken .. | .dialectTaken .. => .configuration
  | .unsupportedDriver .. => .unsupportedDriver
  | .invalidIdentifier .. => .invalidIdentifier
  | .missingColumnType .. => .missingColumnType
  | .emptyTable .. => .emptyTable
  | .duplicatePrimaryKey .. => .duplicatePrimaryKey
  | .blueprintLocked .. => .blueprintLocked
  | .booleanDefault .. | .setDefaultNotText .. | .defaultOutsideValues ..
  | .unsupportedDefault .. => .invalidDefault
  | .columnAlreadyDefined .. | .invalidLength .. | .lengthNotPositive ..
  | .scaleWithoutPrecision .. | .emptyCheck .. | .noValues .. | .valueNotText ..
  | .noColumnNames => .invalidColumnDefinition
  | .invalidForeignKeyAction .. => .invalidForeignKeyAction
  | .constraintsOnExistingTable .. | .renameUnsupported .. | .foreignKeyWithoutTable ..
  | .noCatalog .. => .unsupportedOperation
  | .invalidOperator .. => .invalidOperator
  | .invalidJoinType .. => .invalidJoinType
  | .invalidDirection .. => .invalidDirection
  | .invalidConnector .. | .nullComparison .. | .nullNegation | .emptyMembership ..
  | .invalidLimit .. | .invalidPage .. | .emptyUpdate | .amountNotNumeric .. | .unfilteredFirst
  | .invalidChunkSize .. => .queryMisuse
  | .missingWhere .. => .missingWhereClause
  | .inconsistentColumns .. => .inconsistentInsertColumns
  | .unorderedPage .. => .paginationRequiresOrder
  | .pageWithoutLimit => .paginationRequiresLimit
  | .missingTable => .missingTable
  | .emptyInsert => .emptyInsert
  | .joinedMutation .. => .unsupportedClause
  | .recordNotFound .. => .recordNotFound
  | .missingConnection .. => .missingConnection
  | .driverFault .. => .driverFault
  | .malformedAddress | .unknownColumnType | .topWithoutSelect | .unknownPagination ..
  | .unknownSetStyle .. | .unknownParameterStyle .. | .malformedTemplate
  | .malformedLayout | .unknownLevel | .countNotInteger => .badValue
  | .unknownColumn .. | .templateField => .unknownKey
  | .emptyRow | .templateIndex => .outOfRange
  | .countInfinite => .overflow
  | .templateAttribute => .noAttribute
  | .templateSubscript | .countNotNumber => .wrongType

def sortTexts (texts : List String) : List String :=
  texts.mergeSort fun a b => decide (a ≤ b)

theorem mem_sortTexts {text : String} {texts : List String} :
    text ∈ sortTexts texts ↔ text ∈ texts :=
  (List.mergeSort_perm texts _).mem_iff

theorem pairwise_sortTexts (texts : List String) : (sortTexts texts).Pairwise (· ≤ ·) := by
  have transitive (a b c : String) (first : decide (a ≤ b) = true)
      (second : decide (b ≤ c) = true) : decide (a ≤ c) = true := by
    simp only [decide_eq_true_eq] at first second ⊢
    exact String.le_trans first second
  have total (a b : String) : (decide (a ≤ b) || decide (b ≤ a)) = true := by
    simpa using String.le_total a b
  have sorted := List.pairwise_mergeSort transitive total texts
  exact sorted.imp of_decide_eq_true

/-- Different texts stand in strictly increasing order. -/
theorem pairwise_lt_sortTexts {texts : List String} (distinct : texts.Nodup) :
    (sortTexts texts).Pairwise (· < ·) := by
  have apart : (sortTexts texts).Nodup := (List.mergeSort_perm texts _).nodup_iff.mpr distinct
  refine ((pairwise_sortTexts texts).and apart).imp fun {a b} both => ?_
  exact String.not_le.mp fun back => both.2 (String.le_antisymm both.1 back)

def inspectTexts (texts : List String) : String :=
  (Value.list (texts.map Value.text)).inspect

def inspectKeys (keys : List Key) : String :=
  let sorted := keys.mergeSort fun a b => decide (a.plain ≤ b.plain)
  "[" ++ join ", " (sorted.map Key.inspect) ++ "]"

def unsupportedDriverMessage (name : String) (available : List String) : String :=
  let known := sortTexts available
  "Unsupported driver '" ++ name ++ "'" ++
    (if known.isEmpty then "" else ". Available: " ++ join ", " known)

/-- The message of an error. Faults that lie in a single malformed value have none. -/
def message? : Error → Option String
  | .invalidBoolean key given =>
    some ("Invalid boolean value for '" ++ key ++ "': " ++ quoted given)
  | .invalidInteger key given =>
    some ("Invalid integer value for '" ++ key ++ "': " ++ quoted given)
  | .belowMinimum key minimum given =>
    some ("Value for '" ++ key ++ "' must be >= " ++ intText minimum ++ ", got " ++ intText given)
  | .invalidFloat key given =>
    some ("Invalid float value for '" ++ key ++ "': " ++ quoted given)
  | .chunkSizeNotPositive => some "insert_chunk_size must be a positive integer"
  | .invalidDeletedAtColumn given =>
    some ("deleted_at_column is not a valid identifier: " ++ quoted given)
  | .unknownSettings names => some ("Unknown settings: " ++ join ", " (sortTexts names))
  | .missingScheme address => some ("DSN is missing a scheme: " ++ quoted address)
  | .invalidPort scheme => some ("Invalid port in DSN for scheme '" ++ scheme ++ "'")
  | .malformedAddress => none
  | .unknownScheme driver available => some (unsupportedDriverMessage driver available)
  | .variableNotSet name => some ("Environment variable " ++ name ++ " is not set")
  | .connectionTaken name => some ("Connection '" ++ name ++ "' is already registered")
  | .connectionUnknown name => some ("Connection '" ++ name ++ "' is not registered")
  | .driverNameTaken name owner =>
    some ("Driver name '" ++ name ++ "' is already registered to '" ++ owner ++ "'")
  | .dialectTaken name => some ("Dialect '" ++ name ++ "' is already registered")
  | .unsupportedDriver name available => some (unsupportedDriverMessage name available)
  | .invalidIdentifier shown => some ("Invalid identifier " ++ shown)
  | .unknownColumnType => none
  | .missingColumnType table column =>
    some ("Column '" ++ column ++ "' on table '" ++ table ++ "' has no type")
  | .emptyTable table => some ("Table '" ++ table ++ "' has no columns")
  | .duplicatePrimaryKey table owner claimant =>
    some ("Table '" ++ table ++ "' already has primary key '" ++ owner ++ "'; cannot add '" ++
      claimant ++ "'")
  | .blueprintLocked table =>
    some ("Blueprint for table '" ++ table ++ "' is locked and cannot be modified")
  | .booleanDefault column given =>
    some ("Boolean column '" ++ column ++ "' needs a bool default, got " ++ given.inspect)
  | .setDefaultNotText column => some ("SET column '" ++ column ++ "' needs a str default")
  | .defaultOutsideValues given values column =>
    some ("Default " ++ given.inspect ++ " is not one of " ++ inspectTexts values ++ " on '" ++
      column ++ "'")
  | .unsupportedDefault given column =>
    some ("Unsupported default " ++ given.inspect ++ " on column '" ++ column ++ "'")
  | .columnAlreadyDefined column table =>
    some ("Column '" ++ column ++ "' already defined on '" ++ table ++ "'")
  | .invalidLength column given =>
    some ("Column '" ++ column ++ "': invalid length " ++ given.inspect)
  | .lengthNotPositive column => some ("Column '" ++ column ++ "': length must be positive")
  | .scaleWithoutPrecision column =>
    some ("Column '" ++ column ++ "': scale requires a precision")
  | .emptyCheck column => some ("Column '" ++ column ++ "': empty CHECK expression")
  | .noValues column => some ("Column '" ++ column ++ "': ENUM/SET requires values")
  | .valueNotText column given =>
    some ("Column '" ++ column ++ "': ENUM/SET values must be strings, got " ++ given.inspect)
  | .noColumnNames => some "At least one column name is required"
  | .unknownColumn name table =>
    some ("Unknown column '" ++ name.plain ++ "' on table '" ++ table ++ "'")
  | .invalidForeignKeyAction given => some ("Invalid foreign key action '" ++ given.plain ++ "'")
  | .constraintsOnExistingTable dialect table =>
    some (dialect ++ " cannot add constraints to existing table '" ++ table ++ "'")
  | .renameUnsupported dialect => some (dialect ++ " does not support renaming tables")
  | .foreignKeyWithoutTable table columns =>
    some ("Foreign key on " ++ table ++ "(" ++ join ", " columns ++ ") needs on(table)")
  | .noCatalog dialect => some (dialect ++ " has no catalog queries configured")
  | .unknownSetStyle style => some ("SET style '" ++ style ++ "' has no CHECK expression")
  | .templateField | .templateIndex | .templateAttribute | .templateSubscript | .malformedTemplate
  | .malformedLayout | .unknownLevel => none
  | .invalidOperator given => some ("Invalid comparison operator " ++ given.inspect)
  | .invalidJoinType given =>
    some ("Invalid join type " ++ given.inspect ++ "; expected INNER, LEFT or RIGHT")
  | .invalidDirection given =>
    some ("Invalid order direction " ++ given.inspect ++ "; expected ASC or DESC")
  | .invalidConnector given =>
    some ("Invalid boolean connector " ++ given.inspect ++ "; expected AND or OR")
  | .nullComparison operator => some ("Operator '" ++ operator ++ "' cannot compare against NULL")
  | .nullNegation => some "where_not() cannot compare against NULL; use not_null()"
  | .emptyMembership column =>
    some ("where_in() on '" ++ column ++ "' requires at least one value")
  | .invalidLimit given =>
    some ("limit() expects a non-negative integer, got " ++ given.inspect)
  | .invalidPage given => some ("page() expects a positive integer, got " ++ given.inspect)
  | .pageWithoutLimit => some "page() requires limit() to be set first"
  | .unorderedPage dialect =>
    some ("Offset pagination on '" ++ dialect ++ "' requires an ORDER BY clause")
  | .missingTable => some "No table selected; call table() first"
  | .missingWhere operation => some (operation ++ " requires at least one WHERE condition")
  | .joinedMutation operation => some (operation ++ "() cannot be combined with joins")
  | .emptyUpdate => some "update() requires at least one column to set"
  | .amountNotNumeric operation given =>
    some (operation ++ "() amount must be numeric, got " ++ given.inspect)
  | .emptyInsert => some "insert() requires at least one row with at least one column"
  | .inconsistentColumns index expected received =>
    some ("Insert row " ++ intText index ++ " has columns " ++
      inspectKeys received ++ "; expected " ++ inspectKeys expected)
  | .topWithoutSelect => some "TOP pagination requires a SELECT statement"
  | .unknownPagination style => some ("Unknown pagination style '" ++ style ++ "'")
  | .unknownParameterStyle style => some ("Unsupported parameter style '" ++ style ++ "'")
  | .missingConnection operation =>
    some (operation ++ "() needs a bound connection; use compile_* for SQL only")
  | .unfilteredFirst => some "first() requires a where() or order() clause"
  | .recordNotFound table => some ("No record found in '" ++ table ++ "'")
  | .invalidChunkSize given =>
    some ("chunk() size must be a positive integer, got " ++ given.inspect)
  | .driverFault text => some text
  | .countNotInteger | .countInfinite | .countNotNumber | .emptyRow => none

end Error

end Sqlwright
