/-!
What can go wrong, by cause, with the class and the wording of each cause.

Misuse of a value (`Misuse`) has a class but no wording of its own.
-/

namespace NestedSelect

/-- A value was used in a way that its kind does not allow. -/
inductive Misuse where
  /-- The operation does not apply to values of this kind. -/
  | wrongType
  /-- The kind is right and the value is not. -/
  | wrongValue
  /-- The value has no such part. -/
  | missingPart
  /-- The result is too large for its kind. -/
  | tooLarge
  /-- Bytes are no UTF-8. -/
  | notUtf8
  /-- The operation is left to others to define. -/
  | notImplemented
  /-- One more item was asked for where none is left. -/
  | noItem
  /-- The same, inside an operation that is awaited. -/
  | noItemAwaited
  /-- A template asks for what is not given, or is none. -/
  | badTemplate
  /-- Values that have no order were compared by order. -/
  | notComparable
  deriving DecidableEq

def Misuse.name : Misuse → String
  | wrongType => "TypeError"
  | wrongValue => "ValueError"
  | missingPart => "AttributeError"
  | tooLarge => "OverflowError"
  | notUtf8 => "UnicodeDecodeError"
  | notImplemented => "NotImplementedError"
  | noItem => "StopIteration"
  | noItemAwaited => "RuntimeError"
  | badTemplate => "IndexError"
  | notComparable => "ArgumentError"

inductive FaultKind where
  | aggregation
  | invalidRequest
  | unsafeIdentifier
  | invalidFilter
  | invalidOrder
  | invalidPagination
  | limitExceeded
  | tooManyRelations
  | duplicateRelation
  | relation
  | relationNotFound
  | invalidRelationAccessor
  | unsupportedRelationKind
  | unsupportedJoinKind
  | unsupportedDialect
  | invalidHydrator
  deriving DecidableEq

namespace FaultKind

def all : List FaultKind :=
  [aggregation, invalidRequest, unsafeIdentifier, invalidFilter, invalidOrder, invalidPagination,
    limitExceeded, tooManyRelations, duplicateRelation, relation, relationNotFound,
    invalidRelationAccessor, unsupportedRelationKind, unsupportedJoinKind, unsupportedDialect,
    invalidHydrator]

def name : FaultKind → String
  | aggregation => "AggregationError"
  | invalidRequest => "InvalidRequest"
  | unsafeIdentifier => "UnsafeIdentifier"
  | invalidFilter => "InvalidFilter"
  | invalidOrder => "InvalidOrder"
  | invalidPagination => "InvalidPagination"
  | limitExceeded => "LimitExceeded"
  | tooManyRelations => "TooManyRelations"
  | duplicateRelation => "DuplicateRelation"
  | relation => "RelationError"
  | relationNotFound => "RelationNotFound"
  | invalidRelationAccessor => "InvalidRelationAccessor"
  | unsupportedRelationKind => "UnsupportedRelationKind"
  | unsupportedJoinKind => "UnsupportedJoinKind"
  | unsupportedDialect => "UnsupportedDialect"
  | invalidHydrator => "InvalidHydrator"

def ofName? (name : String) : Option FaultKind := all.find? (fun kind => kind.name == name)

def parent? : FaultKind → Option FaultKind
  | aggregation => none
  | invalidRequest | relation | unsupportedDialect | invalidHydrator => some aggregation
  | unsafeIdentifier | invalidFilter | invalidOrder | invalidPagination | limitExceeded
  | tooManyRelations | duplicateRelation => some invalidRequest
  | relationNotFound | invalidRelationAccessor | unsupportedRelationKind
  | unsupportedJoinKind => some relation

def isA (kind general : FaultKind) : Bool :=
  kind == general ||
    match kind.parent? with
    | none => false
    | some parent =>
        parent == general || match parent.parent? with
          | none => false
          | some grandparent => grandparent == general

def isValueFault (kind : FaultKind) : Bool := kind.isA invalidRequest

def isLookupFault (kind : FaultKind) : Bool := kind.isA relationNotFound

/-- Whether a class is the one of a name or a special case of it. Two general names are not of this
package: those of all wrong values and of all failed lookups. -/
def isNamed (kind : FaultKind) (general : String) : Bool :=
  match general with
  | "ValueError" => kind.isValueFault
  | "LookupError" => kind.isLookupFault
  | _ => (ofName? general).any kind.isA

end FaultKind

/-- Something a careful caller would avoid: refused in strict mode, noted otherwise. Numbers are as
they are shown. -/
inductive Violation where
  | wildcard (relation : String)
  | tooManyRelations (total greatest : String)
  | limitAbove (limit greatest : String)
  deriving DecidableEq

namespace Violation

def message : Violation → String
  | wildcard relation =>
      "Using SELECT * for relation '" ++ relation ++ "' may expose sensitive data " ++
        "and increase payload size. Consider selecting specific columns."
  | tooManyRelations total greatest =>
      "Query contains " ++ total ++ " relations, which exceeds the recommended " ++
        "maximum of " ++ greatest ++ ". This may cause performance degradation."
  | limitAbove limit greatest =>
      "Query limit (" ++ limit ++ ") exceeds recommended maximum (" ++ greatest ++ "). " ++
        "This may cause performance issues."

def kind : Violation → FaultKind
  | wildcard _ => .invalidRequest
  | tooManyRelations _ _ => .tooManyRelations
  | limitAbove _ _ => .limitExceeded

end Violation

/-- The causes of failure. Texts are as the caller gave them or as a value is shown. -/
inductive Fault where
  | emptyName (what : String)
  | unsafeIdentifier (name what : String)
  | nestedRelation (name : String)
  | emptyColumns (relation : String)
  | wildcardNotAlone (relation : String)
  | columnsAlreadyResolved (relation : String)
  | columnsNotResolved (relation table : String)
  | unknownTable (entity : String)
  | noIntrospector (table : String)
  | awaitableIntrospector
  | noDialect
  | noExecutor
  | flavourMismatch (executorAwaits : Bool)
  | morePlaceholders (bindings : Nat)
  | fewerPlaceholders (placeholders bindings : Nat)
  | unsupportedBaseQuery (shown : String)
  | operatorNotAllowed (shown : String)
  | badDirection (shown : String)
  | notNonNegative (label shown : String)
  | notPositive (label shown : String)
  | paginatedBaseQuery
  | violation (v : Violation)
  | duplicateRelation (outputKey : String)
  | relationNotFound (name owner : String)
  | notAnAccessor (name owner : String)
  | accessorNeedsArguments (name owner : String) (parameters : List String)
  | accessorGivesNoDescriptor (name owner typeName : String)
  | secondaryTable (name owner table : String)
  | unsupportedDirection (name owner direction : String)
  | compositeKey (name owner : String) (pairs : Nat)
  | unsupportedKind (name kind : String)
  | kindMismatch (name kind mode : String) (allowed : List String)
  | unsupportedJoin (kind name : String)
  | unsupportedDialect (name : String)
  | disabledDialect (name : String) (allowed : List String)
  | hydratorWithoutHydrate (label : String)
  | hydratorNotClass (label : String)
  | hydratorNotPath (path : String)
  | hydratorNotImported (path reason : String)
  | hydratorMissing (path : String)
  | statementFailed (reason : String)
  | misuse (m : Misuse)
  deriving DecidableEq

def allowedOperators : List String := ["=", "!=", "<>", "<", ">", "<=", ">="]

private def list (words : List String) : String := String.intercalate ", " words

namespace Fault

def message? : Fault → Option String
  | emptyName what => some (what ++ " name cannot be empty.")
  | unsafeIdentifier name what =>
      some ("Invalid " ++ what ++ " name: '" ++ name ++ "'. Names must start with a letter or " ++
        "underscore and contain only alphanumeric characters, underscores and dots.")
  | nestedRelation name =>
      some ("Nested relations are not supported. Received: '" ++ name ++ "'. " ++
        "Register each relation of the root entity separately.")
  | emptyColumns relation => some ("Columns for relation '" ++ relation ++ "' cannot be empty.")
  | wildcardNotAlone relation =>
      some ("Wildcard '*' for relation '" ++ relation ++
        "' cannot be combined with explicit columns.")
  | columnsAlreadyResolved relation =>
      some ("Columns of relation '" ++ relation ++ "' are already resolved.")
  | columnsNotResolved relation table =>
      some ("Could not resolve columns for relation '" ++ relation ++ "' (table '" ++ table ++
        "').")
  | unknownTable entity => some ("Cannot determine the table of " ++ entity ++ ".")
  | noIntrospector table =>
      some ("Cannot resolve wildcard columns for table '" ++ table ++
        "': no schema introspector configured.")
  | awaitableIntrospector =>
      some "The configured facade is async; use the a* variants (acompile_sql, aget, ...)."
  | noDialect => some "Either a dialect, a generator or an executor is required."
  | noExecutor =>
      some "No executor configured; pass executor= or use AggregatedQuery.for_bind()."
  | flavourMismatch executorAwaits =>
      some ("Executor flavour does not match this call; use " ++
        (if executorAwaits then "aget/afirst/apaginate" else "get/first/paginate") ++ ".")
  | morePlaceholders bindings =>
      some ("SQL has more placeholders than the " ++ toString bindings ++ " bindings supplied.")
  | fewerPlaceholders placeholders bindings =>
      some ("SQL has " ++ toString placeholders ++ " placeholders but " ++ toString bindings ++
        " bindings were supplied.")
  | unsupportedBaseQuery shown =>
      some ("Unsupported base query " ++ shown ++ "; pass a Select or (sql, bindings).")
  | operatorNotAllowed shown =>
      some ("Operator '" ++ shown ++ "' is not allowed. Use one of: " ++ list allowedOperators ++
        ".")
  | badDirection shown => some ("Direction must be either asc or desc, got '" ++ shown ++ "'.")
  | notNonNegative label shown =>
      some (label ++ " must be a non-negative integer, got " ++ shown ++ ".")
  | notPositive label shown => some (label ++ " must be a positive integer, got " ++ shown ++ ".")
  | paginatedBaseQuery =>
      some "Cannot paginate over a base query; the base query owns its paging."
  | violation v => some v.message
  | duplicateRelation outputKey =>
      some ("Relation output '" ++ outputKey ++ "' is already registered.")
  | relationNotFound name owner =>
      some ("Relation '" ++ name ++ "' does not exist on " ++ owner ++ ".")
  | notAnAccessor name owner =>
      some ("Attribute '" ++ name ++ "' on " ++ owner ++ " is not a relation accessor.")
  | accessorNeedsArguments name owner parameters =>
      some ("Relation accessor '" ++ name ++ "' on " ++ owner ++ " must not require parameters " ++
        "(requires: " ++ list parameters ++ ").")
  | accessorGivesNoDescriptor name owner typeName =>
      some ("Accessor '" ++ name ++ "' on " ++ owner ++
        " must return a RelationDescriptor, got " ++ typeName ++ ".")
  | secondaryTable name owner table =>
      some ("Relation '" ++ name ++ "' on " ++ owner ++ " goes through secondary table '" ++
        table ++ "'; only belongs-to-one, has-one and has-many are supported.")
  | unsupportedDirection name owner direction =>
      some ("Relation '" ++ name ++ "' on " ++ owner ++ " has unsupported direction " ++
        direction ++ ".")
  | compositeKey name owner pairs =>
      some ("Relation '" ++ name ++ "' on " ++ owner ++ " joins on " ++ toString pairs ++
        " column pairs; composite keys are not supported.")
  | unsupportedKind name kind =>
      some ("Relation '" ++ name ++ "' has unsupported kind '" ++ kind ++ "'.")
  | kindMismatch name kind mode allowed =>
      some ("Relation '" ++ name ++ "' is " ++ kind ++ "; " ++ mode ++ " requires " ++
        String.intercalate " or " allowed ++ ".")
  | unsupportedJoin kind name =>
      some ("Relation kind '" ++ kind ++ "' of '" ++ name ++ "' is not supported for JSON joins.")
  | unsupportedDialect name => some ("Database dialect '" ++ name ++ "' is not supported.")
  | disabledDialect name allowed =>
      some ("Database dialect '" ++ name ++ "' is disabled by configuration (supported: " ++
        list allowed ++ ").")
  | hydratorWithoutHydrate label =>
      some ("Hydrator '" ++ label ++ "' must implement hydrate(rows, requests, root_type).")
  | hydratorNotClass label => some ("Hydrator '" ++ label ++ "' is not a class.")
  | hydratorNotPath path =>
      some ("Hydrator '" ++ path ++ "' is not registered and is not an import path.")
  | hydratorNotImported path reason =>
      some ("Hydrator '" ++ path ++ "' could not be imported: " ++ reason)
  | hydratorMissing path => some ("Hydrator '" ++ path ++ "' does not exist.")
  | statementFailed reason => some reason
  | misuse _ => none

/-- The class of a failure; what the database and misused values cause has none. -/
def kind? : Fault → Option FaultKind
  | unsafeIdentifier _ _ => some .unsafeIdentifier
  | emptyName _ | nestedRelation _ | emptyColumns _ | wildcardNotAlone _
  | columnsAlreadyResolved _ | columnsNotResolved _ _ | unknownTable _ | noIntrospector _
  | awaitableIntrospector | noDialect | noExecutor | flavourMismatch _ | morePlaceholders _
  | fewerPlaceholders _ _ | unsupportedBaseQuery _ => some .invalidRequest
  | operatorNotAllowed _ => some .invalidFilter
  | badDirection _ => some .invalidOrder
  | notNonNegative _ _ | notPositive _ _ | paginatedBaseQuery => some .invalidPagination
  | violation v => some v.kind
  | duplicateRelation _ => some .duplicateRelation
  | relationNotFound _ _ => some .relationNotFound
  | notAnAccessor _ _ | accessorNeedsArguments _ _ _
  | accessorGivesNoDescriptor _ _ _ => some .invalidRelationAccessor
  | secondaryTable _ _ _ | unsupportedDirection _ _ _ | compositeKey _ _ _ | unsupportedKind _ _
  | kindMismatch _ _ _ _ => some .unsupportedRelationKind
  | unsupportedJoin _ _ => some .unsupportedJoinKind
  | unsupportedDialect _ | disabledDialect _ _ => some .unsupportedDialect
  | hydratorWithoutHydrate _ | hydratorNotClass _ | hydratorNotPath _ | hydratorNotImported _ _
  | hydratorMissing _ => some .invalidHydrator
  | statementFailed _ | misuse _ => none

/-- The name of a failure's class; the failures of a database have classes of their own. -/
def name? : Fault → Option String
  | misuse m => some m.name
  | fault => fault.kind?.map FaultKind.name

/-- A failure as it leaves an operation that is awaited. That nothing is left cannot leave it: it
would be taken for the end of the operation. -/
def awaited : Fault → Fault
  | misuse .noItem => misuse .noItemAwaited
  | fault => fault

end Fault

abbrev Outcome : Type → Type := Except Fault

def misused {α : Type} (m : Misuse) : Outcome α := .error (.misuse m)

end NestedSelect
