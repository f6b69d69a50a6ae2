import NestedSelect.Fault
import NestedSelect.Query.Columns
import NestedSelect.Relation.Basic
import NestedSelect.Value.Conversion

/-!
Requests: relations that a query attaches to its root rows, and in which form.

Main statement: columns of a request are resolved once, and only from the wildcard.
-/

namespace NestedSelect

inductive RequestMode where
  /-- One nested object or null. -/
  | single
  /-- An array of nested objects. -/
  | collection
  /-- The number of related rows. -/
  | count
  deriving DecidableEq

namespace RequestMode

def all : List RequestMode := [single, collection, count]

def name : RequestMode → String
  | single => "single-object"
  | collection => "collection"
  | count => "count"

def ofName? (name : String) : Option RequestMode := all.find? (fun mode => mode.name == name)

def kinds : RequestMode → List RelationKind
  | single => [.belongsToOne, .hasOne]
  | collection => [.hasMany]
  | count => [.hasMany]

end RequestMode

/-- A relation asked for in a mode, with the columns of its objects. -/
structure Request where
  name : String
  mode : RequestMode
  relation : Relation
  columns : Columns

namespace Request

def outputKey (request : Request) : String :=
  match request.mode with
  | .count => request.name ++ "_count"
  | .single | .collection => request.name

def isWildcard (request : Request) : Bool :=
  request.mode != .count && request.columns.isWildcard

def resolveColumns (request : Request) (columns : Value) : Outcome Request :=
  if !request.isWildcard then .error (.columnsAlreadyResolved request.name)
  else if !columns.isTruthy then .error (.columnsNotResolved request.name request.relation.table)
  else do .ok { request with columns := .listed (← columns.items) }

theorem isWildcard_of_resolveColumns {request resolved : Request} {columns : Value}
    (done : request.resolveColumns columns = .ok resolved) : request.isWildcard = true := by
  cases asked : request.isWildcard with
  | true => rfl
  | false => simp [resolveColumns, asked] at done

theorem not_isWildcard_of_resolveColumns {request resolved : Request} {columns : Value}
    (done : request.resolveColumns columns = .ok resolved) : resolved.isWildcard = false := by
  unfold resolveColumns at done
  split at done
  · cases done
  · split at done
    · cases done
    · cases items : columns.items with
      | error fault => simp [items, bind, Except.bind] at done
      | ok names =>
          simp only [items, bind, Except.bind, Except.ok.injEq] at done
          subst done
          simp [isWildcard, Columns.isWildcard]

end Request

end NestedSelect
