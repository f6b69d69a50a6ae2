import NestedSelect.Connection.Exchange
import NestedSelect.Record
import NestedSelect.Sql.NamedBinds
import NestedSelect.Sql.TableName

/-!
The facade of a connection: it runs statements with positional values and lists columns.

A connection itself takes named values and knows tables by schema and bare name.
-/

namespace NestedSelect

/-- A connection to a database. In the answer about many tables of a schema each table that exists
has an entry under its schema and name. -/
structure Connection (σ : Type) where
  awaits : Bool
  dialectName : String
  send : Sql.NamedStatement → Exchange σ (List Row)
  columns : Option String → String → Exchange σ (List Value)
  manyColumns : Option String → List String →
    Exchange σ (List ((Option String × String) × List Value))

namespace Connection

variable {σ : Type} (connection : Connection σ)

def facadeName : String :=
  if connection.awaits then "AsyncSessionExecutor" else "SessionExecutor"

def execute (statement : String) (values : List Value) : Exchange σ (List Row) := do
  connection.send (← Sql.nameBinds statement values)

def executeOf (statement values : Value) : Exchange σ (List Row) := do
  connection.send (← Sql.nameBindsOf statement values)

def listColumns (table : String) : Exchange σ (List Value) :=
  let parts := Sql.splitTable table
  connection.columns parts.1 parts.2

/-- Table names by schema; schemas and the names in them stand in the order of the list. -/
def bySchema (tables : List String) : List (Option String × List String) :=
  let parts := tables.map Sql.splitTable
  (parts.map (·.1)).eraseDups.map
    (fun area => (area, (parts.filter (fun part => part.1 == area)).map (·.2)))

/-- The name under which a table of a schema is listed, given the schema it was asked for in. -/
def listedName (asked : Option String) (key : Option String × String) : String :=
  match asked with
  | none | some "" => key.2
  | some _ => key.1.getD absentSchema ++ "." ++ key.2
where
  /-- What stands for a schema that is not there. -/
  absentSchema : String := "None"

/-- The columns of the tables of some schemas, added to a listing. -/
def listSchemas (listing : List (String × List Value)) :
    List (Option String × List String) → Exchange σ (List (String × List Value))
  | [] => pure listing
  | (area, names) :: rest => do
      let found ← connection.manyColumns area names
      listSchemas (Record.merge listing
        (found.map (fun entry => (listedName area entry.1, entry.2)))) rest

def listColumnsOfMany (tables : List String) : Exchange σ (List (String × List Value)) :=
  connection.listSchemas [] (bySchema tables)

def reply {α : Type} (exchange : Exchange σ α) : StateM σ (Reply σ α) :=
  if connection.awaits then pure (.awaitable exchange)
  else do
    let result ← exchange.run
    pure (.ready result)

def executor : Executor σ := ⟨connection.awaits, connection.dialectName, connection.execute⟩

def introspector : Introspector σ :=
  { columnsOf := fun table => connection.reply (connection.listColumns table)
    columnsOfMany := fun tables => connection.reply (connection.listColumnsOfMany tables) }

end Connection

end NestedSelect
