import NestedSelect.Hydration.Entity
import NestedSelect.Relation.Request

/-!
From the rows of a result to the records of an answer.

The generic form is a record for each row with its relations decoded. The entity form is an
instance of the root's model for each row, with related instances attached. Neither form gives
null for a collection.
-/

namespace NestedSelect.Hydration

def decodeRelation (mode : RequestMode) (raw : Value) : Outcome Value :=
  match mode with
  | .count => asCount raw
  | .single => do .ok (← decodeJson raw).payload
  | .collection => do
      match ← decodeJson raw with
      | .value .null => .ok (.list [])
      | .value v => .ok v
      | .undecoded _ => .ok (.list [])

/-- A row with its relations decoded one after another. A key that the row lacks stays away. -/
def genericRecord : List Request → Row → Outcome Row
  | [], row => .ok row
  | request :: rest, row =>
      match Record.get? request.outputKey row with
      | none => genericRecord rest row
      | some raw => do
          let value ← decodeRelation request.mode raw
          genericRecord rest (Record.put request.outputKey value row)

def buildRecords (schema : Schema) (related : Handle) : List Value → Outcome (List Value)
  | [] => .ok []
  | .record entries :: rest => do
      let built ← build schema related entries
      let others ← buildRecords schema related rest
      .ok (built :: others)
  | _ :: rest => buildRecords schema related rest

def relatedValue (schema : Schema) (request : Request) (decoded : Value) : Outcome Value :=
  let related := handleOf request.relation.model?
  match request.mode, decoded with
  | .single, .record entries => build schema related entries
  | .single, _ => .ok .null
  | _, .list items => do .ok (.list (← buildRecords schema related items))
  | _, _ => .ok (.list [])

def attachRelations (schema : Schema) (row : Row) : List Request → Value → Outcome Value
  | [], built => .ok built
  | request :: rest, built => do
      let raw := (Record.get? request.outputKey row).getD .null
      let attached ← match request.mode with
        | .count => do attach schema request.outputKey (← asCount raw) built
        | .single | .collection => do
            let decoded ← decodeJson raw
            let related ← relatedValue schema request decoded.payload
            attach schema request.name related built
      attachRelations schema row rest attached

def entityOf (schema : Schema) (root : Handle) (requests : List Request) (row : Row) :
    Outcome Value := do
  let keys := requests.map Request.outputKey
  let built ← build schema root (row.filter (fun entry => !keys.contains entry.1))
  attachRelations schema row requests built

inductive Form where
  | generic
  | entity

def hydrateRow (schema : Schema) (form : Form) (requests : List Request) (root : Handle)
    (row : Row) : Outcome Value :=
  match form with
  | .generic => do .ok (.record (← genericRecord requests row))
  | .entity => entityOf schema root requests row

def hydrate (schema : Schema) (form : Form) (requests : List Request) (root : Handle) :
    List Row → Outcome (List Value)
  | [] => .ok []
  | row :: rest => do
      let answer ← hydrateRow schema form requests root row
      let answers ← hydrate schema form requests root rest
      .ok (answer :: answers)

end NestedSelect.Hydration
