import NestedSelect.Hydration.Decoding
import NestedSelect.Record
import NestedSelect.Schema.Handle

/-!
Instances of mapped models.

What is known about a column is stored under its attribute, in the type of the column. A handle
without a mapping has plain records for instances.
-/

namespace NestedSelect.Hydration

/-- What an attribute holds of a value. One of a relationship may make something else of it. -/
def held (make : Relationship → Value → Outcome Value) (relationship? : Option Relationship)
    (value : Value) : Outcome Value :=
  match relationship? with
  | some relationship => make relationship value
  | none => .ok value

def store (tools : Instrumentation) (model : Model) (attributes : Row) (name : String)
    (value : Value) : Outcome Row :=
  match model.storage? name with
  | some (place, type) => .ok (Record.put place (coerce (some type) value) attributes)
  | none => do
      let assigned ← held tools.assigned (model.relationship? name) value
      .ok (Record.put name assigned attributes)

def storeAll (tools : Instrumentation) (model : Model) (attributes : Row) : Row → Outcome Row
  | [] => .ok attributes
  | (name, value) :: rest => do
      storeAll tools model (← store tools model attributes name value) rest

def build (schema : Schema) (handle : Handle) (values : Row) : Outcome Value :=
  match handle.mapped? schema with
  | none => .ok (.record values)
  | some model => do
      .ok (.entity model.name (← storeAll schema.instrumentation model [] values))

def handleOf : Option String → Handle
  | some name => .model name
  | none => .nothing

def attach (schema : Schema) (name : String) (value : Value) : Value → Outcome Value
  | .entity modelName attributes => do
      let relationship? := (schema.mapped? modelName).bind (fun model => model.relationship? name)
      let loaded ← held schema.instrumentation.loaded relationship? value
      .ok (.entity modelName (Record.put name loaded attributes))
  | .record entries => .ok (.record (Record.put name value entries))
  | other => .ok other

end NestedSelect.Hydration
