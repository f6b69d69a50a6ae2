import NestedSelect.Query.Execution

/-!
Calls of queries as they come in: a method by name, with its arguments in order.

Arguments that may be left out have defaults here. Too few or too many are a misuse.
-/

namespace NestedSelect

inductive Call where
  | attach (mode : RequestMode) (name columns : Value)
  | filter (column operator value : Value)
  | orderBy (column direction : Value)
  | limit (value : Value)
  | offset (value : Value)
  | compile (awaits : Bool)
  | text
  | bindings
  | fetch (awaits : Bool) (hydrator : HydratorHandle)
  | first (awaits : Bool) (hydrator : HydratorHandle)
  | paginate (awaits : Bool) (page perPage : Value) (hydrator : HydratorHandle)

namespace Call

def defaultPage : Value := .int 1

def defaultPerPage : Value := .int 15

/-- The hydrator that is the last of some arguments or is given by name, but not both. -/
def chosenHandle (named : Option HydratorHandle) : List Value → Outcome HydratorHandle
  | [] => .ok (named.getD (.value .null))
  | [positional] => if named.isSome then misused .wrongType else .ok (.value positional)
  | _ => misused .wrongType

private def attaching (mode : RequestMode) : List Value → Outcome Call
  | [name] => .ok (.attach mode name (.text "*"))
  | [name, columns] => .ok (.attach mode name columns)
  | _ => misused .wrongType

private def paginating (awaits : Bool) (named : Option HydratorHandle) :
    List Value → Outcome Call
  | [] => do .ok (.paginate awaits defaultPage defaultPerPage (← chosenHandle named []))
  | [page] => do .ok (.paginate awaits page defaultPerPage (← chosenHandle named []))
  | page :: perPage :: rest => do
      .ok (.paginate awaits page perPage (← chosenHandle named rest))

private def withoutArguments (call : Call) : List Value → Outcome Call
  | [] => .ok call
  | _ => misused .wrongType

private def withoutHydrator (named : Option HydratorHandle) (call : Outcome Call) : Outcome Call :=
  if named.isSome then misused .wrongType else call

/-- The call of a method with arguments in order, and with a hydrator that may be given by name. -/
def ofArguments (method : String) (arguments : List Value) (named : Option HydratorHandle) :
    Outcome Call :=
  match method, arguments with
  | "get", rest => do .ok (.fetch false (← chosenHandle named rest))
  | "aget", rest => do .ok (.fetch true (← chosenHandle named rest))
  | "first", rest => do .ok (.first false (← chosenHandle named rest))
  | "afirst", rest => do .ok (.first true (← chosenHandle named rest))
  | "paginate", rest => paginating false named rest
  | "apaginate", rest => paginating true named rest
  | "add_single_relation", rest => withoutHydrator named (attaching .single rest)
  | "add_collection_relation", rest => withoutHydrator named (attaching .collection rest)
  | "add_count", [name] => withoutHydrator named (.ok (.attach .count name .null))
  | "filter", [column, value] => withoutHydrator named (.ok (.filter column (.text "=") value))
  | "filter", [column, operator, value] =>
      withoutHydrator named (.ok (.filter column operator value))
  | "order_by", [column] => withoutHydrator named (.ok (.orderBy column (.text "asc")))
  | "order_by", [column, direction] => withoutHydrator named (.ok (.orderBy column direction))
  | "limit", [value] => withoutHydrator named (.ok (.limit value))
  | "offset", [value] => withoutHydrator named (.ok (.offset value))
  | "compile_sql", rest => withoutHydrator named (withoutArguments (.compile false) rest)
  | "acompile_sql", rest => withoutHydrator named (withoutArguments (.compile true) rest)
  | "to_sql", rest => withoutHydrator named (withoutArguments .text rest)
  | "get_bindings", rest => withoutHydrator named (withoutArguments .bindings rest)
  | _, _ => misused .wrongType

end Call

inductive Answer where
  | done
  | config (c : Config)
  | generator (g : Generator) (baseAlias : Value)
  | hydrator (resolved : HydratorRegistry.Resolved)
  | opened (table : String) (generatorName : Value)
  | statement (s : Sql.BoundStatement)
  | text (s : String)
  | items (values : List Value)
  | item (value : Value)

namespace Query

variable {σ : Type}

def answer (hydrators : HydratorSource) (link : Link σ) : Call → Work σ Answer
  | .attach mode name columns => do
      edit (register mode name columns)
      return .done
  | .filter column operator value => do
      edit (filter column operator value)
      return .done
  | .orderBy column direction => do
      edit (orderBy column direction)
      return .done
  | .limit value => do
      edit (limit value)
      return .done
  | .offset value => do
      edit (offset value)
      return .done
  | .compile awaits => do return .statement (← compile awaits link.introspector?)
  | .text => do return .text (← compile false link.introspector?).text
  | .bindings => do return .items (← (← get).bindings)
  | .fetch awaits handle => do return .items (← fetch awaits hydrators link handle)
  | .first awaits handle => do return .item (← fetchFirst awaits hydrators link handle)
  | .paginate awaits page perPage handle => do
      let answered ← paginate awaits hydrators link page perPage handle
      return .item (← answered.toRecord)

end Query

end NestedSelect
