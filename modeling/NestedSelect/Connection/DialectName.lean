import NestedSelect.Fault

/-!
Finding the dialect of what a caller connects a query with.
-/

namespace NestedSelect

/-- What can be seen of a connection: its dialect, the synchronous engine behind it, and what it
is bound to. -/
inductive Bind where
  | mk (dialect : Option String) (syncEngine : Option Bind) (boundTo : Option Bind)
  deriving Inhabited

namespace Bind

def ownDialect : Bind → Outcome String
  | mk (some name) _ _ => .ok name
  | mk none _ _ => misused .missingPart

def engineDialect : Bind → Outcome String
  | mk _ (some engine) _ => engine.ownDialect
  | bind => bind.ownDialect

/-- The dialect of a connection. An engine behind it goes first; what it is bound to counts only
if it has no dialect of its own. -/
def dialectName : Bind → Outcome String
  | mk none none (some bound) => bound.engineDialect
  | bind => bind.engineDialect

end Bind

end NestedSelect
