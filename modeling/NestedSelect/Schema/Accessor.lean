import NestedSelect.Fault
import NestedSelect.Schema.Model

/-!
Calls of accessors.

Whether a call fits a list of parameters is up to all of them. One without arguments fits exactly
if no parameter has to be given.
-/

namespace NestedSelect

namespace Parameter

/-- Whether a call fits the parameters, with a number of arguments by position and with others by
name. Those by position go to the first parameters that take them. A call is illegal if it leaves a
parameter empty that has no default, gives one twice or gives more than the parameters take. -/
def admitCall : List Parameter → Nat → List String → Bool
  | [], count, names => count == 0 && names.isEmpty
  | ⟨name, kind⟩ :: rest, count, names =>
      match kind, count with
      | .positionalOnly, 0 => false
      | .optionalPositional, 0 => admitCall rest 0 names
      | .positionalOnly, more + 1 | .optionalPositional, more + 1 => admitCall rest more names
      | .required, 0 => names.contains name && admitCall rest 0 (names.erase name)
      | .optional, 0 => admitCall rest 0 (names.erase name)
      | .required, more + 1 | .optional, more + 1 =>
          !names.contains name && admitCall rest more names
      | .variadic, _ => admitCall rest 0 names
      | .keywordOnly, _ => names.contains name && admitCall rest count (names.erase name)
      | .optionalKeyword, _ => admitCall rest count (names.erase name)
      | .variadicKeyword, _ => admitCall rest count []

def requiredNames (parameters : List Parameter) : List String :=
  (parameters.filter (fun parameter => parameter.kind.isRequired)).map name

theorem admitCall_nothing (parameters : List Parameter) :
    admitCall parameters 0 [] = (requiredNames parameters).isEmpty := by
  induction parameters with
  | nil => rfl
  | cons parameter rest ih =>
      obtain ⟨name, kind⟩ := parameter
      cases kind <;> first | rfl | exact ih

/-- A parameter that is only given by name is wanted too. -/
example : admitCall [⟨"first", .optional⟩, ⟨"rest", .variadic⟩, ⟨"last", .keywordOnly⟩] 0 [] =
    false := rfl

end Parameter

namespace Accessor

/-- A call without arguments. Where the parameters cannot be read, nothing is checked before. -/
def call : Accessor → Outcome Called
  | described _ | constant => misused .wrongType
  | callable none called => called
  | callable (some parameters) called =>
      if Parameter.admitCall parameters 0 [] then called else misused .wrongType

end Accessor

end NestedSelect
