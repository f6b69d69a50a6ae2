import NestedSelect.Fault
import NestedSelect.Text.Blank
import NestedSelect.Text.Case
import NestedSelect.Value.Basic
import NestedSelect.Value.Conversion

/-!
Names that may stand in a statement.

A name is a letter or a low line, followed by letters, digits, low lines and dots of ASCII. Names
are trimmed before they are checked. Main statement: what `ensure` returns is not empty, has no
blank at its ends, and passes the check.
-/

namespace NestedSelect.Identifier

def isStart (c : Char) : Bool := c.isAlpha || c == '_'

def isRest (c : Char) : Bool := c.isAlphanum || c == '_' || c == '.'

def isName : List Char → Bool
  | [] => false
  | c :: rest => isStart c && rest.all isRest

def IsSafe (s : String) : Prop := isName s.toList = true

instance (s : String) : Decidable (IsSafe s) := by unfold IsSafe; infer_instance

def dropFinalNewline (cs : List Char) : List Char :=
  if cs.getLast? = some '\n' then cs.dropLast else cs

def isSafe (s : String) : Bool := isName s.toList || isName (dropFinalNewline s.toList)

/-- Whether a value is such a text; every no counts as the empty text. -/
def accepts (value : Value) : Outcome Bool :=
  match value with
  | .text s => .ok (isSafe s)
  | other => if other.isTruthy then misused .wrongType else .ok false

/-- The trimmed name, if it is one. `what` says what is named. A constant of an enumeration of texts
is a text here, and any other constant (`Value.member`) is no name. -/
def ensure (value : Value) (what : String := "column") : Outcome String :=
  let name := Text.trim (value.text?.getD "")
  if name = "" then .error (.emptyName (Text.capitalize what))
  else if isSafe name then .ok name
  else .error (.unsafeIdentifier name what)

theorem ensure_eq_ok {value : Value} {what name : String} (done : ensure value what = .ok name) :
    name ≠ "" ∧ Text.trim name = name ∧ isSafe name = true := by
  unfold ensure at done
  simp only at done
  split at done
  · cases done
  · rename_i filled
    split at done
    · rename_i safe
      have same := Except.ok.inj done
      subst same
      exact ⟨filled, Text.trim_trim _, safe⟩
    · cases done

def ensureRelation (value : Value) : Outcome String := do
  let name ← ensure value "relation"
  if '.' ∈ name.toList then .error (.nestedRelation name) else .ok name

def qualify (column source : String) : String :=
  if '.' ∈ column.toList then column else source ++ "." ++ column

end NestedSelect.Identifier
