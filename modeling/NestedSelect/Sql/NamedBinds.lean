import NestedSelect.Fault
import NestedSelect.Value.Conversion

/-!
Statements with named binds in place of question marks.

A question mark inside quotes is text. Quotes are opened by an apostrophe, a double quote or a
grave accent and closed by the next character that is the same.
-/

namespace NestedSelect.Sql

def isQuote (c : Char) : Bool := c == '\'' || c == '"' || c == Char.ofNat 0x60

/-- The quote that is open after a character, given the one that is open before it. -/
def quoteAfter (quote : Option Char) (c : Char) : Option Char :=
  match quote with
  | some opened => if c == opened then none else some opened
  | none => if isQuote c then some c else none

def bindName (index : Nat) : String := "p" ++ toString index

/-- A bind in a statement. Before a colon, with which a cast starts, it stands in brackets. -/
def bindText (index : Nat) (following : List Char) : List Char :=
  let name := ':' :: (bindName index).toList
  match following with
  | ':' :: _ => '(' :: (name ++ [')'])
  | _ => name

/-- The text with binds from an index on, and the index after the last one. -/
def nameFrom (quote : Option Char) (index : Nat) : List Char → List Char × Nat
  | [] => ([], index)
  | c :: rest =>
      if quote.isNone && c == '?' then
        let named := nameFrom none (index + 1) rest
        (bindText index rest ++ named.1, named.2)
      else
        let named := nameFrom (quoteAfter quote c) index rest
        (c :: named.1, named.2)

def namedValues (index : Nat) : List Value → List (String × Value)
  | [] => []
  | value :: rest => (bindName index, value) :: namedValues (index + 1) rest

structure NamedStatement where
  text : String
  values : List (String × Value)

/-- The statement with named binds, if it has one placeholder for each value. -/
def nameBinds (statement : String) (values : List Value) : Outcome NamedStatement :=
  let named := nameFrom none 0 statement.toList
  if values.length < named.2 then .error (.morePlaceholders values.length)
  else if named.2 < values.length then .error (.fewerPlaceholders named.2 values.length)
  else .ok ⟨String.ofList named.1, namedValues 0 values⟩

/-- The pieces of a statement that is no text, with binds from an index on, and the index after
the last one. Only a sequence tells what follows a placeholder. -/
def namePieces (isSequence : Bool) (bindings : Nat) (quote : Option String) (index : Nat) :
    List Value → Outcome (List Value × Nat)
  | [] => .ok ([], index)
  | piece :: rest =>
      match quote, piece.text? with
      | none, some "?" =>
          if bindings ≤ index then .error (.morePlaceholders bindings)
          else if isSequence then do
            let named ← namePieces isSequence bindings none (index + 1) rest
            .ok (.text (":" ++ bindName index) :: named.1, named.2)
          else misused .wrongType
      | opened, read => do
          let after := match opened, read with
            | some opened, some s => if s = opened then none else some opened
            | none, some s => if s.toList.any isQuote && s.length = 1 then some s else none
            | opened, none => opened
          let named ← namePieces isSequence bindings after index rest
          .ok (piece :: named.1, named.2)

/-- The same for a statement that is no text but has pieces. All of them must be texts. -/
def nameBindsInPieces (statement : Value) (values : List Value) : Outcome NamedStatement := do
  let pieces ← statement.items
  let isSequence := match statement with
    | .record _ => false
    | _ => true
  let named ← namePieces isSequence values.length none 0 pieces
  let texts := named.1.filterMap Value.text?
  if named.2 < values.length then .error (.fewerPlaceholders named.2 values.length)
  else if texts.length < named.1.length then misused .wrongType
  else .ok ⟨String.join texts, namedValues 0 values⟩

/-- The same for values that are the items of one value, or none at all. -/
def nameBindsOf (statement values : Value) : Outcome NamedStatement := do
  let values ← values.itemsOrNone
  match statement with
  | .text s => nameBinds s values
  | pieces => nameBindsInPieces pieces values

end NestedSelect.Sql
