import NestedSelect.Dialect.ReservedWords
import NestedSelect.Text.Case

/-!
The grammar of select statements, as far as it differs between databases.

A name stands in a statement as it is if it is in lower case, made of letters, digits, low lines
and dollar signs, does not start with a digit or a dollar sign, and is no reserved word. Any other
name is quoted, with the quotes inside it doubled.
-/

namespace NestedSelect

/-- How a database writes names, truth values, placeholders and a choice from nothing. -/
structure Grammar where
  quote : Char
  reserved : List String
  yes : String
  no : String
  /-- What stands in the brackets of a choice from no values, up to the closing one. -/
  emptyChoice : String
  /-- Whether a placeholder is followed by a cast to the type of its value. -/
  hasCasts : Bool

namespace Grammar

private def isLetter (c : Char) : Bool := c.isAlpha || c.toNat == 0x131 || c.toNat == 0x17F

def isPlainRest (c : Char) : Bool := isLetter c || c.isDigit || c == '_' || c == '$'

def isPlainStart (c : Char) : Bool := isLetter c || c == '_'

/-- Whether all characters together need no quotes. A line break at the end does no harm. -/
def isPlain (cs : List Char) : Bool :=
  match cs with
  | [] => false
  | c :: rest =>
      isPlainStart c && (rest.all isPlainRest ||
        (rest.getLast? == some '\n' && rest.dropLast.all isPlainRest))

variable (grammar : Grammar)

def needsQuotes (name : String) : Bool :=
  let lower := Text.lower name
  lower != name || grammar.reserved.contains lower || !isPlain name.toList

def quoted (name : String) : String :=
  let double (c : Char) : List Char := if c == grammar.quote then [c, c] else [c]
  String.ofList (grammar.quote :: name.toList.flatMap double ++ [grammar.quote])

def name (plain : String) : String :=
  if grammar.needsQuotes plain then grammar.quoted plain else plain

def truth (b : Bool) : String := if b then grammar.yes else grammar.no

private def neverChosen : String := "NULL) AND (1 != 1"

def mysql : Grammar := ⟨Char.ofNat 0x60, ReservedWords.mysql, "true", "false", neverChosen, false⟩

def postgres : Grammar := ⟨'"', ReservedWords.postgres, "true", "false", neverChosen, true⟩

/-- SQLite has no truth values of its own, and chooses from a table without rows. -/
def sqlite : Grammar :=
  ⟨'"', ReservedWords.sqlite, "1", "0", "SELECT 1 FROM (SELECT 1) WHERE 1!=1", false⟩

end Grammar

end NestedSelect
