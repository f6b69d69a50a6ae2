import NestedSelect.Config.Basic
import NestedSelect.Text.Blank

/-!
Options from an environment: variables named by a common start and the option in capitals.

Options that have a structure are not read from an environment, except for the dialects, which
are listed with commas between them.
-/

namespace NestedSelect.Config

/-- What the variables of an environment start with, unless told otherwise. -/
def variablePrefix : String := "RELAGG_"

def yesWords : List String := ["1", "true", "yes", "on", "y", "t"]

inductive VariableForm where
  | flag
  | number
  | plain
  | listed
  deriving DecidableEq

def variableForms : List (String × VariableForm) :=
  [("default_hydrator", .plain), ("strict_mode", .flag), ("max_relations", .number),
    ("max_limit", .number), ("strict_limit_validation", .flag), ("log_fallbacks", .flag),
    ("supported_dialects", .listed), ("cache_enabled", .flag), ("cache_ttl", .number)]

/-- The parts between the commas of a list, from the first one on. -/
def commaParts (part : List Char) : List Char → List (List Char)
  | [] => [part.reverse]
  | ',' :: rest => part.reverse :: commaParts [] rest
  | c :: rest => commaParts (c :: part) rest

def listedWords (s : String) : List String :=
  ((commaParts [] s.toList).map (fun part => Text.trim (String.ofList part))).filter (· != "")

private def variableText : Value → Outcome String
  | .text s => .ok s
  | _ => misused .missingPart

private def isAsciiBlank (byte : UInt8) : Bool :=
  byte == 0x20 || (0x09 ≤ byte && byte ≤ 0x0D)

private def trimBytes (data : List UInt8) : List UInt8 :=
  ((data.dropWhile isAsciiBlank).reverse.dropWhile isAsciiBlank).reverse

def readVariable (form : VariableForm) (raw : Value) : Outcome Value :=
  match form, raw with
  | .number, raw => do .ok (.int (← raw.toInt))
  | .flag, .bytes _ => .ok (.bool false)
  | .plain, .bytes data => .ok (.bytes (trimBytes data))
  | .listed, .bytes _ => misused .wrongType
  | .flag, raw => do
      let s ← variableText raw
      .ok (.bool (yesWords.contains (Text.lower (Text.trim s))))
  | .plain, raw => do .ok (.text (Text.trim (← variableText raw)))
  | .listed, raw => do .ok (.list ((listedWords (← variableText raw)).map Value.text))

private def readVariables (start : String) (environment : List (String × Value)) :
    List (String × VariableForm) → Outcome (List (String × Value))
  | [] => .ok []
  | (name, form) :: rest =>
      match Record.get? (start ++ Text.upper name) environment with
      | none | some .null => readVariables start environment rest
      | some raw => do
          let value ← readVariable form raw
          let values ← readVariables start environment rest
          .ok ((name, value) :: values)

def ofEnvironment (environment : List (String × Value)) (start : String := variablePrefix) :
    Outcome Config := do
  ofRecord (.record (← readVariables start environment variableForms))

end NestedSelect.Config
