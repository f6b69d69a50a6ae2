import NestedSelect.Fault
import NestedSelect.Record
import NestedSelect.Text.Case
import NestedSelect.Value.Conversion
import NestedSelect.Value.Key
import NestedSelect.Value.Shown

/-!
Options of queries.

Options are read from records of values. Only options with a structure are checked when they are
read; whether any other value makes sense shows where it is used.
-/

namespace NestedSelect

/-- The options. The column cache lists the columns of tables in order; the minimum versions are
advice, and the last two of the plain options are reserved. -/
structure Config where
  defaultHydrator : Value := .text "generic"
  strictMode : Value := .bool false
  maxRelations : Value := .int 15
  maxLimit : Value := .int 500
  strictLimitValidation : Value := .bool false
  logFallbacks : Value := .bool true
  supportedDialects : List String := ["mysql", "pgsql", "sqlite"]
  minimumVersions : List (Value × Value) :=
    [(.text "mysql", .text "8.0"), (.text "pgsql", .text "12.0"), (.text "sqlite", .text "3.38")]
  cacheEnabled : Value := .bool false
  cacheTtl : Value := .int 3600
  columnCache : List (String × List Value) := []

namespace Config

def initial : Config := {}

inductive Setting where
  | defaultHydrator (value : Value)
  | strictMode (value : Value)
  | maxRelations (value : Value)
  | maxLimit (value : Value)
  | strictLimitValidation (value : Value)
  | logFallbacks (value : Value)
  | supportedDialects (names : List String)
  | minimumVersions (versions : List (Value × Value))
  | cacheEnabled (value : Value)
  | cacheTtl (value : Value)
  | columnCache (columns : List (String × List Value))

def apply (config : Config) : Setting → Config
  | .defaultHydrator value => { config with defaultHydrator := value }
  | .strictMode value => { config with strictMode := value }
  | .maxRelations value => { config with maxRelations := value }
  | .maxLimit value => { config with maxLimit := value }
  | .strictLimitValidation value => { config with strictLimitValidation := value }
  | .logFallbacks value => { config with logFallbacks := value }
  | .supportedDialects names => { config with supportedDialects := names }
  | .minimumVersions versions => { config with minimumVersions := versions }
  | .cacheEnabled value => { config with cacheEnabled := value }
  | .cacheTtl value => { config with cacheTtl := value }
  | .columnCache columns => { config with columnCache := columns }

private def displayedEach : List Value → Outcome (List String)
  | [] => .ok []
  | item :: rest => do
      let shown ← item.displayed
      let others ← displayedEach rest
      .ok (shown :: others)

def readDialects (value : Value) : Outcome (List String) := do
  let shown ← displayedEach (← value.itemsOrNone)
  .ok (shown.map Text.lower)

private def readListings : List (String × Value) → Outcome (List (String × List Value))
  | [] => .ok []
  | (table, columns) :: rest => do
      let items ← columns.items
      let listings ← readListings rest
      .ok ((table, items) :: listings)

def entriesOrNone : Value → Outcome (List (String × Value))
  | .record entries => .ok entries
  | other => if other.isTruthy then misused .missingPart else .ok []

def readColumnCache (value : Value) : Outcome (List (String × List Value)) := do
  readListings (← entriesOrNone value)

private def readPairs (versions : List (Value × Value)) :
    List Value → Outcome (List (Value × Value))
  | [] => .ok versions
  | pair :: rest => do
      match ← pair.items with
      | [key, value] =>
          if key.isKey then readPairs (Value.putKey key value versions) rest
          else misused .wrongType
      | _ => misused .wrongValue

def readVersions : Value → Outcome (List (Value × Value))
  | .record entries => .ok (entries.map (fun entry => (Value.text entry.1, entry.2)))
  | other => do readPairs [] (← other.itemsOrNone)

/-- The setting of an option by name; none for a name that is no option. -/
def readSetting? (name : String) (value : Value) : Option (Outcome Setting) :=
  match name with
  | "default_hydrator" => some (.ok (.defaultHydrator value))
  | "strict_mode" => some (.ok (.strictMode value))
  | "max_relations" => some (.ok (.maxRelations value))
  | "max_limit" => some (.ok (.maxLimit value))
  | "strict_limit_validation" => some (.ok (.strictLimitValidation value))
  | "log_fallbacks" => some (.ok (.logFallbacks value))
  | "supported_dialects" => some ((readDialects value).map .supportedDialects)
  | "minimum_versions" => some ((readVersions value).map .minimumVersions)
  | "cache_enabled" => some (.ok (.cacheEnabled value))
  | "cache_ttl" => some (.ok (.cacheTtl value))
  | "column_cache" => some ((readColumnCache value).map .columnCache)
  | _ => none

private def readKnown : List (String × Value) → Outcome (List Setting)
  | [] => .ok []
  | (name, value) :: rest =>
      match readSetting? name value with
      | none => readKnown rest
      | some reading => do
          let setting ← reading
          let settings ← readKnown rest
          .ok (setting :: settings)

def ofRecord (data : Value) : Outcome Config := do
  let settings ← readKnown (← entriesOrNone data)
  .ok (settings.foldl apply initial)

def withOverrides (config : Config) (overrides : List (String × Value)) : Outcome Config := do
  let settings ← readKnown overrides
  if overrides.all (fun entry => (readSetting? entry.1 entry.2).isSome) then
    .ok (settings.foldl apply config)
  else misused .wrongType

def columnsFor (config : Config) (table : String) : Option (List Value) :=
  (Record.get? table config.columnCache).filter (fun columns => !columns.isEmpty)

def toRecord (config : Config) : List (String × Value) :=
  [("default_hydrator", config.defaultHydrator), ("strict_mode", config.strictMode),
    ("max_relations", config.maxRelations), ("max_limit", config.maxLimit),
    ("strict_limit_validation", config.strictLimitValidation),
    ("log_fallbacks", config.logFallbacks),
    ("supported_dialects", .list (config.supportedDialects.map Value.text)),
    ("minimum_versions", .record (Record.ofPairs (config.minimumVersions.map (fun entry =>
      (entry.1.display, entry.2))))),
    ("cache_enabled", config.cacheEnabled), ("cache_ttl", config.cacheTtl),
    ("column_cache",
      .record (config.columnCache.map (fun entry => (entry.1, Value.list entry.2))))]

end Config

end NestedSelect
