/-!
Records of what a user should know.
-/

namespace NestedSelect

inductive LogLevel where
  | info
  | warning
  deriving DecidableEq

def LogLevel.name : LogLevel → String
  | info => "INFO"
  | warning => "WARNING"

structure LogRecord where
  level : LogLevel
  message : String
  deriving DecidableEq

namespace LogRecord

def mark : String := "relagg: "

def dialectRegistered (className name : String) (aliases : List String) : LogRecord :=
  ⟨.info, mark ++ "registered SQL generator " ++ className ++ " for " ++
    String.intercalate ", " (name :: aliases)⟩

def dialectDetected (name : String) : LogRecord :=
  ⟨.info, mark ++ "detected database dialect " ++ name⟩

def noted (message : String) : LogRecord := ⟨.warning, mark ++ message⟩

end LogRecord

end NestedSelect
