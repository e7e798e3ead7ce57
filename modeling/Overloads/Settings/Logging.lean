import Overloads.Log.Level
import Overloads.Settings.Reading

/-! The settings of the log. -/
namespace Overloads.Settings

open Overloads.Document

structure Logging where
  level : String
  /-- Events are written as objects. -/
  asObjects : Bool
  deriving DecidableEq, Repr

namespace Logging

/-- The form of the events has two names. The short one counts if both are there. -/
def formName (t : Table) : String := if (t.lookup "json").isSome then "json" else "json_format"

def read (t : Table) : Collect Logging := do
  let level ← setting t "level" "WARNING" (single text)
  let asObjects ← setting t (formName t) false (single truth)
  return { level, asObjects }

def ofTable (t : Table) : Except Failure Logging := collected "LoggingSettings" (read t)

end Logging

end Overloads.Settings
