import Courier.Json.Value

/-! Events for the log, as data. -/

namespace Courier

inductive LogLevel where
  | trace
  | debug
  | info
  | warn
  | error
deriving Repr, DecidableEq

def LogLevel.name : LogLevel → String
  | trace => "TRACE"
  | debug => "DEBUG"
  | info => "INFO"
  | warn => "WARN"
  | error => "ERROR"

structure LogEvent where
  level : LogLevel
  message : String
  fields : List (String × Json.Value)
deriving Repr

end Courier
