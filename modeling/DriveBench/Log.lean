/-!
# Messages

A message has a level, a text, and the part of the program that it comes from.
-/

namespace DriveBench.Log

inductive Level
  | error
  | warn
  | info
  | debug
  | trace
  deriving DecidableEq, Repr

namespace Level

/-- From 1; higher ranks are more verbose. -/
def rank : Level → Nat
  | error => 1
  | warn => 2
  | info => 3
  | debug => 4
  | trace => 5

def name : Level → String
  | error => "ERROR"
  | warn => "WARN"
  | info => "INFO"
  | debug => "DEBUG"
  | trace => "TRACE"

end Level

inductive Source
  | command
  | loading
  | rendering
  | report
  deriving DecidableEq, Repr

def Source.name : Source → String
  | command => "motor_report"
  | loading => "motor_report::data::loader"
  | rendering => "motor_report::render"
  | report => "motor_report::report"

structure Message where
  level : Level
  source : Source
  text : String
  deriving DecidableEq, Repr

end DriveBench.Log
