/-!
# Records of what happened

A record has a level, the topic it belongs to and a message. Warnings are always
shown; the other levels only on request.
-/

namespace Retrace.Log

inductive Level where
  | debug
  | info
  | warning
  deriving DecidableEq, Repr

structure Record where
  level : Level
  topic : String
  message : String
  deriving DecidableEq, Repr

def warning (topic message : String) : Record := ⟨.warning, topic, message⟩

def info (topic message : String) : Record := ⟨.info, topic, message⟩

def debug (topic message : String) : Record := ⟨.debug, topic, message⟩

def Record.isWarning (r : Record) : Bool := r.level = .warning

/-- What is shown without a request: the messages of the warnings. -/
def quietLines (records : List Record) : List String :=
  (records.filter Record.isWarning).map Record.message

/-- What is shown on request: everything, under its topic. -/
def verboseLines (records : List Record) : List String :=
  records.map fun r => r.topic ++ " - " ++ r.message

/-- A computation that may fail; what it recorded before it failed is kept. -/
abbrev Logged (ε : Type) := ExceptT ε (StateM (List Record))

def tell {ε : Type} (records : List Record) : Logged ε Unit := modify (· ++ records)

/-- The outcome of a computation, and its records. -/
def Logged.outcome {ε α : Type} (x : Logged ε α) : Except ε α × List Record :=
  let (result, records) := ExceptT.run x |>.run []
  (result, records)

end Retrace.Log
