import JvmFacts.Descriptor
import JvmFacts.Fault

/-!
What a run tells its host besides answers: log records, and failures it carried on after.

Failures go to a reporter. One kind of reporter writes them to the log, the other keeps them as
events.
-/

set_option autoImplicit false

namespace JvmFacts

inductive LogLevel where
  | error | warn | debug
  deriving DecidableEq, Repr

def LogLevel.label : LogLevel → String
  | error => "ERROR"
  | warn => "WARN"
  | debug => "DEBUG"

structure LogRecord where
  level : LogLevel
  text : String
  deriving DecidableEq, Repr

def LogRecord.render (record : LogRecord) : String :=
  s!"{record.level.label} {record.text}"

inductive Report where
  | failure (message : String)
  | failureOf (message : String) (cause : Fault)
  | missing (fault : Fault)
  | missingClass (c : ClassDescriptor)
  | skipped (method : MethodDescriptor)

inductive Event where
  | failure (message : String)
  | failureOf (message cause : String)
  | missingClass (name : String)
  | skipped (method : String)
  deriving DecidableEq, Repr

/-- How a report is logged. -/
def Report.toLog : Report → LogRecord
  | failure message => ⟨.error, message⟩
  | failureOf message cause => ⟨.error, s!"{message}: {cause.message}"⟩
  | missing fault => ⟨.warn, s!"missing class: {fault.message}"⟩
  | missingClass c => ⟨.warn, s!"missing class: {c.dottedName}"⟩
  | skipped method => ⟨.debug, s!"skipped analysis of {method.text}"⟩

/-- The class that a fault names, or its message when it names none. -/
def Fault.missingName : Fault → String
  | .missingClass name => name
  | .classUnavailable name _ => name
  | fault => fault.message

/-- How a report is kept. -/
def Report.toEvent : Report → Event
  | failure message => .failure message
  | failureOf message cause => .failureOf message cause.message
  | missing fault => .missingClass fault.missingName
  | missingClass c => .missingClass c.name
  | skipped method => .skipped method.text

def Event.missingName? : Event → Option String
  | missingClass name => some name
  | _ => none

inductive Reporter where
  | log
  | collect (events : List Event)
  deriving DecidableEq, Repr

namespace Reporter

/-- What was kept, in order; a reporter that logs keeps nothing. -/
def events? : Reporter → Option (List Event)
  | log => none
  | collect events => some events

def missingNames (events : List Event) : List String :=
  events.filterMap Event.missingName?

end Reporter

end JvmFacts
