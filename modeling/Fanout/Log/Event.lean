import Fanout.Decimal.Text

/-!
# Log events

A log event has a level, a target (the part of the program it comes from), a message and
named fields, and it may happen inside spans (a named stretch of work with fields of its own).
Field values keep their kind, since the text and JSON writers show kinds differently: a string
is quoted in text and plain in JSON, a number stays a number, and a value shown by its display
or debug text is written as that text.
-/

namespace Fanout.Log

/-- The severity of an event, most severe first. -/
inductive Level where
  | error
  | warn
  | info
  | debug
  | trace
  deriving Inhabited, DecidableEq, Repr

namespace Level

/-- The rank of a level: `error` is 1, `trace` is 5. -/
def rank : Level → Nat
  | .error => 1
  | .warn => 2
  | .info => 3
  | .debug => 4
  | .trace => 5

/-- The upper-case name. -/
def name : Level → String
  | .error => "ERROR"
  | .warn => "WARN"
  | .info => "INFO"
  | .debug => "DEBUG"
  | .trace => "TRACE"

end Level

/-- The value of a field. -/
inductive Value where
  /-- A string, quoted in text. -/
  | str (s : String)
  /-- A value shown by its display text. -/
  | shown (s : String)
  /-- A value shown by its debug text. -/
  | debugged (s : String)
  | nat (n : Nat)
  | int (i : Int)
  | float (x : Float)
  | bool (b : Bool)
  deriving Inhabited

/-- A named stretch of work that events happen inside. -/
structure Span where
  name : String
  target : String
  level : Level
  fields : List (String × Value)
  deriving Inhabited

/-- One log event. -/
structure Event where
  level : Level
  target : String
  message : String
  fields : List (String × Value) := []
  /-- The spans the event happens inside, outermost first. -/
  spans : List Span := []
  deriving Inhabited

/-- The debug text of an optional number: `Some(3)` or `None`. -/
def optionText (o : Option Int) : String :=
  match o with
  | some i => "Some(" ++ toString i ++ ")"
  | none => "None"

/-- Put an event inside `span` (as the innermost span so far). -/
def Event.within (e : Event) (span : Span) : Event := { e with spans := e.spans ++ [span] }

end Fanout.Log
