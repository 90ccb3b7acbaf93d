import Fanout.Log.Event
import Fanout.Json.Basic
import Fanout.Text.Escape

/-!
# Writing events

The text writer puts an event on one line (after its timestamp, which is left out here): the
level padded to five characters, the spans the event is in (outermost first, each as
`name{fields}:` or `name:`, then a blank), the target and a colon when targets are shown, then
the message and each field as `name=value`, separated by blanks. A string value is quoted with
escapes; every other value is written as its text. Messages and values are written as they
are, so a line break in one continues the event on the next line.

The JSON writer puts an event in one object: its level, its fields (the message first) with
numbers and booleans kept, the target when targets are shown, and, inside spans, the innermost
span and the list of all spans, each with its fields and name.
-/

namespace Fanout.Log

/-- The text of a value as the text writer shows it. -/
def Value.text : Value → String
  | .str s => Text.quoted s
  | .shown s => s
  | .debugged s => s
  | .nat n => toString n
  | .int i => toString i
  | .float x => Decimal.render Decimal.FloatStyle.debug x
  | .bool b => if b then "true" else "false"

/-- The JSON form of a value; a float that is not finite has none and is `null`. -/
def Value.json : Value → Json
  | .str s => .str s
  | .shown s => .str s
  | .debugged s => .str s
  | .nat n => Json.nat n
  | .int i => if i < 0 then .num (.neg i) else Json.nat i.toNat
  | .float x => if x.isFinite then Json.float x else .null
  | .bool b => .bool b

/-- The name of a level padded to five characters. -/
def Level.padded : Level → String
  | .info => " INFO"
  | .warn => " WARN"
  | l => l.name

/-- Each field with the text it is recorded as, the message first. -/
def Event.fieldTexts (e : Event) : List (String × String) :=
  ("message", e.message) :: e.fields.map fun (k, v) => (k, v.text)

/-- Fields as `name=value` separated by blanks. -/
def fieldsText (fields : List (String × Value)) : String :=
  " ".intercalate (fields.map fun (k, v) => k ++ "=" ++ v.text)

/-- A span as the text writer shows it. -/
def Span.text (s : Span) : String :=
  s.name ++ (if s.fields.isEmpty then "" else "\x7b" ++ fieldsText s.fields ++ "\x7d") ++ ":"

/-- The text line of event `e` inside the spans `spans`, without its timestamp. -/
def textLine (withTarget : Bool) (spans : List Span) (e : Event) : String :=
  e.level.padded ++ " " ++
  (if spans.isEmpty then "" else String.join (spans.map Span.text) ++ " ") ++
  (if withTarget then e.target ++ ": " else "") ++
  e.message ++ String.join (e.fields.map fun (k, v) => " " ++ k ++ "=" ++ v.text)

/-- A span as the JSON writer shows it. -/
def Span.json (s : Span) : Json :=
  .obj (s.fields.map (fun (k, v) => (k, v.json)) ++ [("name", .str s.name)])

/-- The JSON object of event `e` inside the spans `spans`, without its timestamp. -/
def jsonLine (withTarget : Bool) (spans : List Span) (e : Event) : Json :=
  .obj ([("level", .str e.level.name),
    ("fields", .obj (("message", .str e.message) :: e.fields.map fun (k, v) => (k, v.json)))] ++
    (if withTarget then [("target", .str e.target)] else []) ++
    (match spans.getLast? with
     | some s => [("span", s.json), ("spans", .arr (spans.map Span.json))]
     | none => []))

end Fanout.Log
