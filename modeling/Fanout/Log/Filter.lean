import Fanout.Log.Event
import Fanout.Text.Regex
import Fanout.Text.Alphanumeric

/-!
# Event filters

A filter is written as directives separated by commas; empty directives are skipped. A
directive is a level on its own (`info`, any case, or a digit from `0` for `off` to `5` for
`trace`), which applies to every target; or a target, a span in brackets, or both, optionally
followed by `=` and a level (no level means `trace`). A target starts with a letter, a digit,
`_`, `:` or `-` and runs to `[` or `=`. A span is written `[name]` or `[name{field,…}]` (the
name may be left out before the braces), and a field may carry `=value`: `true`/`false`, an
integer, a float, or else a regular expression the whole value must match.

A directive without a span name and without field values is static: an event is let through by
the most specific static directive about it (a longer target is more specific, then one asking
for more fields; a target is about every target it starts, and the fields must all be the
event's), when the event's level is within the directive's. With no such directive the event
is dropped.

A directive with a span name or fields is about spans: a span it is about (name, target, fields)
is always let through, and while it is open, events within the level of a directive whose field
values all match the span's are let through whatever the static directives say.

Before any of that, nothing more verbose than the filter's most verbose directive passes — except
that a directive testing field values lets every span be considered, since values are known
only once a span exists.
-/

namespace Fanout.Log

open Fanout.Text

/-- How verbose a directive lets events be. -/
inductive Verbosity where
  | off
  | upTo (l : Level)
  deriving Inhabited, DecidableEq, Repr

namespace Verbosity

/-- The rank of a verbosity: `off` is 0, then the rank of its level. -/
def rank : Verbosity → Nat
  | .off => 0
  | .upTo l => l.rank

/-- Whether an event at level `l` passes. -/
def admits (v : Verbosity) (l : Level) : Bool := l.rank ≤ v.rank

/-- The verbosity a level name or digit stands for: names in any case, digits `0` to `5`. -/
def parse? (s : String) : Option Verbosity :=
  let digits := match s.toList with
    | '+' :: ds => ds
    | ds => ds
  if !digits.isEmpty && digits.all Char.isDigit then
    match (String.ofList digits).toNat! with
    | 0 => some .off
    | 1 => some (.upTo .error)
    | 2 => some (.upTo .warn)
    | 3 => some (.upTo .info)
    | 4 => some (.upTo .debug)
    | 5 => some (.upTo .trace)
    | _ => none
  else
    match s.toLower with
    | "off" => some .off
    | "error" => some (.upTo .error)
    | "warn" => some (.upTo .warn)
    | "info" => some (.upTo .info)
    | "debug" => some (.upTo .debug)
    | "trace" => some (.upTo .trace)
    | _ => none

end Verbosity

/-- What a field's value is compared with. -/
inductive ValueTest where
  | bool (b : Bool)
  | nat (n : Nat)
  | int (i : Int)
  /-- A float: it never equals the text or integer values spans carry. -/
  | float (text : String)
  | pattern (source : String) (re : Regex)

/-- A field a directive asks for, with the test of its value, if any. -/
structure FieldTest where
  name : String
  value : Option (String × ValueTest)

/-- The text of a field test, for comparing directives. -/
def FieldTest.text (f : FieldTest) : String :=
  f.name ++ match f.value with
    | some (v, _) => "=" ++ v
    | none => ""

/-- Whether a text is a float as the standard library reads one: a sign, then `inf`,
`infinity` or `nan` in any case, or digits with at most one point (at least one digit) and an
optional exponent. -/
def looksFloat (s : String) : Bool :=
  let cs := match s.toList with
    | '+' :: r | '-' :: r => r
    | r => r
  let word := (String.ofList cs).toLower
  if word == "inf" || word == "infinity" || word == "nan" then true
  else
    let whole := cs.takeWhile Char.isDigit
    let r := cs.drop whole.length
    let (frac, r) := match r with
      | '.' :: r2 => (r2.takeWhile Char.isDigit, r2.drop (r2.takeWhile Char.isDigit).length)
      | _ => ([], r)
    let digits := whole.length + frac.length > 0
    let expOk := match r with
      | [] => true
      | e :: r2 =>
        (e == 'e' || e == 'E') &&
          (let r3 := match r2 with
             | '+' :: r4 | '-' :: r4 => r4
             | r4 => r4
           !r3.isEmpty && r3.all Char.isDigit)
    digits && expOk

/-- The digits of an integer after an optional sign, when that is all the text is. -/
def signedDigits (s : String) : Option (Bool × Nat) :=
  let (neg, ds) := match s.toList with
    | '+' :: ds => (false, ds)
    | '-' :: ds => (true, ds)
    | ds => (false, ds)
  if !ds.isEmpty && ds.all Char.isDigit then some (neg, (String.ofList ds).toNat!) else none

/-- The value of a hexadecimal digit. -/
def hexDigit? (c : Char) : Option Nat :=
  if c.isDigit then some (c.toNat - 48)
  else if 'a' ≤ c && c ≤ 'f' then some (c.toNat - 87)
  else if 'A' ≤ c && c ≤ 'F' then some (c.toNat - 55)
  else none

/-- Whether a character is special in a regular expression. -/
def specialInPattern (c : Char) : Bool := "\\.+*?()|[]\x7b\x7d^$".toList.contains c

/-- Write the hexadecimal escapes of a pattern, `\xHH` and `\x\x7bH…\x7d`, as the characters
they stand for, escaped where the character is special. -/
def expandHexEscapes : Nat → List Char → List Char
  | 0, cs => cs
  | _ + 1, [] => []
  | fuel + 1, '\\' :: 'x' :: rest =>
    let (hex, after) := match rest with
      | '\x7b' :: more =>
        let h := more.takeWhile (· != '\x7d')
        (h, (more.drop h.length).drop 1)
      | _ => (rest.take 2, rest.drop 2)
    if !hex.isEmpty && hex.all (fun d => (hexDigit? d).isSome) then
      let c := Char.ofNat (hex.foldl (fun n d => 16 * n + (hexDigit? d).getD 0) 0)
      (if specialInPattern c then ['\\', c] else [c]) ++ expandHexEscapes fuel after
    else '\\' :: 'x' :: expandHexEscapes fuel rest
  | fuel + 1, '\\' :: c :: rest => '\\' :: c :: expandHexEscapes fuel rest
  | fuel + 1, c :: rest => c :: expandHexEscapes fuel rest

/-- Read a field's value: a boolean, an unsigned or signed 64-bit integer (a `+` sign allowed),
a float, or a regular expression; `none` when the expression is malformed. -/
def ValueTest.parse? (s : String) : Option ValueTest :=
  if s == "true" then some (.bool true)
  else if s == "false" then some (.bool false)
  else
    match signedDigits s with
    | some (false, n) =>
      if n < Nat.pow 2 64 then some (.nat n)
      else if looksFloat s then some (.float s) else pattern
    | some (true, n) =>
      if n ≤ Nat.pow 2 63 then some (.int (-(n : Int)))
      else if looksFloat s then some (.float s) else pattern
    | none => if looksFloat s then some (.float s) else pattern
where
  /-- The value as a regular expression. -/
  pattern : Option ValueTest :=
    let cs := s.toList
    match Regex.parse true (String.ofList (expandHexEscapes (cs.length + 1) cs)) with
    | .ok re => some (.pattern s re)
    | .error _ => none

/-- Whether a value test holds of a span's field value. -/
def ValueTest.holds : ValueTest → Value → Bool
  | .nat n, .nat m => n == m
  | .nat n, .int i => (n : Int) == i
  | .int i, .int j => i == j
  | .bool b, .bool c => b == c
  | .pattern _ re, .str s | .pattern _ re, .shown s | .pattern _ re, .debugged s =>
    let cs := s.toList.toArray
    match re.matchAt cs 0 with
    | some (j, _) => j == cs.size
    | none => false
  | _, _ => false

/-- One directive: the target it is about, the span name it asks for, the fields it asks for,
and the verbosity. -/
structure Directive where
  target : Option String := none
  spanName : Option String := none
  fields : List FieldTest := []
  verbosity : Verbosity

namespace Directive

/-- Whether the directive is about spans. -/
def isDynamic (d : Directive) : Bool := d.spanName.isSome || !d.fields.isEmpty

/-- Whether the directive also works on events: no span name and no field values. -/
def isStatic (d : Directive) : Bool := d.spanName.isNone && d.fields.all (·.value.isNone)

/-- The names of the fields it asks for. -/
def fieldNames (d : Directive) : List String := d.fields.map (·.name)

/-- Whether a target is under the directive's. -/
def targetMatches (d : Directive) (target : String) : Bool :=
  match d.target with
  | some t => target.startsWith t
  | none => true

/-- Whether a static directive is about something with target `target`: for an event, the
directive's fields must all be among `fields`. -/
def staticCares (d : Directive) (target : String) (event : Bool) (fields : List String) : Bool :=
  d.targetMatches target && (!event || d.fieldNames.all fields.contains)

/-- Whether a span directive is about span `s`. -/
def spanCares (d : Directive) (s : Span) : Bool :=
  d.targetMatches s.target && (d.spanName.all (· == s.name)) &&
    d.fieldNames.all fun n => s.fields.any (·.1 == n)

/-- Whether every field value the directive tests matches span `s`. -/
def valuesMatch (d : Directive) (s : Span) : Bool :=
  d.fields.all fun f => match f.value with
    | none => true
    | some (_, t) =>
      match s.fields.find? (·.1 == f.name) with
      | some (_, v) => t.holds v
      | none => false

/-- Lexicographic order of texts by their bytes. -/
def textLess (a b : String) : Bool := a < b

/-- Whether static `d` comes before `e`: the longer target first (a directive without target
last), then the one with more fields, then the greater target, then the greater list of field
names. -/
def staticBefore (d e : Directive) : Bool :=
  let len (x : Directive) : Nat := match x.target with
    | some t => t.utf8ByteSize + 1
    | none => 0
  if len d != len e then len d > len e
  else if d.fields.length != e.fields.length then d.fields.length > e.fields.length
  else if d.target != e.target then
    match d.target, e.target with
    | some a, some b => textLess b a
    | some _, none => true
    | _, _ => false
  else
    let rec later : List String → List String → Bool
      | [], _ => false
      | _ :: _, [] => true
      | a :: as, b :: bs => if a == b then later as bs else textLess b a
    later d.fieldNames e.fieldNames

/-- Whether two static directives are the same: same target and field names. -/
def sameStatic (d e : Directive) : Bool := d.target == e.target && d.fieldNames == e.fieldNames

/-- Whether two span directives are the same: same target, span name and fields. -/
def sameDynamic (d e : Directive) : Bool :=
  d.target == e.target && d.spanName == e.spanName && d.fields.map (·.text) == e.fields.map (·.text)

/-- Whether a character may start a target: a letter or digit of any script, `_`, `:` or
`-`. -/
def startsTarget (c : Char) : Bool :=
  isAlphanumeric c || c == '_' || c == ':' || c == '-'

/-- Read the fields in a span's braces. -/
def readFields (s : String) : Option (List FieldTest) :=
  let items := s.splitOn ","
  if s.isEmpty then none
  else
    items.mapM fun item =>
      match item.splitOn "=" with
      | [] => none
      | name :: rest =>
        if name.isEmpty then none
        else
          match rest with
          | [] => some { name, value := none }
          | v :: _ => (ValueTest.parse? v).map fun t => { name, value := some (v, t) }

/-- Read the inside of a span's brackets: `name`, or `name{fields}` where the name may be
empty. -/
def readSpan (inner : String) : Option (Option String × List FieldTest) :=
  match inner.splitOn "\x7b" with
  | [name] => some (some name, [])
  | [name, rest] =>
    if rest.endsWith "\x7d" then
      (readFields (rest.dropEnd 1).toString).map fun fs =>
        (if name.isEmpty then none else some name, fs)
    else none
  | _ => none

/-- Read one directive. It starts with a character that may start a target, or with `[`; a
directive that is a level as a whole (`+4` is not, as it starts with `+`) sets the level for
every target. -/
def parse? (s : String) : Option Directive :=
  let opens := match s.toList with
    | c :: _ => startsTarget c || c == '['
    | [] => false
  if !opens then none else
  match Verbosity.parse? s with
  | some v => some { verbosity := v }
  | none =>
    let cs := s.toList
    let targetChars := cs.takeWhile fun c => c != '[' && c != '='
    let rest := cs.drop targetChars.length
    let targetOk := match targetChars with
      | [] => true
      | c :: _ => startsTarget c
    let spanned : Option (Option (Option String × List FieldTest) × List Char) :=
      match rest with
      | '[' :: more =>
        let inner := more.takeWhile (· != ']')
        match more.drop inner.length with
        | ']' :: after => (readSpan (String.ofList inner)).map fun sp => (some sp, after)
        | _ => none
      | other => some (none, other)
    match targetOk, spanned with
    | true, some (span, tail) =>
      let verbosity : Option Verbosity :=
        match tail with
        | [] => some (.upTo .trace)
        | '=' :: lvl => if lvl.isEmpty then some (.upTo .trace) else Verbosity.parse? (String.ofList lvl)
        | _ => none
      let target := String.ofList targetChars
      if target.isEmpty && span.isNone then none
      else
        verbosity.map fun v =>
          { target := if target.isEmpty || (Verbosity.parse? target).isSome then none else some target,
            spanName := span.bind (·.1),
            fields := (span.map (·.2)).getD [],
            verbosity := v }
    | _, _ => none

end Directive

/-- A parsed filter: its static directives, most specific first, its span directives, and the
most verbose level each kind was given. -/
structure Filter where
  statics : List Directive := []
  dynamics : List Directive := []
  staticMax : Verbosity := .off
  dynamicMax : Verbosity := .off
  deriving Inhabited

namespace Filter

/-- The more verbose of two verbosities. -/
def Verbosity.max (a b : Verbosity) : Verbosity := if a.rank ≥ b.rank then a else b

/-- Add a static directive in its place; it takes the place of the same one. -/
def insertStatic (d : Directive) : List Directive → List Directive
  | [] => [d]
  | e :: es =>
    if e.sameStatic d then d :: es
    else if d.staticBefore e then d :: e :: es
    else e :: insertStatic d es

/-- Add a span directive; it takes the place of the same one. -/
def insertDynamic (d : Directive) (ds : List Directive) : List Directive :=
  if ds.any (·.sameDynamic d) then ds.map fun e => if e.sameDynamic d then d else e
  else ds ++ [d]

/-- Read a filter; `none` when a directive cannot be read. -/
def parse? (s : String) : Option Filter := do
  let ds ← ((s.splitOn ",").filter (!·.isEmpty)).mapM Directive.parse?
  let f := ds.foldl (fun f d =>
    if d.isDynamic then
      { f with dynamics := insertDynamic d f.dynamics,
               dynamicMax := Verbosity.max f.dynamicMax d.verbosity }
    else f) ({} : Filter)
  let statics := ds.filter fun d => !d.isDynamic
  let statics := statics ++ ds.filter fun d => d.isDynamic && d.isStatic
  return statics.foldl (fun f d =>
    { f with statics := insertStatic d f.statics,
             staticMax := Verbosity.max f.staticMax d.verbosity }) f

/-- Whether some span directive tests a field value. -/
def testsValues (f : Filter) : Bool := f.dynamics.any fun d => d.fields.any (·.value.isSome)

/-- The most verbose level anything may have to pass at all. -/
def ceiling (f : Filter) : Verbosity :=
  if f.testsValues then .upTo .trace else Verbosity.max f.staticMax f.dynamicMax

/-- Whether the static directives let through something at level `l` with target `target`
(an event with fields `fields` when `event`). -/
def staticAdmits (f : Filter) (l : Level) (target : String) (event : Bool) (fields : List String) :
    Bool :=
  f.staticMax.admits l &&
    match f.statics.find? (·.staticCares target event fields) with
    | some d => d.verbosity.admits l
    | none => false

/-- The verbosity an open span grants to what happens inside it, if span directives are about
it: the most verbose of the directives whose values it matches, or `off`. -/
def grant (f : Filter) (s : Span) : Option Verbosity :=
  let caring := f.dynamics.filter (·.spanCares s)
  if caring.isEmpty then none
  else some ((caring.filter (·.valuesMatch s)).foldl (fun v d => Verbosity.max v d.verbosity) .off)

/-- Whether the open spans' grants let through something at level `l`. -/
def granted (f : Filter) (grants : List Verbosity) (l : Level) : Bool :=
  !f.dynamics.isEmpty && f.dynamicMax.admits l && grants.any (·.admits l)

/-- The spans, outermost first, that exist: each one that passes with the spans open around
it, and what each grants. -/
def openSpans (f : Filter) (spans : List Span) : List Span × List Verbosity :=
  spans.foldl (fun (kept, grants) s =>
    if !f.ceiling.admits s.level then (kept, grants)
    else
      match f.grant s with
      | some g => (kept ++ [s], grants ++ [g])
      | none =>
        if f.staticAdmits s.level s.target false [] || f.granted grants s.level then
          (kept ++ [s], grants)
        else (kept, grants)) ([], [])

/-- Whether an event is let through: within the most verbose level, by the grant of an open
span or by the static directives. -/
def admits (f : Filter) (e : Event) : Bool :=
  f.ceiling.admits e.level &&
    (f.granted (f.openSpans e.spans).2 e.level ||
      f.staticAdmits e.level e.target true ("message" :: e.fields.map (·.1)))

end Filter

end Fanout.Log
