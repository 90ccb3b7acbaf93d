import Fanout.Programs.Basic
import Fanout.Time.Calendar

/-!
# `date`: writing and reading times

`date` writes a time, by default now, in a format of `strftime` directives (`+%Y-%m-%d`), or
in the default `%a %b %e %H:%M:%S %Z %Y`. `-d` reads the time from text instead: `@seconds`,
a date `YYYY-MM-DD` and a time `HH:MM[:SS]`, the words `now`, `today`, `yesterday` and
`tomorrow`, and moves such as `3 days ago` or `+2 hours`.

Times are shown in the zone `TZ` names in the POSIX form `NAME±H[:MM]` (without summer time),
and in UTC when it names none or with `-u`.
-/

namespace Fanout.Programs

open Fanout.Posix Fanout.Time

/-- A time zone: its name and how many seconds it is ahead of UTC. -/
structure Zone where
  name : String
  offset : Int

/-- UTC. -/
def Zone.utc : Zone := ⟨"UTC", 0⟩

/-- The zone a `TZ` value names: `NAME` with an offset west of Greenwich (`EST5`, `UTC0`,
`XYZ-3:30`); anything else is UTC. -/
def readZone (tz : String) : Zone :=
  let cs := if tz.startsWith ":" then (tz.drop 1).toString.toList else tz.toList
  let name := cs.takeWhile Char.isAlpha
  let rest := cs.drop name.length
  let (sign, body) : Int × List Char := match rest with
    | '-' :: r => (-1, r)
    | '+' :: r => (1, r)
    | r => (1, r)
  let hours := body.takeWhile Char.isDigit
  let after := body.drop hours.length
  let minutes := match after with
    | ':' :: r => r.takeWhile Char.isDigit
    | _ => []
  let num (ds : List Char) : Int := ds.foldl (fun v c => v * 10 + (c.toNat - 48 : Nat)) 0
  if name.length < 3 || hours.isEmpty then
    if name.length ≥ 3 && rest.isEmpty then ⟨String.ofList name, 0⟩ else Zone.utc
  else ⟨String.ofList name, -sign * (num hours * 3600 + num minutes * 60)⟩

/-- The names of the days of the week, from Sunday. -/
def weekdayNames : List String :=
  ["Sunday", "Monday", "Tuesday", "Wednesday", "Thursday", "Friday", "Saturday"]

/-- The names of the months, from January. -/
def monthNames : List String :=
  ["January", "February", "March", "April", "May", "June", "July", "August", "September",
   "October", "November", "December"]

/-- A number in at least `width` places, filled with `pad`. -/
def padded (pad : Char) (width : Nat) (v : Int) : String :=
  let digits := toString v.natAbs
  let sign := if v < 0 then "-" else ""
  if pad == '0' then sign ++ String.ofList (List.replicate (width - digits.length - sign.length) '0') ++ digits
  else String.ofList (List.replicate (width - digits.length - sign.length) pad) ++ sign ++ digits

/-- A zone offset as `+hhmm`, with `colons` colons between the parts. -/
def zoneOffsetText (colons : Nat) (offset : Int) : String :=
  let sign := if offset < 0 then "-" else "+"
  let a := offset.natAbs
  let hh := padded '0' 2 (a / 3600)
  let mm := padded '0' 2 (a / 60 % 60)
  let ss := padded '0' 2 (a % 60)
  match colons with
  | 0 => sign ++ hh ++ mm
  | 1 => sign ++ hh ++ ":" ++ mm
  | _ => sign ++ hh ++ ":" ++ mm ++ ":" ++ ss

/-- Write a time (`t` seconds and `nanos` past the epoch, shown in `zone`) as a format of
`strftime` directives asks. A directive may carry a flag (`-` no padding, `_` spaces, `0`
zeros, `^` upper case, `#` the other case) and a width. -/
def formatTime (zone : Zone) (t : Int) (nanos : Nat) (fmt : String) : String :=
  let c := civilOfSeconds (t + zone.offset)
  let (isoYear, isoWeekNo) := isoWeek c
  let hour12 := if c.hour % 12 == 0 then 12 else c.hour % 12
  let wdayMon := (c.weekday + 6) % 7
  let weekSun := (c.yearDay + 7 - c.weekday) / 7
  let weekMon := (c.yearDay + 7 - wdayMon) / 7
  -- A directive's text, its padding and the width it pads to by default.
  let rec directive : Nat → Char → Option (String × Char × Nat)
    | 0, _ => none
    | k + 1, d =>
      let num (pad : Char) (w : Nat) (v : Int) : Option (String × Char × Nat) := some (toString v, pad, w)
      let text (s : String) : Option (String × Char × Nat) := some (s, ' ', 0)
      -- A directive that stands for a format of others, each `%` and one letter.
      let sub (f : String) : Option (String × Char × Nat) :=
        let pieces := f.splitOn "%"
        text (pieces.headD "" ++ String.join ((pieces.drop 1).map fun piece =>
          match piece.toList with
          | x :: lit =>
            (match directive k x with
              | some (s, p, w) => padText p w s
              | none => "%" ++ String.singleton x) ++ String.ofList lit
          | [] => "%"))
      match d with
      | 'a' => text (((weekdayNames.getD c.weekday "").take 3).toString)
      | 'A' => text (weekdayNames.getD c.weekday "")
      | 'b' | 'h' => text (((monthNames.getD (c.month - 1) "").take 3).toString)
      | 'B' => text (monthNames.getD (c.month - 1) "")
      | 'c' => sub "%a %b %e %H:%M:%S %Y"
      | 'C' => num '0' 2 (c.year / 100)
      | 'd' => num '0' 2 c.day
      | 'D' => sub "%m/%d/%y"
      | 'e' => num ' ' 2 c.day
      | 'F' => sub "%Y-%m-%d"
      | 'g' => num '0' 2 (isoYear % 100)
      | 'G' => num '0' 0 isoYear
      | 'H' => num '0' 2 c.hour
      | 'I' => num '0' 2 hour12
      | 'j' => num '0' 3 (c.yearDay + 1)
      | 'k' => num ' ' 2 c.hour
      | 'l' => num ' ' 2 hour12
      | 'm' => num '0' 2 c.month
      | 'M' => num '0' 2 c.minute
      | 'n' => text "\n"
      | 'N' => num '0' 9 nanos
      | 'p' => text (if c.hour < 12 then "AM" else "PM")
      | 'P' => text (if c.hour < 12 then "am" else "pm")
      | 'r' => sub "%I:%M:%S %p"
      | 'R' => sub "%H:%M"
      | 's' => num '0' 0 t
      | 'S' => num '0' 2 c.second
      | 't' => text "\t"
      | 'T' => sub "%H:%M:%S"
      | 'u' => num '0' 0 (wdayMon + 1)
      | 'U' => num '0' 2 weekSun
      | 'V' => num '0' 2 isoWeekNo
      | 'w' => num '0' 0 c.weekday
      | 'W' => num '0' 2 weekMon
      | 'x' => sub "%m/%d/%y"
      | 'X' => sub "%H:%M:%S"
      | 'y' => num '0' 2 (c.year % 100)
      | 'Y' => num '0' 0 c.year
      | 'z' => text (zoneOffsetText 0 zone.offset)
      | 'Z' => text zone.name
      | '%' => text "%"
      | _ => none
  let rec go : Nat → List Char → String → String
    | 0, _, acc => acc
    | _ + 1, [], acc => acc
    | k + 1, '%' :: rest, acc =>
      let flags := rest.takeWhile fun x => "-_0^#".toList.contains x
      let r1 := rest.drop flags.length
      let width := r1.takeWhile Char.isDigit
      let r2 := r1.drop width.length
      let colons := r2.takeWhile (· == ':')
      let r3 := r2.drop colons.length
      match r3 with
      | [] => acc ++ "%" ++ String.ofList (flags ++ width ++ colons)
      | d :: r4 =>
        let shown : Option String :=
          if d == 'z' && !colons.isEmpty then some (zoneOffsetText colons.length zone.offset)
          else if !colons.isEmpty then none
          else (directive 8 d).map fun (s, pad, w) =>
            let w := if width.isEmpty then w else width.foldl (fun n x => n * 10 + (x.toNat - 48)) 0
            let pad := if flags.contains '_' then ' ' else if flags.contains '0' then '0' else pad
            let s := if flags.contains '-' then s else padText pad w s
            if flags.contains '^' then s.toUpper
            else if flags.contains '#' then
              (if s.any Char.isLower then s.toUpper else s.toLower)
            else s
        match shown with
        | some s => go k r4 (acc ++ s)
        | none => go k r4 (acc ++ "%" ++ String.ofList (flags ++ width ++ colons ++ [d]))
    | k + 1, x :: rest, acc => go k rest (acc.push x)
  go (fmt.length + 1) fmt.toList ""
where
  /-- Text padded on the left to `w` places with `pad` (zeros after a sign). -/
  padText (pad : Char) (w : Nat) (s : String) : String :=
    if s.length ≥ w then s
    else if pad == '0' && s.startsWith "-" then
      "-" ++ String.ofList (List.replicate (w - s.length) '0') ++ (s.drop 1).toString
    else String.ofList (List.replicate (w - s.length) pad) ++ s

/-- A time read from text: seconds past the epoch and nanoseconds. -/
abbrev ReadTime := Int × Nat

/-- Read digits as a number. -/
def digitsNat (ds : List Char) : Nat := ds.foldl (fun v c => v * 10 + (c.toNat - 48)) 0

/-- Read `@seconds[.fraction]`. -/
def readEpoch (s : List Char) : Option ReadTime :=
  let (neg, body) := match s with
    | '-' :: r => (true, r)
    | '+' :: r => (false, r)
    | r => (false, r)
  let whole := body.takeWhile Char.isDigit
  let rest := body.drop whole.length
  let frac := match rest with
    | '.' :: r => some (r.takeWhile Char.isDigit, r.drop (r.takeWhile Char.isDigit).length)
    | _ => none
  if whole.isEmpty then none
  else
    match frac with
    | some (fs, []) =>
      let nanos := digitsNat ((fs ++ List.replicate 9 '0').take 9)
      let w : Int := digitsNat whole
      if neg then
        if nanos == 0 then some (-w, 0) else some (-w - 1, 1000000000 - nanos)
      else some (w, nanos)
    | some _ => none
    | none =>
      if rest.isEmpty then some (if neg then -(digitsNat whole : Int) else digitsNat whole, 0) else none

/-- The parts of a date text: a date, a time of day, a zone, and moves. -/
structure DateParts where
  date : Option (Int × Nat × Nat) := none
  time : Option (Nat × Nat × Nat) := none
  zone : Option Int := none
  years : Int := 0
  months : Int := 0
  seconds : Int := 0

/-- Read a date `YYYY-MM-DD` or `MM/DD/YYYY`. -/
def readCalendarDate (w : List Char) : Option (Int × Nat × Nat) :=
  match (String.ofList w).splitOn "-" with
  | [y, m, d] =>
    if [y, m, d].all (fun p => !p.isEmpty && p.all Char.isDigit) then
      some (digitsNat y.toList, digitsNat m.toList, digitsNat d.toList)
    else none
  | _ =>
    match (String.ofList w).splitOn "/" with
    | [m, d, y] =>
      if [y, m, d].all (fun p => !p.isEmpty && p.all Char.isDigit) then
        some (digitsNat y.toList, digitsNat m.toList, digitsNat d.toList)
      else none
    | _ => none

/-- Read a time of day `HH:MM[:SS]`, with the zone after it (`Z`, `+hh[:mm]`). -/
def readClock (w : List Char) : Option ((Nat × Nat × Nat) × Option Int) :=
  let body := w.takeWhile fun c => c.isDigit || c == ':' || c == '.'
  let zoneText := w.drop body.length
  let zone : Option (Option Int) := match zoneText with
    | [] => some none
    | ['z'] => some (some 0)
    | s :: ds =>
      if s == '+' || s == '-' then
        let digits := ds.filter (· != ':')
        if digits.all Char.isDigit && (digits.length == 2 || digits.length == 4) then
          let h := digitsNat (digits.take 2)
          let m := digitsNat (digits.drop 2)
          let v : Int := h * 3600 + m * 60
          some (some (if s == '-' then -v else v))
        else none
      else none
  match (String.ofList body).splitOn ":", zone with
  | [h, m], some z =>
    if h.all Char.isDigit && m.all Char.isDigit && !h.isEmpty && m.length == 2 then
      some ((digitsNat h.toList, digitsNat m.toList, 0), z)
    else none
  | [h, m, s], some z =>
    let whole := (s.splitOn ".").headD s
    if h.all Char.isDigit && m.all Char.isDigit && whole.all Char.isDigit && !h.isEmpty then
      some ((digitsNat h.toList, digitsNat m.toList, digitsNat whole.toList), z)
    else none
  | _, _ => none

/-- The seconds of a unit of a move, or for months and years the months. -/
def moveUnit (w : String) : Option (Bool × Int) :=
  let w := if w.endsWith "s" && w.length > 3 then (w.dropEnd 1).toString else w
  match w with
  | "sec" | "second" => some (false, 1)
  | "min" | "minute" => some (false, 60)
  | "hour" => some (false, 3600)
  | "day" => some (false, 86400)
  | "week" => some (false, 604800)
  | "fortnight" => some (false, 1209600)
  | "month" => some (true, 1)
  | "year" => some (true, 12)
  | _ => none

/-- Read the words of a date text into its parts. -/
def readDateWords : Nat → List String → DateParts → Option DateParts
  | 0, _, p => some p
  | _ + 1, [], p => some p
  | k + 1, w :: rest, p =>
    let move (n : Int) (unit : String) (more : List String) : Option DateParts :=
      match moveUnit unit with
      | some (calendar, size) =>
        let (n, more) := match more with
          | "ago" :: r => (-n, r)
          | r => (n, r)
        let p := if calendar then
            if size == 12 then { p with years := p.years + n } else { p with months := p.months + n }
          else { p with seconds := p.seconds + n * size }
        readDateWords k more p
      | none => none
    match w with
    | "now" | "today" => readDateWords k rest p
    | "yesterday" => readDateWords k rest { p with seconds := p.seconds - 86400 }
    | "tomorrow" => readDateWords k rest { p with seconds := p.seconds + 86400 }
    | "utc" | "gmt" | "z" => readDateWords k rest { p with zone := some 0 }
    | "next" => match rest with
      | u :: more => move 1 u more
      | [] => none
    | "last" => match rest with
      | u :: more => move (-1) u more
      | [] => none
    | _ =>
      let cs := w.toList
      match cs with
      | s :: ds =>
        if (s == '+' || s == '-' || s.isDigit) && (ds.all Char.isDigit) && (s != '+' && s != '-' || !ds.isEmpty) &&
            (rest.head?.any fun u => (moveUnit u).isSome) then
          let n : Int := if s == '-' then -(digitsNat ds : Int) else if s == '+' then digitsNat ds else digitsNat cs
          move n (rest.headD "") (rest.drop 1)
        else
          -- A date and a time may be joined by `T`.
          let (datePart, timePart) := match (String.ofList cs).splitOn "t" with
            | [d, t] => if (readCalendarDate d.toList).isSome then (d.toList, some t.toList) else (cs, none)
            | _ => (cs, none)
          match readCalendarDate datePart with
          | some d =>
            let p := { p with date := some d }
            match timePart with
            | some t =>
              match readClock t with
              | some (tm, z) => readDateWords k rest { p with time := some tm, zone := z.orElse fun _ => p.zone }
              | none => none
            | none => readDateWords k rest p
          | none =>
            match readClock cs with
            | some (tm, z) => readDateWords k rest { p with time := some tm, zone := z.orElse fun _ => p.zone }
            | none =>
              if cs.all Char.isDigit && !cs.isEmpty && p.date.isSome && p.time.isNone then
                -- A bare number after a date is a time of day `hhmm`.
                let v := digitsNat cs
                readDateWords k rest { p with time := some (v / 100, v % 100, 0) }
              else none
      | [] => readDateWords k rest p

/-- The time a date text names, from the time `now` in `zone`. -/
def readDate (zone : Zone) (now : Int) (text : String) : Option ReadTime :=
  let t := text.trimAscii.toString
  if t.startsWith "@" then readEpoch (t.drop 1).toString.toList
  else
    let words := (t.toLower.splitOn " ").filter (!·.isEmpty)
    match readDateWords (words.length + 1) words {} with
    | none => none
    | some p =>
      let offset := p.zone.getD zone.offset
      let c := civilOfSeconds (now + offset)
      let (y, m, d) := p.date.getD (c.year, c.month, c.day)
      let (hh, mm, ss) := p.time.getD (if p.date.isSome then (0, 0, 0) else (c.hour, c.minute, c.second))
      if m < 1 || m > 12 || d < 1 || d > monthDays y m || hh > 24 || mm > 59 || ss > 60 then none
      else
        -- Months and years move the calendar date; the day is then carried over as needed.
        let total : Int := (y * 12 + (m - 1 : Nat)) + p.years * 12 + p.months
        let y2 := total / 12 - (if total % 12 < 0 then 1 else 0)
        let m2 := (total - y2 * 12).toNat + 1
        let localSecs := secondsOfCivil y2 m2 1 hh mm ss + (d - 1 : Nat) * 86400
        some (localSecs - offset + p.seconds, 0)

/-- The `date` program. -/
def dateProgram (name : String) (args : List String) : Sh Unit := do
  let rfc3339L := Char.ofNat 1
  let (opts, ops) ← options name "d:f:I::r:Rs:u" true args
    [("date", 'd'), ("file", 'f'), ("iso-8601", 'I'), ("reference", 'r'), ("rfc-email", 'R'),
     ("rfc-822", 'R'), ("rfc-2822", 'R'), ("set", 's'), ("utc", 'u'), ("universal", 'u'),
     ("rfc-3339", rfc3339L)]
  let sh ← getShell
  let zone := if hasOpt opts 'u' then Zone.utc
    else match sh.get? "TZ" with
      | some tz => if tz.isEmpty then Zone.utc else readZone tz
      | none => Zone.utc
  let now : Int := ((← getProc).now / 1000000000 : Nat)
  let nowNanos := (← getProc).now % 1000000000
  let (fmtOps, others) := ops.partition (·.startsWith "+")
  match others with
  | extra :: _ => usageError name ("extra operand " ++ (← quoted extra))
  | [] => pure ()
  if fmtOps.length > 1 then usageError name ("extra operand " ++ (← quoted (fmtOps.getD 1 "")))
  if hasOpt opts 's' then
    say name "cannot set date: Operation not permitted"
  let (t, nanos) ← match optArg opts 'd', optArg opts 's' with
    | some text, _ =>
      match readDate zone now text with
      | some r => pure r
      | none =>
        say name ("invalid date " ++ (← quoted text))
        exitWith 1
    | none, some text =>
      match readDate zone now text with
      | some r => pure r
      | none =>
        say name ("invalid date " ++ (← quoted text))
        exitWith 1
    | none, none => pure (now, nowNanos)
  let isoFormat (what : String) : Option String :=
    match what with
    | "" | "date" => some "%Y-%m-%d"
    | "hours" => some "%Y-%m-%dT%H%:z"
    | "minutes" => some "%Y-%m-%dT%H:%M%:z"
    | "seconds" => some "%Y-%m-%dT%H:%M:%S%:z"
    | "ns" => some "%Y-%m-%dT%H:%M:%S,%N%:z"
    | _ => none
  let fmt ← match fmtOps.head?, optArg opts 'I', optArg opts rfc3339L with
    | some f, _, _ => pure (f.drop 1).toString
    | none, some what, _ =>
      match isoFormat what with
      | some f => pure f
      | none =>
        say name ("invalid argument " ++ (← quoted what) ++ " for '--iso-8601'")
        err ("Valid arguments are:\n  - 'hours'\n  - 'minutes'\n  - 'date'\n  - 'seconds'\n  - 'ns'\n")
        tryHelp name
        exitWith 1
    | none, none, some what =>
      match what with
      | "date" => pure "%Y-%m-%d"
      | "seconds" => pure "%Y-%m-%d %H:%M:%S%:z"
      | "ns" => pure "%Y-%m-%d %H:%M:%S.%N%:z"
      | _ =>
        say name ("invalid argument " ++ (← quoted what) ++ " for '--rfc-3339'")
        err ("Valid arguments are:\n  - 'date'\n  - 'seconds'\n  - 'ns'\n")
        tryHelp name
        exitWith 1
    | none, none, none =>
      pure (if hasOpt opts 'R' then "%a, %d %b %Y %H:%M:%S %z" else "%a %b %e %H:%M:%S %Z %Y")
  out (formatTime zone t nanos fmt ++ "\n")
  exitWith (if hasOpt opts 's' then 1 else 0)

end Fanout.Programs
