import Fanout.Log.Filter
import Fanout.Log.Render
import Fanout.Json.Decode
import Fanout.Host.Fs
import Fanout.Text.Blank

/-!
# Installing a logger

A logger is configured by a format (text, JSON, or the system journal, which this build does
not support), a filter, whether targets are shown, whether the console uses colour, and an
optional rolling log file `<directory>/<stem>.<date>.log` (just `<stem>.log` when it never
rolls; an empty stem leaves out the name and its dot).

Installing checks, in order: the filter (an unreadable one is an invalid level), the journal
(refused), the log file (its directory is made when the file cannot be opened), and last
whether a logger is installed already; only one can be. Once installed, every event the filter
lets through is written to the console and to the log file, in the configured format; the file
never gets colour.
-/

namespace Fanout.Log

open Host

/-- How events are written. -/
inductive Format where
  | text
  | json
  | journald
  deriving Inhabited, DecidableEq, Repr

/-- Why a logger could not be set up. -/
inductive LoggerError where
  | invalidFormat (raw : String)
  | journaldNotSupported
  | alreadyInitialized
  | invalidLogLevel (level : String)
  | logFile (dir reason : String)
  deriving Inhabited, DecidableEq, Repr

namespace LoggerError

/-- The name of the kind of error. -/
def kind : LoggerError → String
  | .invalidFormat _ => "InvalidFormat"
  | .journaldNotSupported => "JournaldNotSupported"
  | .alreadyInitialized => "AlreadyInitialized"
  | .invalidLogLevel _ => "InvalidLogLevel"
  | .logFile _ _ => "LogFile"

/-- The sentence of the error. -/
def text : LoggerError → String
  | .invalidFormat raw => "Invalid logger format: " ++ raw ++ " (expected: text|json|journald)"
  | .journaldNotSupported => "Journald is not supported on this platform or feature disabled"
  | .alreadyInitialized => "Logger has been already initialized"
  | .invalidLogLevel level => "Invalid log level: " ++ level
  | .logFile dir reason => "Failed to open log file in " ++ dir ++ ": " ++ reason

end LoggerError

namespace Format

/-- Read a format name: blanks around it and the case of ASCII letters do not matter. -/
def parse (s : String) : Except LoggerError Format :=
  match (Text.trimWhite s).toLower with
  | "text" => .ok .text
  | "json" => .ok .json
  | "journald" | "journal" => .error .journaldNotSupported
  | _ => .error (.invalidFormat s)

/-- The name of the format. -/
def name : Format → String
  | .text => "text"
  | .json => "json"
  | .journald => "journald"

/-- The name of the format's variant. -/
def variantName : Format → String
  | .text => "Text"
  | .json => "Json"
  | .journald => "Journald"

/-- Read a format from a string value. -/
def decoder : Json.Decoder Format := fun t =>
  match Json.Decoder.string t with
  | .ok s =>
    match parse s with
    | .ok f => .ok f
    | .error e => .error ⟨.custom e.text, t.faultPos⟩
  | .error e => .error e

end Format

/-- How often the log file rolls over to a new one. -/
inductive Rotation where
  | minutely
  | hourly
  | daily
  | never
  deriving Inhabited, DecidableEq, Repr

namespace Rotation

/-- The name of the variant. -/
def variantName : Rotation → String
  | .minutely => "Minutely"
  | .hourly => "Hourly"
  | .daily => "Daily"
  | .never => "Never"

/-- The date part of a file name, for the moment the file is opened. -/
def dateText : Rotation → String
  | .minutely => "2024-01-01-00-00"
  | .hourly => "2024-01-01-00"
  | _ => "2024-01-01"

end Rotation

/-- A rolling log file: its directory, the stem of its name and how it rolls. -/
structure FileLog where
  directory : String
  stem : String := "fanrun"
  rotation : Rotation := .daily
  deriving Inhabited, DecidableEq, Repr

namespace FileLog

/-- The name of the file opened now. -/
def fileName (f : FileLog) : String :=
  match f.rotation, f.stem.isEmpty with
  | .never, false => f.stem ++ ".log"
  | .never, true => "log"
  | r, false => f.stem ++ "." ++ r.dateText ++ ".log"
  | r, true => r.dateText ++ ".log"

open Json.Decoder in
/-- Read a file section: the directory is required. -/
def decoder : Json.Decoder FileLog :=
  record "struct FileLogConfig"
    [Field.of "directory" path (fun v (f : FileLog) => { f with directory := v }) true,
     Field.of "prefix" string (fun v (f : FileLog) => { f with stem := v }),
     Field.of "rotation"
      (named [("minutely", Rotation.minutely), ("hourly", .hourly), ("daily", .daily),
        ("never", .never)])
      (fun v (f : FileLog) => { f with rotation := v })]
    { directory := "" }

end FileLog

/-- A logger's configuration. Colour is `none` when not given, and then off, since the console
is not a terminal. -/
structure LoggerConfig where
  format : Format := .text
  level : String := "info"
  withTargets : Bool := true
  useColor : Option Bool := none
  file : Option FileLog := none
  deriving Inhabited, DecidableEq, Repr

namespace LoggerConfig

open Json.Decoder in
/-- Read a configuration; every member may be left out. -/
def decoder : Json.Decoder LoggerConfig :=
  record "struct LoggerConfig"
    [Field.of "format" Format.decoder (fun v (c : LoggerConfig) => { c with format := v }),
     Field.of "level" string (fun v (c : LoggerConfig) => { c with level := v }),
     Field.of "with_targets" bool (fun v (c : LoggerConfig) => { c with withTargets := v }),
     Field.of "use_color" bool (fun v (c : LoggerConfig) => { c with useColor := some v }),
     Field.of "file" (option FileLog.decoder) (fun v (c : LoggerConfig) => { c with file := v })]
    {}

end LoggerConfig

/-- A line a program writes: a log line in text (after its timestamp, with whether it carries
colour codes), a log object in JSON (without its timestamp), or any other text. -/
inductive Line where
  | log (colour : Bool) (body : String)
  | record (j : Json)
  | plain (text : String)
  deriving Inhabited

/-- An installed logger: its filter, format, whether targets are shown, whether the console has
colour, and the path of its log file. -/
structure Logger where
  filter : Filter
  format : Format
  withTargets : Bool
  colour : Bool
  file : Option String
  deriving Inhabited

namespace Logger

/-- The line of an event that the filter let through, with or without colour. -/
def line (lg : Logger) (colour : Bool) (e : Event) : Line :=
  let spans := (lg.filter.openSpans e.spans).1
  match lg.format with
  | .json => .record (jsonLine lg.withTargets spans e)
  | _ => .log colour (textLine lg.withTargets spans e)

end Logger

/-- The logging state of a process: its files, its logger once installed, what it wrote to the
console and what it wrote to each log file. -/
structure Logging where
  fs : Fs
  cwd : String
  logger : Option Logger := none
  console : List Line := []
  files : List (String × List Line) := []
  deriving Inhabited

namespace Logging

/-- Add `l` to the lines of file `path`. -/
def appendTo (files : List (String × List Line)) (path : String) (l : Line) :
    List (String × List Line) :=
  if files.any (·.1 == path) then files.map fun (p, ls) => if p == path then (p, ls ++ [l]) else (p, ls)
  else files ++ [(path, [l])]

/-- Report an event to the installed logger, if any. -/
def emit (g : Logging) (e : Event) : Logging :=
  match g.logger with
  | none => g
  | some lg =>
    if lg.filter.admits e then
      let g := { g with console := g.console ++ [lg.line lg.colour e] }
      match lg.file with
      | some p => { g with files := appendTo g.files p (lg.line false e) }
      | none => g
    else g

/-- Write a line that is not a log event to the console. -/
def print (g : Logging) (text : String) : Logging := { g with console := g.console ++ [.plain text] }

/-- Open the log file of `f`, making its directory when the file cannot be opened: the path of
the file and the files afterwards. -/
def openFile (fs : Fs) (cwd : String) (f : FileLog) : Except LoggerError (String × Fs) :=
  let path := joinPath f.directory f.fileName
  let failure (what : String) (e : OsError) := LoggerError.logFile f.directory (what ++ ": " ++ e.text)
  let create (fs : Fs) : Except OsError (String × Fs) :=
    match fs.stat cwd path with
    | .ok (.file _ _) =>
      match fs.resolve cwd path with
      | .ok q => .ok (q, fs)
      | .error e => .error e
    | .ok _ => .error .isDir
    | .error .notFound =>
      match fs.stat cwd f.directory with
      | .ok (.dir _) =>
        match fs.resolve cwd f.directory with
        | .ok dir =>
          if fs.acceptsNames dir then
            .ok (joinPath dir f.fileName, fs.put (joinPath dir f.fileName) (.file "" 0o644))
          else .error .notFound
        | .error e => .error e
      | .ok _ => .error .notDir
      | .error e => .error e
    | .error e => .error e
  match create fs with
  | .ok r => .ok r
  | .error _ =>
    match fs.mkdirAll cwd f.directory with
    | .error e => .error (failure "failed to create log directory" e)
    | .ok fs2 =>
      match create fs2 with
      | .ok r => .ok r
      | .error e => .error (failure "failed to create log file" e)

/-- Install a logger configured by `cfg`. -/
def init (g : Logging) (cfg : LoggerConfig) : Except LoggerError Logging := do
  let filter ← match Filter.parse? cfg.level with
    | some f => pure f
    | none => throw (.invalidLogLevel cfg.level)
  if cfg.format == .journald then throw .journaldNotSupported
  let (file, fs) ← match cfg.file with
    | some f => do
      let (p, fs) ← openFile g.fs g.cwd f
      pure (some p, fs)
    | none => pure (none, g.fs)
  match g.logger with
  | some _ => throw .alreadyInitialized
  | none =>
    let colour := cfg.format == .text && cfg.useColor.getD false
    let lg : Logger := { filter, format := cfg.format, withTargets := cfg.withTargets, colour, file }
    return { g with fs := fs, logger := some lg }

end Logging

end Fanout.Log
