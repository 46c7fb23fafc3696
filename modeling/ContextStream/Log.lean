/-!
# The log

Each part of the program reports entries. The log holds what its own parts and the HTTP
tracing report, from one level on: every kept entry is a line with the level, the run that
the entry belongs to, its source and its message. A file holds the lines of one day.
-/

namespace ContextStream.Log

/-- How important an entry is. -/
inductive Level where
  | debug
  | info
  | warn
  | error
  deriving DecidableEq, Repr

/-- The name of a level. -/
def Level.name : Level → String
  | .debug => "DEBUG"
  | .info => "INFO"
  | .warn => "WARN"
  | .error => "ERROR"

/-- A number that grows with importance. -/
def Level.rank : Level → Nat
  | .debug => 0
  | .info => 1
  | .warn => 2
  | .error => 3

/-- What one part of the program reports. -/
structure Entry where
  level : Level
  /-- The part of the program. -/
  source : String
  message : String
  deriving DecidableEq, Repr

/-! ## Which entries are kept -/

/-- The parts of the program whose entries are kept. -/
def keptParts : List String :=
  ["ctxgen", "ctxgen_core", "ctxgen_push", "ctxgen_stream", "ctxgen_callback", "tower_http"]

/-- The least important level that is kept. -/
def keptLevel : Level := .info

/-- The rule of what is kept, as a text. -/
def filterText : String :=
  String.intercalate "," (keptParts.map (· ++ "=" ++ keptLevel.name.toLower))

/-- Whether an entry is kept: a source belongs to a part that its name begins with. -/
def isKept (entry : Entry) : Bool :=
  keptLevel.rank ≤ entry.level.rank &&
    keptParts.any fun part => part.toList.isPrefixOf entry.source.toList

/-! ## Lines of a log file -/

/-- An entry, and the name of the stream whose run it belongs to. -/
structure Line where
  stream : Option String
  entry : Entry
  deriving DecidableEq, Repr

/-- The name of a level, set to the right in five columns. -/
def Level.column (level : Level) : String :=
  String.ofList (List.replicate (5 - level.name.length) ' ') ++ level.name

/-- The run of a stream. The name of its field is slanted and the sign after it
dimmed, as on a terminal. -/
def runText (stream : String) : String :=
  "stream\x7b\x1b[3mname\x1b[0m\x1b[2m=\x1b[0m" ++ stream ++ "\x7d: "

/-- The text of a line, without the time in front of it. -/
def Line.text (line : Line) : String :=
  line.entry.level.column ++ " " ++ (line.stream.map runText).getD "" ++
    line.entry.source ++ ": " ++ line.entry.message

/-- The texts of the lines that are kept. -/
def fileLines (lines : List Line) : List String :=
  (lines.filter (isKept ·.entry)).map Line.text

/-- The variable of the environment that names the directory of log files. -/
def directoryVariable : String := "CTXGEN_LOG_DIR"

/-- The name of the file of a day. -/
def fileName (date : String) : String :=
  "ctxgen.log." ++ date

end ContextStream.Log
