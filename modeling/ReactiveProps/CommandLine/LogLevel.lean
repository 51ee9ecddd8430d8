import ReactiveProps.Event
import ReactiveProps.Value

/-!
# Configured log levels

How much is logged is configured by a name. The names of levels are not the only ones: others stand
for a number, for nothing at all, or for something that is no level.
-/
namespace ReactiveProps.CommandLine

/-- What a name in the settings of the log stands for. -/
inductive LevelName
  | rank (rank : Nat)
  /-- The level stays as it is. -/
  | unset
  | text (value : String)
  /-- A thing that is no level, as it is shown. -/
  | thing (shown : String)
  deriving DecidableEq, Repr

/-- Why no level is configured. -/
inductive LevelError
  | unknownName (name : String)
  | unknownText (value : String)
  | unusable (shown : String)
  /-- The configured value is not even a name. -/
  | noName (typeName : String)
  deriving DecidableEq, Repr

def LevelError.message : LevelError → String
  | unknownName name => "module 'logging' has no attribute '" ++ name ++ "'"
  | unknownText value => "Unknown level: " ++ Text.quoted value
  | unusable shown => "Level not an integer or a valid string: " ++ shown
  | noName typeName => "attribute name must be string, not '" ++ typeName ++ "'"

/-- The names of the kinds of loggers, handlers and their parts. -/
def kindNames : List String := [
  "BufferingFormatter", "FileHandler", "Filter", "Filterer", "Formatter", "Handler", "LogRecord",
  "Logger", "LoggerAdapter", "Manager", "NullHandler", "PercentStyle", "PlaceHolder",
  "RootLogger", "StrFormatStyle", "StreamHandler", "StringTemplateStyle", "_StderrHandler"]

def shownKind (name : String) : String := "<class 'logging." ++ name ++ "'>"

/-- The names that stand for neither a level nor a kind. -/
def otherNames : List (String × LevelName) := [
  ("raiseExceptions", .rank 1),
  ("logThreads", .rank 1),
  ("logMultiprocessing", .rank 1),
  ("logProcesses", .rank 1),
  ("_warnings_showwarning", .unset),
  ("BASIC_FORMAT", .text "%(levelname)s:%(name)s:%(message)s"),
  ("__name__", .text "logging"),
  ("__package__", .text "logging"),
  ("__status__", .text "production"),
  ("__version__", .text "0.5.1.2"),
  ("__date__", .text "07 February 2010"),
  ("_loggerClass", .thing (shownKind "Logger")),
  ("_logRecordFactory", .thing (shownKind "LogRecord")),
  ("GenericAlias", .thing "<class 'types.GenericAlias'>"),
  ("Template", .thing "<class 'string.Template'>"),
  ("__class__", .thing "<class 'module'>"),
  ("root", .thing "<RootLogger root (WARNING)>"),
  ("lastResort", .thing "<_StderrHandler (WARNING)>"),
  ("_defaultLastResort", .thing "<_StderrHandler (WARNING)>"),
  ("atexit", .thing "<module 'atexit' (built-in)>"),
  ("sys", .thing "<module 'sys' (built-in)>"),
  ("time", .thing "<module 'time' (built-in)>"),
  ("io", .thing "<module 'io' (frozen)>"),
  ("os", .thing "<module 'os' (frozen)>"),
  ("_levelToName", .thing ("\x7b50: 'CRITICAL', 40: 'ERROR', 30: 'WARNING', 20: 'INFO', "
    ++ "10: 'DEBUG', 0: 'NOTSET'\x7d")),
  ("_nameToLevel", .thing ("\x7b'CRITICAL': 50, 'FATAL': 50, 'ERROR': 40, 'WARN': 30, "
    ++ "'WARNING': 30, 'INFO': 20, 'DEBUG': 10, 'NOTSET': 0\x7d"))]

/-- What a name stands for, if it stands for anything. -/
def LevelName.ofName? (name : String) : Option LevelName :=
  match Level.threshold? name with
  | some level => some (.rank level)
  | none =>
    if kindNames.contains name then some (.thing (shownKind name))
    else otherNames.lookup name

/-- The rank that a configured value sets. If the level stays as it is, warnings are logged. -/
def configuredRank (value : Value) : Except LevelError Nat :=
  match value with
  | .text name =>
    match LevelName.ofName? name with
    | some (.rank rank) => .ok rank
    | some .unset => .ok Level.warning.rank
    | some (.text value) => .error (.unknownText value)
    | some (.thing shown) => .error (.unusable shown)
    | none => .error (.unknownName name)
  | value => .error (.noName value.typeName)

end ReactiveProps.CommandLine
