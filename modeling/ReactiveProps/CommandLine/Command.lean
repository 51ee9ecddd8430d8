import ReactiveProps.CommandLine.Arguments

/-!
# The commands

What a word list asks for. Options that concern every command stand before the command's name; the
command `analyze` has options and one path of its own.
-/
namespace ReactiveProps.CommandLine

inductive GeneralOption
  | help
  | verbose
  | debug
  | quiet
  deriving DecidableEq, Repr

inductive AnalyzeOption
  | help
  | rawJson
  | output
  | recursive
  | strict
  | decorator
  deriving DecidableEq, Repr

def generalOptions : List (OptionName GeneralOption) := [
  ⟨"-h", .help, false⟩, ⟨"--help", .help, false⟩,
  ⟨"-v", .verbose, false⟩, ⟨"--verbose", .verbose, false⟩,
  ⟨"--debug", .debug, false⟩,
  ⟨"--quiet", .quiet, false⟩]

def analyzeOptions : List (OptionName AnalyzeOption) := [
  ⟨"-h", .help, false⟩, ⟨"--help", .help, false⟩,
  ⟨"--raw-json", .rawJson, false⟩,
  ⟨"--output", .output, true⟩,
  ⟨"--recursive", .recursive, false⟩,
  ⟨"--strict", .strict, false⟩,
  ⟨"--decorator", .decorator, true⟩]

structure Verbosity where
  verbose : Bool
  debug : Bool
  quiet : Bool
  deriving DecidableEq, Repr

structure AnalyzeRequest where
  path : String
  rawJson : Bool
  output : Option String
  recursive : Bool
  strict : Bool
  decorator : Option String
  deriving DecidableEq, Repr

inductive Invocation
  /-- The words make no sense together. -/
  | refused
  | generalHelp
  | analyzeHelp
  | noCommand (verbosity : Verbosity)
  | analyze (verbosity : Verbosity) (request : AnalyzeRequest)
  deriving DecidableEq, Repr

/-- The options of `analyze` read so far. -/
structure Partial where
  path : Option String
  request : AnalyzeRequest
  /-- Whether a word was left over. -/
  surplus : Bool

def Partial.start : Partial := ⟨none, ⟨"", false, none, false, false, none⟩, false⟩

/-- Records an option with its value, if it takes one. -/
def Partial.set (state : Partial) (value : String) : AnalyzeOption → Partial
  | .help => state
  | .rawJson => { state with request := { state.request with rawJson := true } }
  | .output => { state with request := { state.request with output := some value } }
  | .recursive => { state with request := { state.request with recursive := true } }
  | .strict => { state with request := { state.request with strict := true } }
  | .decorator => { state with request := { state.request with decorator := some value } }

def Partial.setAll (state : Partial) (value : String) (options : List AnalyzeOption) : Partial :=
  options.foldl (fun state option => state.set value option) state

/-- What the words of `analyze` ask for, once all are read. -/
def Partial.finish (verbosity : Verbosity) (state : Partial) : Invocation :=
  match state.path with
  | none => .refused
  | some path =>
    if state.surplus then .refused else .analyze verbosity { state.request with path }

/-- Takes a value: the first one is the path. -/
def Partial.take (state : Partial) (text : String) : Partial :=
  match state.path with
  | none => { state with path := some text }
  | some _ => { state with surplus := true }

/-- Reads the words of `analyze`. A separator next to the path is passed over. -/
def readAnalyze (verbosity : Verbosity) (state : Partial) :
    List (Word AnalyzeOption) → Invocation
  | [] => state.finish verbosity
  | .value text :: .separator :: rest => readAnalyze verbosity (state.take text) rest
  | .separator :: .value text :: rest => readAnalyze verbosity (state.take text) rest
  | .value text :: rest => readAnalyze verbosity (state.take text) rest
  | .separator :: rest => readAnalyze verbosity { state with surplus := true } rest
  | .unknown :: rest => readAnalyze verbosity { state with surplus := true } rest
  | .option name attached :: rest =>
    match bundle? analyzeOptions name attached with
    | none => .refused
    | some bundle =>
      if bundle.wantsValue then
        match rest.head? with
        | some (.value text) =>
          if .help ∈ bundle.actions then .analyzeHelp
          else readAnalyze verbosity (state.setAll text bundle.actions) rest.tail
        | _ => .refused
      else if .help ∈ bundle.actions then .analyzeHelp
      else readAnalyze verbosity (state.setAll (bundle.value.getD "") bundle.actions) rest
termination_by words => words.length
decreasing_by all_goals simp only [List.length_cons, List.length_tail]; omega

def readCommand (verbosity : Verbosity) (surplus : Bool) (name : String)
    (words : List String) : Invocation :=
  if name = "analyze" then
    match readWords? analyzeOptions words with
    | none => .refused
    | some words => readAnalyze verbosity { Partial.start with surplus } words
  else .refused

def Verbosity.set (verbosity : Verbosity) : GeneralOption → Verbosity
  | .help => verbosity
  | .verbose => { verbosity with verbose := true }
  | .debug => { verbosity with debug := true }
  | .quiet => { verbosity with quiet := true }

/-- Reads the words up to the name of a command; all words after the name are the command's. -/
def readGeneral (verbosity : Verbosity) (surplus : Bool) :
    List (Word GeneralOption × String) → Invocation
  | [] => if surplus then .refused else .noCommand verbosity
  | (.value name, _) :: rest => readCommand verbosity surplus name (rest.map Prod.snd)
  | (.separator, _) :: _ => .refused
  | (.unknown, _) :: rest => readGeneral verbosity true rest
  | (.option name attached, _) :: rest =>
    match bundle? generalOptions name attached with
    | none => .refused
    | some bundle =>
      if .help ∈ bundle.actions then .generalHelp
      else
        readGeneral (bundle.actions.foldl Verbosity.set verbosity) surplus rest

def read (words : List String) : Invocation :=
  match readWords? generalOptions words with
  | none => .refused
  | some read => readGeneral ⟨false, false, false⟩ false (read.zip words)

end ReactiveProps.CommandLine
