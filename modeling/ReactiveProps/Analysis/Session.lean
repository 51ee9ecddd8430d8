import ReactiveProps.Analysis.ParseCache

/-!
# Sessions

A session has a configuration that may change, a current analyzer with its handlers, and the parse
cache that all analyzers share.
-/
namespace ReactiveProps.Analysis

structure Session where
  configuration : Configuration
  analyzer : Analyzer
  /-- The handlers of the current analyzer by language name. -/
  handlers : OrderedMap String Handler
  cache : ParseCache
  /-- The number of the next handler. -/
  nextHandler : Nat

namespace Session

def start (configuration : Configuration) : Session :=
  ⟨configuration, .new configuration none none, .empty, .empty, 0⟩

/-- Goes on with a new analyzer. -/
def renew (session : Session) (resolver : Option Typing.Resolver) (strict : Option Bool) :
    Session :=
  { session with
    analyzer := .new session.configuration resolver strict
    handlers := .empty }

def set (session : Session) (sectionName key : String) (value : Value) : Session :=
  { session with configuration := session.configuration.set sectionName key value }

def reset (session : Session) : Session := { session with configuration := .default }

/-- The handler for a grammar, made at its first use. -/
def handler (session : Session) (grammar : Grammar) : Handler × Session :=
  match session.handlers.get? grammar.name with
  | some handler => (handler, session)
  | none =>
    let handler : Handler := ⟨session.nextHandler, grammar⟩
    (handler, { session with
      handlers := session.handlers.insert grammar.name handler
      nextHandler := session.nextHandler + 1 })

/-- Parses the code of a job with the handler for its grammar. -/
def parsed (session : Session) (parser : Parser) (job : Job) :
    Except AnalysisError Parsed × Session :=
  match job.grammar with
  | .error error => (.error error, session)
  | .ok grammar =>
    let (handler, session) := session.handler grammar
    let (parsed, cache) := handler.parse parser session.cache job.code
    (parsed, { session with cache })

def analyze (session : Session) (parser : Parser) (job : Job) : Logged Module × Session :=
  let (parsed, session) := session.parsed parser job
  match parsed with
  | .error error => (⟨[], .error error⟩, session)
  | .ok parsed =>
    (analyzeParsed session.analyzer session.configuration.settings job.path parsed, session)

end Session

end ReactiveProps.Analysis
