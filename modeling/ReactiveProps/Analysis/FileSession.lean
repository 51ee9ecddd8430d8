import ReactiveProps.Analysis.Directory
import ReactiveProps.Analysis.Session

/-!
# Sessions that analyze files

The files of a directory are all analyzed by the current analyzer of a session, which keeps its
handlers and the parse cache from one file to the next.
-/
namespace ReactiveProps.Analysis.Session

open Files

def analyzeFile (session : Session) (parser : Parser) (fs : FileSystem) (path : String) :
    Logged Module × Session :=
  if fs.isFile path then
    match fs.load path with
    | .ok text => session.analyze parser ⟨.ofString text, some path, none⟩
    | .error _ => (⟨[], .error (.fileMissing path)⟩, session)
  else (⟨[], .error (.fileMissing path)⟩, session)

def analyzeFiles (session : Session) (parser : Parser) (fs : FileSystem) :
    List String → Logged (List Module) × Session
  | [] => (⟨[], .ok []⟩, session)
  | path :: rest =>
    let (first, next) := session.analyzeFile parser fs path
    match first.result with
    | .error error => (⟨first.events, .error error⟩, next)
    | .ok module =>
      let (others, last) := next.analyzeFiles parser fs rest
      (⟨first.events ++ others.events, others.result.map (module :: ·)⟩, last)

def analyzeDirectory (session : Session) (parser : Parser) (fs : FileSystem) (root : String)
    (recursive : Bool) : Logged (List Module) × Session :=
  match (session.configuration.analysis "file_extensions").members? with
  | .error message => (⟨[], .error (.badSetting message)⟩, session)
  | .ok extensions =>
    let search := fs.search extensions root recursive
    let (outcome, next) := session.analyzeFiles parser fs search.sources
    (⟨outcome.events, afterSearch search outcome.result⟩, next)

end ReactiveProps.Analysis.Session
