import ReactiveProps.Analysis.ErrorView

/-!
# Errors that share contexts

A desk keeps errors and the contexts they write to. An error made with a context of the caller
writes to that very context, so that several errors may share one; an error made without has a
context of its own.
-/
namespace ReactiveProps.Analysis

/-- An error on the desk. `detail` is the path of a parsing error or the language of an
unsupported one. -/
structure DeskError where
  kind : ErrorKind
  message : Value
  detail : Value
  range : Option SourceRange
  /-- The position of its context on the desk. -/
  context : Nat

structure ErrorDesk where
  contexts : List Context
  /-- The contexts that callers know by name. -/
  names : OrderedMap String Nat
  errors : OrderedMap String DeskError

/-- A call that makes an error: values by position and by name. The node of a kind that has one
stands before the values. -/
structure ErrorCall where
  kind : ErrorKind
  range : Option SourceRange
  positional : List Value
  named : OrderedMap String Value

namespace ErrorCall

/-- The parameters of a kind, the node aside, and whether each must be given. -/
def parameters : ErrorKind → List (String × Bool)
  | .general => [("message", true)]
  | .parsing => [("message", true), ("path", false)]
  | .unsupportedLanguage => [("language", true)]
  | .diagnostic => [("message", true)]
  | .typeResolution => [("message", true)]
  | _ => []

/-- The names that no additional value may have. What is given as the context has to be one that can
be written to, and a value is none. -/
def reserved (kind : ErrorKind) : List String :=
  ["self", "message", "context"] ++ if kind.hasNode then ["node"] else []

/-- The values of parameters, and the named values that are left over. A parameter given twice and
a missing one are refused. -/
def bind : List (String × Bool) → List Value → List (String × Value) →
    Option (List Value × List (String × Value))
  | [], [], named => some ([], named)
  | [], _ :: _, _ => none
  | (name, _) :: rest, value :: positional, named =>
    if named.any fun pair => pair.1 == name then none
    else (bind rest positional named).map fun (values, extra) => (value :: values, extra)
  | (name, required) :: rest, [], named =>
    match named.find? fun pair => pair.1 == name with
    | some pair =>
      (bind rest [] (named.filter fun other => other.1 != name)).map fun (values, extra) =>
        (pair.2 :: values, extra)
    | none =>
      if required then none
      else (bind rest [] named).map fun (values, extra) => (.null :: values, extra)

/-- An accepted call: message and detail of the error, and what it writes to its context. -/
structure Accepted where
  message : Value
  detail : Value
  writes : List (String × Value)

/-- The additional values, then the location if there is a node and no location was given. -/
def withLocation (range : Option SourceRange) (extra : List (String × Value)) :
    List (String × Value) :=
  match range with
  | some range =>
    if extra.any fun pair => pair.1 == "location" then extra
    else extra ++ [("location", .text range.text)]
  | none => extra

def accept? (call : ErrorCall) : Option Accepted := do
  let (values, extra) ← bind (parameters call.kind) call.positional call.named.entries
  if extra.any fun pair => pair.1 ∈ reserved call.kind then none
  else
    let value := values.headD .null
    match call.kind with
    | .general => some ⟨value, .null, extra⟩
    | .parsing =>
      let path := values.getD 1 .null
      some ⟨value, path, ("path", path) :: extra⟩
    | .unsupportedLanguage =>
      some ⟨.text (unsupportedLanguageText value), value, ("language", value) :: extra⟩
    | .diagnostic => some ⟨value, .null, withLocation call.range extra⟩
    | .typeResolution => some ⟨value, .null, withLocation call.range extra⟩
    | .propertyName =>
      some ⟨.text Property.Problem.propertyName.message, .null, withLocation call.range extra⟩
    | .staticFormat =>
      some ⟨.text Property.Problem.staticFormat.message, .null, withLocation call.range extra⟩
    | .staticEntry =>
      some ⟨.text Property.Problem.staticEntry.message, .null, withLocation call.range extra⟩

/-- A call without a value that is named like the context, which a context of the caller
replaces. -/
def withoutContext (call : ErrorCall) : ErrorCall :=
  { call with
    named := .ofPairs (call.named.entries.filter fun pair => pair.1 != "context") }

end ErrorCall

namespace ErrorDesk

/-- A desk with contexts of the caller. -/
def new (contexts : List (String × Context)) : ErrorDesk where
  contexts := contexts.map Prod.snd
  names := .ofPairs (contexts.zipIdx.map fun ((name, _), index) => (name, index))
  errors := .empty

def contextOf (desk : ErrorDesk) (error : DeskError) : Context :=
  desk.contexts.getD error.context .empty

def view (desk : ErrorDesk) (error : DeskError) : ErrorView :=
  ⟨error.kind, error.message.display, desk.contextOf error, error.range, none⟩

/-- Writes pairs to the context at a position. -/
def write (desk : ErrorDesk) (context : Nat) (pairs : List (String × Value)) : ErrorDesk :=
  { desk with contexts := desk.contexts.modify context (·.insertAll pairs) }

/-- Makes an error under a name, with the named context of the caller or a new one. None if the
call is refused or the caller has no such context. -/
def make? (desk : ErrorDesk) (name : String) (call : ErrorCall) (context : Option String) :
    Option ErrorDesk := do
  let accepted ← (if context.isSome then call.withoutContext else call).accept?
  let (desk, position) ← match context with
    | some shared => (desk.names.get? shared).map (desk, ·)
    | none =>
      some ({ desk with contexts := desk.contexts ++ [.empty] }, desk.contexts.length)
  let error : DeskError := ⟨call.kind, accepted.message, accepted.detail, call.range, position⟩
  some { desk.write position accepted.writes with errors := desk.errors.insert name error }

/-- Writes one more value to the context of an error. -/
def addContext (desk : ErrorDesk) (error : DeskError) (key : String) (value : Value) :
    ErrorDesk :=
  desk.write error.context [(key, value)]

end ErrorDesk

/-- The diagnostic that reports an error about a node. -/
def DeskError.diagnostic? (error : DeskError) (className path : Option String) :
    Option Diagnostic :=
  if error.kind.hasNode then
    some ⟨.error, error.message.display, error.range, className, path⟩
  else none

end ReactiveProps.Analysis
