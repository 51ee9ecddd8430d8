import ReactiveProps.OrderedMap
import ReactiveProps.Property.ClassError
import ReactiveProps.Value

/-!
# Errors as callers see them

An error shows its kind, its text and a context of named values, which its message lists.
-/
namespace ReactiveProps.Analysis

inductive ErrorKind
  | general
  | parsing
  | unsupportedLanguage
  | diagnostic
  | propertyName
  | staticFormat
  | staticEntry
  | typeResolution
  deriving DecidableEq, Repr

namespace ErrorKind

/-- Whether errors of the kind belong to a node. -/
def hasNode : ErrorKind → Bool
  | general => false
  | parsing => false
  | unsupportedLanguage => false
  | _ => true

def ofProblem : Property.Problem → ErrorKind
  | .propertyName => propertyName
  | .staticFormat => staticFormat
  | .staticEntry => staticEntry
  | .typeResolution _ => typeResolution
  | .reported _ => diagnostic

end ErrorKind

/-- What made the analysis raise an error of its own. -/
inductive Cause
  | resolver
  | encoding
  deriving DecidableEq, Repr

/-- Values by name, in the order in which the names were first written. -/
abbrev Context := OrderedMap String Value

/-- A text followed by the context, if there is any. -/
def Context.appendTo (context : Context) (text : String) : String :=
  match context.entries with
  | [] => text
  | entries =>
    text ++ " [Context: "
      ++ ", ".intercalate (entries.map fun (key, value) => key ++ "=" ++ value.display) ++ "]"

structure ErrorView where
  kind : ErrorKind
  text : String
  context : Context
  range : Option SourceRange
  cause : Option Cause

def ErrorView.message (view : ErrorView) : String := view.context.appendTo view.text

def unsupportedLanguageText (language : Value) : String :=
  "Unsupported language: '" ++ language.display ++ "'"

end ReactiveProps.Analysis
