import ReactiveProps.Event

/-!
# Computations that report

A computation logs events and makes diagnostics as it goes, and ends in a result or an error. What
was reported before an error stays reported.
-/
namespace ReactiveProps

structure Report (ε α : Type) where
  events : List Event
  diagnostics : List Diagnostic
  outcome : Except ε α

namespace Report

variable {ε ε' α β : Type}

def ok (value : α) : Report ε α := ⟨[], [], .ok value⟩

def fail (error : ε) : Report ε α := ⟨[], [], .error error⟩

/-- Puts events and diagnostics in front of a report. -/
def after (events : List Event) (diagnostics : List Diagnostic) (report : Report ε α) :
    Report ε α :=
  ⟨events ++ report.events, diagnostics ++ report.diagnostics, report.outcome⟩

def andThen (report : Report ε α) (next : α → Report ε β) : Report ε β :=
  match report.outcome with
  | .ok value => (next value).after report.events report.diagnostics
  | .error error => ⟨report.events, report.diagnostics, .error error⟩

def mapError (f : ε → ε') (report : Report ε α) : Report ε' α :=
  ⟨report.events, report.diagnostics, report.outcome.mapError f⟩

end Report

end ReactiveProps
