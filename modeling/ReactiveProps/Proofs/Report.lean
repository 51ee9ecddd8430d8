import ReactiveProps.Report

/-!
# Outcomes of computations that report

The outcome of a computation does not depend on what its parts report, and steps taken one after the
other on the elements of a list end in the error of the first step that fails, if one fails.
-/
namespace ReactiveProps

variable {ε ε' α β γ κ : Type}

def errorOf? : Except ε α → Option ε
  | .error error => some error
  | .ok _ => none

@[simp] theorem errorOf?_ok (value : α) : errorOf? (.ok value : Except ε α) = none := rfl

@[simp] theorem errorOf?_error (error : ε) :
    errorOf? (.error error : Except ε α) = some error := rfl

theorem errorOf?_eq_some_iff (outcome : Except ε α) (error : ε) :
    errorOf? outcome = some error ↔ outcome = .error error := by
  cases outcome <;> simp

theorem errorOf?_eq_none_iff (outcome : Except ε α) :
    errorOf? outcome = none ↔ ∃ value, outcome = .ok value := by
  cases outcome <;> simp

@[simp] theorem mapError_ok (f : ε → ε') (value : α) :
    (.ok value : Except ε α).mapError f = .ok value := rfl

@[simp] theorem mapError_error (f : ε → ε') (error : ε) :
    (.error error : Except ε α).mapError f = .error (f error) := rfl

theorem toOption_eq_some_iff {outcome : Except ε α} {value : α} :
    outcome.toOption = some value ↔ outcome = .ok value := by
  cases outcome <;> simp [Except.toOption]

@[simp] theorem errorOf?_map (f : α → β) (outcome : Except ε α) :
    errorOf? (outcome.map f) = errorOf? outcome := by
  cases outcome <;> rfl

theorem exists_of_map_eq_ok {f : α → β} {outcome : Except ε α} {result : β}
    (done : outcome.map f = .ok result) : ∃ value, outcome = .ok value ∧ f value = result := by
  cases outcome with
  | error error => cases done
  | ok value =>
    cases done
    exact ⟨value, rfl, rfl⟩

/-- Steps taken one after the other fail as the first of them that fails. -/
theorem errorOf?_mapM (f : α → Except ε β) (xs : List α) :
    errorOf? (xs.mapM f) = xs.findSome? fun x => errorOf? (f x) := by
  induction xs with
  | nil => rfl
  | cons x rest ih =>
    rw [List.mapM_cons, List.findSome?_cons, ← ih]
    cases f x with
    | error error => rfl
    | ok value =>
      rw [errorOf?_ok]
      cases rest.mapM f <;> rfl

namespace Report

@[simp] theorem outcome_ok (value : α) : (ok value : Report ε α).outcome = .ok value := rfl

@[simp] theorem outcome_fail (error : ε) : (fail error : Report ε α).outcome = .error error := rfl

@[simp] theorem outcome_after (events : List Event) (diagnostics : List Diagnostic)
    (report : Report ε α) : (report.after events diagnostics).outcome = report.outcome := rfl

@[simp] theorem diagnostics_after (events : List Event) (diagnostics : List Diagnostic)
    (report : Report ε α) :
    (report.after events diagnostics).diagnostics = diagnostics ++ report.diagnostics := rfl

@[simp] theorem outcome_mapError (f : ε → ε') (report : Report ε α) :
    (report.mapError f).outcome = report.outcome.mapError f := rfl

@[simp] theorem outcome_andThen (report : Report ε α) (next : α → Report ε β) :
    (report.andThen next).outcome = report.outcome.bind fun value => (next value).outcome := by
  unfold andThen
  cases report.outcome <;> rfl

theorem events_andThen (report : Report ε α) (next : α → Report ε β) :
    (report.andThen next).events =
      report.events ++ match report.outcome with
        | .ok value => (next value).events
        | .error _ => [] := by
  unfold andThen
  cases report.outcome <;> simp [after]

theorem diagnostics_andThen (report : Report ε α) (next : α → Report ε β) :
    (report.andThen next).diagnostics =
      report.diagnostics ++ match report.outcome with
        | .ok value => (next value).diagnostics
        | .error _ => [] := by
  unfold andThen
  cases report.outcome <;> simp

@[simp] theorem diagnostics_mapError (f : ε → ε') (report : Report ε α) :
    (report.mapError f).diagnostics = report.diagnostics := rfl

theorem diagnostics_andThen_of_silent {report : Report ε α} {next : α → Report ε β}
    (silent : ∀ value, (next value).diagnostics = []) :
    (report.andThen next).diagnostics = report.diagnostics := by
  rw [diagnostics_andThen]
  cases report.outcome <;> simp [silent]

theorem diagnostics_andThen_eq_nil {report : Report ε α} {next : α → Report ε β}
    (first : report.diagnostics = []) (silent : ∀ value, (next value).diagnostics = []) :
    (report.andThen next).diagnostics = [] := by
  rw [diagnostics_andThen_of_silent silent, first]

theorem andThen_of_ok {report : Report ε α} {value : α} (h : report.outcome = .ok value)
    (next : α → Report ε β) :
    report.andThen next = (next value).after report.events report.diagnostics := by
  simp [andThen, h]

theorem andThen_of_error {report : Report ε α} {error : ε} (h : report.outcome = .error error)
    (next : α → Report ε β) :
    report.andThen next = ⟨report.events, report.diagnostics, .error error⟩ := by
  simp [andThen, h]

end Report

end ReactiveProps
