import Mathlib.Data.List.Basic
import Mathlib.Data.List.Forall2
import Mathlib.Data.List.Induction
import ReactiveProps.Collector

/-!
# Runs of a collector

A collector only grows: whatever is asked of it, each call that succeeds puts one diagnostic at the
end, with the path that the collector has at that moment unless the diagnostic has one of its own. It
makes no difference that callers may hold the objects that a collector holds.
-/
namespace ReactiveProps.Collector

/-- What can be asked of a collector. The diagnostics passed in are of type `δ`. -/
inductive Call (δ : Type)
  | add (diagnostic : δ)
  | report (severity : Value) (message : String) (range : Option SourceRange)
      (className : Option String)
  | error (message : String) (range : Option SourceRange) (className : Option String)
  | warning (message : String) (range : Option SourceRange) (className : Option String)
  | setPath (path : Option String)

/-- The collector after a call. A report with a value that is no severity is refused. -/
def perform (collector : Collector) : Call Diagnostic → Except String Collector
  | .add diagnostic => .ok (collector.add diagnostic)
  | .report severity message range className =>
    (Severity.ofValue severity).map fun severity =>
      collector.report severity message range className
  | .error message range className => .ok (collector.report .error message range className)
  | .warning message range className => .ok (collector.report .warning message range className)
  | .setPath path => .ok (collector.setPath path)

/-- A call that is refused changes nothing. -/
def step (collector : Collector) (call : Call Diagnostic) : Collector :=
  (collector.perform call).toOption.getD collector

def after (collector : Collector) (calls : List (Call Diagnostic)) : Collector :=
  calls.foldl step collector

namespace Call

def brings? : Call Diagnostic → Option Diagnostic
  | add diagnostic => some diagnostic
  | report severity message range className =>
    (Severity.ofValue severity).toOption.map fun severity =>
      ⟨severity, message, range, className, none⟩
  | error message range className => some ⟨.error, message, range, className, none⟩
  | warning message range className => some ⟨.warning, message, range, className, none⟩
  | setPath _ => none

def assigns? {δ : Type} : Call δ → Option (Option String)
  | setPath path => some path
  | _ => none

def entry? (path : Option String) (call : Call Diagnostic) : Option Diagnostic :=
  call.brings?.map fun diagnostic => { diagnostic with path := diagnostic.path.or path }

end Call

def pathAfter (path : Option String) (calls : List (Call Diagnostic)) : Option String :=
  (calls.reverse.findSome? Call.assigns?).getD path

theorem path_step (collector : Collector) (call : Call Diagnostic) :
    (collector.step call).path = call.assigns?.getD collector.path := by
  cases call with
  | report severity message range className =>
    cases known : Severity.ofValue severity <;>
      simp [step, perform, known, Call.assigns?, Except.map, Except.toOption, Collector.report]
  | _ => rfl

theorem diagnostics_step (collector : Collector) (call : Call Diagnostic) :
    (collector.step call).diagnostics =
      collector.diagnostics ++ (call.entry? collector.path).toList := by
  cases call with
  | report severity message range className =>
    cases known : Severity.ofValue severity <;>
      simp [step, perform, known, Call.entry?, Call.brings?, Except.map, Except.toOption,
        Collector.report, made]
  | setPath path => exact (List.append_nil _).symm
  | _ =>
    simp [step, perform, Call.entry?, Call.brings?, Except.toOption, Collector.add, located,
      Collector.report, made]

/-- Only a call that brings nothing and assigns nothing is refused. -/
theorem perform_eq_error_iff (collector : Collector) (call : Call Diagnostic) :
    (∃ message, collector.perform call = .error message) ↔
      call.brings? = none ∧ call.assigns? = none := by
  cases call with
  | report severity message range className =>
    cases known : Severity.ofValue severity <;>
      simp [perform, known, Call.brings?, Call.assigns?, Except.map, Except.toOption]
  | _ => simp [perform, Call.brings?, Call.assigns?]

section Run

variable (path : Option String) (calls : List (Call Diagnostic))

theorem after_append (collector : Collector) (more : List (Call Diagnostic)) :
    collector.after (calls ++ more) = (collector.after calls).after more :=
  List.foldl_append

theorem after_snoc (collector : Collector) (call : Call Diagnostic) :
    collector.after (calls ++ [call]) = (collector.after calls).step call := by
  simp [after]

theorem path_after : ((new path).after calls).path = pathAfter path calls := by
  induction calls using List.reverseRecOn with
  | nil => rfl
  | append_singleton calls call ih =>
    rw [after_snoc, path_step, ih]
    cases assigned : call.assigns? <;> simp [pathAfter, assigned]

/-- Every call adds what it brings, with the path of that moment. -/
theorem diagnostics_after :
    ((new path).after calls).diagnostics =
      (List.range calls.length).filterMap fun i =>
        calls[i]?.bind fun call => call.entry? (pathAfter path (calls.take i)) := by
  induction calls using List.reverseRecOn with
  | nil => rfl
  | append_singleton calls call ih =>
    rw [after_snoc, diagnostics_step, path_after, ih, List.length_append, List.length_singleton,
      List.range_succ, List.filterMap_append]
    congr 1
    · refine List.filterMap_congr fun i listed => ?_
      have below : i < calls.length := List.mem_range.mp listed
      rw [List.getElem?_append_left below, List.take_append_of_le_length (Nat.le_of_lt below)]
    · cases added : call.entry? (pathAfter path calls) <;> simp [added]

/-- Nothing that is collected changes later, is removed or moves. -/
theorem prefix_after (collector : Collector) :
    collector.diagnostics <+: (collector.after calls).diagnostics := by
  induction calls using List.reverseRecOn with
  | nil => exact List.prefix_rfl
  | append_singleton calls call ih =>
    rw [after_snoc, diagnostics_step]
    exact ih.trans (List.prefix_append _ _)

theorem size_after :
    ((new path).after calls).size = calls.countP fun call => call.brings?.isSome := by
  induction calls using List.reverseRecOn with
  | nil => rfl
  | append_singleton calls call ih =>
    unfold size at ih ⊢
    rw [after_snoc, diagnostics_step, List.length_append, ih, List.countP_append]
    cases brought : call.brings? <;> simp [Call.entry?, brought]

theorem hasErrors_after_iff :
    ((new path).after calls).hasErrors = true ↔
      ∃ call ∈ calls, ∃ diagnostic, call.brings? = some diagnostic ∧
        diagnostic.severity = .error := by
  induction calls using List.reverseRecOn with
  | nil => simp [after, hasErrors, new]
  | append_singleton calls call ih =>
    unfold hasErrors at ih ⊢
    rw [after_snoc, diagnostics_step, List.any_append, Bool.or_eq_true, ih]
    cases brought : call.brings? <;> simp [Call.entry?, brought, or_and_right, exists_or]

end Run

/-- Callers and a collector may hold the same objects, which are known by their positions. -/
structure Shared where
  objects : List Diagnostic
  path : Option String
  held : List Nat

namespace Shared

def new (path : Option String) (objects : List Diagnostic) : Shared := ⟨objects, path, []⟩

def collector (shared : Shared) : Collector :=
  ⟨shared.path, shared.held.filterMap fun position => shared.objects[position]?⟩

def keep (shared : Shared) (diagnostic : Diagnostic) : Shared :=
  { shared with
    objects := shared.objects ++ [diagnostic]
    held := shared.held ++ [shared.objects.length] }

/-- Holds a copy with the path of the collector if the object has none and the collector has one,
and otherwise the object itself. -/
def add (shared : Shared) (position : Nat) : Shared :=
  match shared.objects[position]? with
  | some object =>
    if object.path = none ∧ shared.path ≠ none then
      shared.keep { object with path := shared.path }
    else { shared with held := shared.held ++ [position] }
  | none => shared

def report (shared : Shared) (severity : Severity) (message : String)
    (range : Option SourceRange) (className : Option String) : Shared :=
  shared.keep ⟨severity, message, range, className, shared.path⟩

def step (shared : Shared) : Call Nat → Shared
  | .add position => shared.add position
  | .report severity message range className =>
    match Severity.ofValue severity with
    | .ok severity => shared.report severity message range className
    | .error _ => shared
  | .error message range className => shared.report .error message range className
  | .warning message range className => shared.report .warning message range className
  | .setPath path => { shared with path }

def after (shared : Shared) (calls : List (Call Nat)) : Shared := calls.foldl step shared

theorem after_append (shared : Shared) (calls more : List (Call Nat)) :
    shared.after (calls ++ more) = (shared.after calls).after more :=
  List.foldl_append

end Shared

def Call.resolve? (objects : List Diagnostic) : Call Nat → Option (Call Diagnostic)
  | .add position => objects[position]?.map .add
  | .report severity message range className => some (.report severity message range className)
  | .error message range className => some (.error message range className)
  | .warning message range className => some (.warning message range className)
  | .setPath path => some (.setPath path)

namespace Shared

def resolved (shared : Shared) : List (Call Nat) → List (Call Diagnostic)
  | [] => []
  | call :: calls => (call.resolve? shared.objects).toList ++ (shared.step call).resolved calls

def Held (shared : Shared) : Prop := ∀ position ∈ shared.held, position < shared.objects.length

/-- A step keeps a new object, holds one that there is, or holds nothing more. -/
theorem step_cases (shared : Shared) (call : Call Nat) :
    (∃ entry, shared.step call = shared.keep entry ∧
      (call.resolve? shared.objects).bind (Call.entry? shared.path) = some entry ∧
      call.assigns? = none) ∨
    (∃ position entry, shared.step call = { shared with held := shared.held ++ [position] } ∧
      shared.objects[position]? = some entry ∧
      (call.resolve? shared.objects).bind (Call.entry? shared.path) = some entry ∧
      call.assigns? = none) ∨
    (shared.step call = { shared with path := call.assigns?.getD shared.path } ∧
      (call.resolve? shared.objects).bind (Call.entry? shared.path) = none) := by
  cases call with
  | add position =>
    cases found : shared.objects[position]? with
    | none => exact .inr (.inr (by simp [step, add, found, Call.resolve?, Call.assigns?]))
    | some object =>
      by_cases given : object.path = none ∧ shared.path ≠ none
      · refine .inl ⟨{ object with path := shared.path }, ?_⟩
        simp [step, add, found, given, Call.resolve?, Call.entry?, Call.brings?, Call.assigns?]
      · have own : object.path.or shared.path = object.path := by
          cases path : object.path <;> simp_all
        refine .inr (.inl ⟨position, object, ?_⟩)
        simp [step, add, found, given, Call.resolve?, Call.entry?, Call.brings?, Call.assigns?, own]
  | report severity message range className =>
    cases known : Severity.ofValue severity with
    | error refusal =>
      refine .inr (.inr ?_)
      simp [step, known, Call.resolve?, Call.entry?, Call.brings?, Call.assigns?, Except.toOption]
    | ok severity =>
      refine .inl ⟨⟨severity, message, range, className, shared.path⟩, ?_⟩
      simp [step, report, known, Call.resolve?, Call.entry?, Call.brings?, Call.assigns?,
        Except.toOption]
  | error message range className =>
    exact .inl ⟨⟨.error, message, range, className, shared.path⟩, rfl, rfl, rfl⟩
  | warning message range className =>
    exact .inl ⟨⟨.warning, message, range, className, shared.path⟩, rfl, rfl, rfl⟩
  | setPath path => exact .inr (.inr ⟨rfl, rfl⟩)

theorem held_step (shared : Shared) (held : shared.Held) (call : Call Nat) :
    (shared.step call).Held := by
  obtain ⟨entry, steps, -⟩ | ⟨position, entry, steps, found, -⟩ | ⟨steps, -⟩ :=
    step_cases shared call
  · intro position listed
    simp only [steps, keep, List.mem_append, List.mem_singleton, List.length_append,
      List.length_singleton] at listed ⊢
    rcases listed with listed | rfl
    · exact Nat.lt_succ_of_lt (held position listed)
    · exact Nat.lt_succ_self _
  · intro other listed
    simp only [steps, List.mem_append, List.mem_singleton] at listed ⊢
    rcases listed with listed | rfl
    · exact held other listed
    · exact (List.getElem?_eq_some_iff.mp found).1
  · rw [steps]
    exact held

/-- No call changes an object. -/
theorem objects_step (shared : Shared) (call : Call Nat) :
    shared.objects <+: (shared.step call).objects := by
  obtain ⟨entry, steps, -⟩ | ⟨position, entry, steps, -⟩ | ⟨steps, -⟩ := step_cases shared call
  · exact ⟨[entry], by rw [steps, keep]⟩
  · exact ⟨[], by rw [steps, List.append_nil]⟩
  · exact ⟨[], by rw [steps, List.append_nil]⟩

theorem objects_after (shared : Shared) (calls : List (Call Nat)) :
    shared.objects <+: (shared.after calls).objects := by
  induction calls generalizing shared with
  | nil => exact List.prefix_rfl
  | cons call calls ih => exact (objects_step shared call).trans (ih (shared.step call))

theorem collector_keep (shared : Shared) (held : shared.Held) (entry : Diagnostic) :
    (shared.keep entry).collector = ⟨shared.path, shared.collector.diagnostics ++ [entry]⟩ := by
  have same : shared.held.filterMap (fun position => (shared.objects ++ [entry])[position]?) =
      shared.held.filterMap fun position => shared.objects[position]? :=
    List.filterMap_congr fun position listed =>
      List.getElem?_append_left (held position listed)
  simp [keep, collector, List.filterMap_append, same]

theorem collector_step (shared : Shared) (held : shared.Held) (call : Call Nat) :
    (shared.step call).collector =
      ⟨call.assigns?.getD shared.path, shared.collector.diagnostics ++
        ((call.resolve? shared.objects).bind (Call.entry? shared.path)).toList⟩ := by
  obtain ⟨entry, steps, added, assigned⟩ | ⟨position, entry, steps, found, added, assigned⟩ |
    ⟨steps, added⟩ := step_cases shared call
  · simp [steps, added, assigned, collector_keep shared held]
  · simp [steps, added, assigned, collector, List.filterMap_append, found]
  · simp [steps, added, collector]

/-- A step shows as the same step of a collector that holds diagnostics rather than objects. -/
theorem collector_step_eq_after (shared : Shared) (held : shared.Held) (call : Call Nat) :
    (shared.step call).collector =
      shared.collector.after (call.resolve? shared.objects).toList := by
  rw [collector_step shared held]
  cases passed : call.resolve? shared.objects with
  | none =>
    have assigned : call.assigns? = none := by
      cases call <;> first | rfl | simp [Call.resolve?] at passed
    simp [assigned, Collector.after, collector]
  | some value =>
    have assigned : call.assigns? = value.assigns? := by
      cases call <;> simp [Call.resolve?] at passed
      case add position =>
        obtain ⟨object, -, rfl⟩ := passed
        rfl
      all_goals
        subst passed
        rfl
    have whole := diagnostics_step shared.collector value
    have moved := path_step shared.collector value
    simp only [Option.toList_some, Collector.after, List.foldl_cons, List.foldl_nil,
      Option.bind_some]
    rw [assigned]
    exact (congrArg₂ Collector.mk moved whole).symm

theorem collector_after (shared : Shared) (held : shared.Held) (calls : List (Call Nat)) :
    (shared.after calls).collector = shared.collector.after (shared.resolved calls) := by
  induction calls generalizing shared with
  | nil => rfl
  | cons call calls ih =>
    calc
      ((shared.step call).after calls).collector =
          (shared.step call).collector.after ((shared.step call).resolved calls) :=
        ih (shared.step call) (held_step shared held call)
      _ = shared.collector.after (shared.resolved (call :: calls)) := by
        rw [collector_step_eq_after shared held, resolved, Collector.after_append]

end Shared

theorem forall₂_logAll (collector : Collector) (logger : Option String) :
    List.Forall₂ (fun record diagnostic =>
        record.level = .ofSeverity diagnostic.severity ∧ record.message = diagnostic.text)
      (collector.logAll logger) collector.diagnostics := by
  rw [logAll, List.forall₂_map_left_iff, List.forall₂_same]
  exact fun diagnostic _ => ⟨rfl, rfl⟩

/-- Over any run a collector holds, in the order of the calls, one diagnostic for every call that
brings one and is not refused, with its own path or that of the collector at the moment. What it
holds remains as it is whatever is called later, its numbers and records are those of its
diagnostics, and the objects of the callers, which it may hold, never change. -/
theorem collects_calls_in_order (path : Option String) (calls later : List (Call Diagnostic))
    (objects : List Diagnostic) (shared more : List (Call Nat)) :
    ((new path).after calls).diagnostics =
        ((List.range calls.length).filterMap fun i =>
          calls[i]?.bind fun call => call.entry? (pathAfter path (calls.take i))) ∧
      (∀ collector call, (∃ message, perform collector call = .error message) ↔
        call.brings? = none ∧ call.assigns? = none) ∧
      ((new path).after calls).diagnostics <+: ((new path).after (calls ++ later)).diagnostics ∧
      ((new path).after calls).path = pathAfter path calls ∧
      ((new path).after calls).size = (calls.countP fun call => call.brings?.isSome) ∧
      (((new path).after calls).hasErrors = true ↔
        ∃ call ∈ calls, ∃ diagnostic, call.brings? = some diagnostic ∧
          diagnostic.severity = .error) ∧
      (∀ logger, List.Forall₂ (fun record diagnostic =>
          record.level = .ofSeverity diagnostic.severity ∧ record.message = diagnostic.text)
        (((new path).after calls).logAll logger) ((new path).after calls).diagnostics) ∧
      ((Shared.new path objects).after shared).collector =
        (new path).after ((Shared.new path objects).resolved shared) ∧
      ((Shared.new path objects).after shared).objects <+:
        ((Shared.new path objects).after (shared ++ more)).objects := by
  have grown : ((new path).after calls).diagnostics <+:
      ((new path).after (calls ++ later)).diagnostics := by
    rw [after_append]
    exact prefix_after later _
  have same : ((Shared.new path objects).after shared).collector =
      (new path).after ((Shared.new path objects).resolved shared) :=
    Shared.collector_after (Shared.new path objects) (by simp [Shared.Held, Shared.new]) shared
  have unchanged : ((Shared.new path objects).after shared).objects <+:
      ((Shared.new path objects).after (shared ++ more)).objects := by
    rw [Shared.after_append]
    exact Shared.objects_after _ more
  exact ⟨diagnostics_after path calls, perform_eq_error_iff, grown, path_after path calls,
    size_after path calls, hasErrors_after_iff path calls, forall₂_logAll _, same, unchanged⟩

example :
    ((new (some "a.ts")).after
        [.error "one" none none, .setPath (some "b.ts"),
          .add ⟨.info, "two", none, none, none⟩]).diagnostics.map (·.path) =
      [some "a.ts", some "b.ts"] := rfl

end ReactiveProps.Collector
