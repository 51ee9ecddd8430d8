import Mathlib.Data.List.Basic
import ReactiveProps.Analysis.ErrorDesk
import ReactiveProps.Proofs.OrderedMap

/-!
# Errors interfere only through a shared context

Over any run that makes errors and writes to them, the context of an error is what it was at the
start and all that errors with the same context have written since. Errors share a context only if
the caller has given them the same one.
-/
namespace ReactiveProps.Analysis

theorem Context.appendTo_eq_iff (context : Context) (text : String) :
    context.appendTo text = text ↔ context.entries = [] := by
  unfold Context.appendTo
  cases context.entries with
  | nil => simp
  | cons entry rest =>
    refine iff_of_false (fun same => ?_) (List.cons_ne_nil _ _)
    have lengths := congrArg String.length same
    simp only [String.length_append] at lengths
    have opening : " [Context: ".length = 11 := rfl
    omega

namespace ErrorCall

/-- The additional named values: neither the context nor the value of a parameter. -/
def extra (call : ErrorCall) : List (String × Value) :=
  call.named.entries.filter fun pair =>
    pair.1 ≠ "context" ∧ pair.1 ∉ (parameters call.kind).map Prod.fst

def leading (detail : Value) : ErrorKind → List (String × Value)
  | .parsing => [("path", detail)]
  | .unsupportedLanguage => [("language", detail)]
  | _ => []

def writes (call : ErrorCall) (detail : Value) : List (String × Value) :=
  leading detail call.kind ++
    if call.kind.hasNode then withLocation call.range call.extra else call.extra

/-- The values left over are those that no parameter takes. -/
theorem extra_of_bind {parameters : List (String × Bool)} {positional : List Value}
    {named : List (String × Value)} {values : List Value} {extra : List (String × Value)}
    (bound : bind parameters positional named = some (values, extra)) :
    extra = named.filter fun pair => pair.1 ∉ parameters.map Prod.fst := by
  have absent {name : String} {named : List (String × Value)} (rest : List (String × Bool))
      (unnamed : ∀ pair ∈ named, pair.1 ≠ name) :
      named.filter (fun pair => pair.1 ∉ name :: rest.map Prod.fst) =
        named.filter fun pair => pair.1 ∉ rest.map Prod.fst := by
    refine List.filter_congr fun pair listed => ?_
    simp [unnamed pair listed]
  induction parameters generalizing positional named values extra with
  | nil =>
    cases positional with
    | nil =>
      rw [bind, Option.some.injEq, Prod.mk.injEq] at bound
      simp [← bound.2]
    | cons value positional => simp [bind] at bound
  | cons parameter rest ih =>
    obtain ⟨name, required⟩ := parameter
    rw [List.map_cons]
    cases positional with
    | cons value positional =>
      rw [bind, Option.ite_none_left_eq_some, Option.map_eq_some_iff] at bound
      obtain ⟨free, ⟨values, extra⟩, taken, ends⟩ := bound
      cases ends
      refine (ih taken).trans (absent rest fun pair listed same => free ?_).symm
      exact List.any_eq_true.mpr ⟨pair, listed, beq_iff_eq.mpr same⟩
    | nil =>
      rw [bind] at bound
      cases found : named.find? fun pair => pair.1 == name with
      | some pair =>
        rw [found, Option.map_eq_some_iff] at bound
        obtain ⟨⟨values, extra⟩, taken, ends⟩ := bound
        cases ends
        rw [ih taken, List.filter_filter]
        refine List.filter_congr fun other _ => ?_
        by_cases same : other.1 = name <;> simp [same]
      | none =>
        rw [found, Option.ite_none_left_eq_some, Option.map_eq_some_iff] at bound
        obtain ⟨-, ⟨values, extra⟩, taken, ends⟩ := bound
        cases ends
        refine (ih taken).trans (absent rest fun pair listed same => ?_).symm
        exact List.find?_eq_none.mp found pair listed (beq_iff_eq.mpr same)

/-- Detail and writes of an accepted call. -/
theorem writes_of_accept? {call : ErrorCall} {accepted : Accepted}
    (accepts : call.accept? = some accepted) : accepted.writes = call.writes accepted.detail := by
  obtain ⟨⟨values, extra⟩, bound, accepts⟩ := Option.bind_eq_some_iff.mp accepts
  obtain ⟨unreserved, accepts⟩ := Option.ite_none_left_eq_some.mp accepts
  have same : call.extra = extra := by
    rw [extra_of_bind bound, ErrorCall.extra]
    refine List.filter_congr fun pair listed => ?_
    by_cases taken : pair.1 ∈ (parameters call.kind).map Prod.fst
    · simp [taken]
    · have kept : pair ∈ extra := by
        rw [extra_of_bind bound]
        exact List.mem_filter.mpr ⟨listed, by simpa using taken⟩
      have free : pair.1 ≠ "context" := by
        intro named
        refine unreserved (List.any_eq_true.mpr ⟨pair, kept, ?_⟩)
        simp [named, reserved]
      simp [free]
  unfold writes
  cases kind : call.kind <;> rw [kind] at accepts <;> cases accepts <;>
    simp [leading, ErrorKind.hasNode, same]

/-- With a context of the caller in its place, a value that is named like the context is lost. -/
theorem writes_withoutContext (call : ErrorCall) (detail : Value) :
    call.withoutContext.writes detail = call.writes detail := by
  have extra : call.withoutContext.extra = call.extra := by
    have kept : ((call.named.entries.filter fun pair => pair.1 != "context").map Prod.fst).Nodup :=
      call.named.nodup_keys.sublist (List.filter_sublist.map Prod.fst)
    unfold ErrorCall.extra withoutContext
    rw [OrderedMap.entries_ofPairs kept, List.filter_filter]
    refine List.filter_congr fun pair _ => ?_
    by_cases named : pair.1 = "context" <;> simp [named]
  unfold writes
  rw [extra]
  rfl

end ErrorCall

namespace ErrorDesk

def contextAt (desk : ErrorDesk) (position : Nat) : Context :=
  desk.contexts.getD position .empty

def target? (desk : ErrorDesk) : Option String → Option Nat
  | some name => desk.names.get? name
  | none => some desk.contexts.length

/-- All that making an error does. -/
theorem make?_eq_some {desk next : ErrorDesk} {name : String} {call : ErrorCall}
    {context : Option String} (makes : desk.make? name call context = some next) :
    ∃ error : DeskError, next.errors.get? name = some error ∧
      desk.target? context = some error.context ∧ error.kind = call.kind ∧
      error.range = call.range ∧ next.names = desk.names ∧
      next.contexts =
        (desk.contexts ++ if context.isNone then [OrderedMap.empty] else []).modify error.context
          (·.insertAll (call.writes error.detail)) := by
  obtain ⟨accepted, accepts, makes⟩ := Option.bind_eq_some_iff.mp makes
  have writes := ErrorCall.writes_of_accept? accepts
  cases context with
  | none =>
    cases makes
    refine ⟨⟨call.kind, accepted.message, accepted.detail, call.range, desk.contexts.length⟩, ?_⟩
    rw [if_neg (by simp)] at writes
    simp [OrderedMap.get?_insert, target?, write, writes]
  | some shared =>
    obtain ⟨⟨same, position⟩, placed, makes⟩ := Option.bind_eq_some_iff.mp makes
    obtain ⟨position, found, ends⟩ := Option.map_eq_some_iff.mp placed
    cases ends
    cases makes
    refine ⟨⟨call.kind, accepted.message, accepted.detail, call.range, position⟩, ?_⟩
    rw [if_pos (by simp), ErrorCall.writes_withoutContext] at writes
    simp [OrderedMap.get?_insert, target?, write, writes, found]

/-- Writing to one context leaves the others as they are. -/
theorem contextAt_modify (contexts : List Context) {position : Nat}
    (inside : position < contexts.length) (pairs : List (String × Value)) (other : Nat) :
    (contexts.modify position (·.insertAll pairs)).getD other .empty =
      (contexts.getD other .empty).insertAll (if position = other then pairs else []) := by
  by_cases same : position = other
  · subst same
    simp [List.getD_eq_getElem?_getD, inside]
  · simp [List.getD_eq_getElem?_getD, same]

/-- A new context holds nothing, just as if it were not there. -/
theorem getD_append_empty (contexts : List Context) (position : Nat) :
    (contexts ++ [OrderedMap.empty]).getD position .empty = contexts.getD position .empty := by
  rw [List.getD_eq_getElem?_getD, List.getD_eq_getElem?_getD]
  rcases Nat.lt_trichotomy position contexts.length with below | same | above
  · rw [List.getElem?_append_left below]
  · simp [same]
  · have outside : (contexts ++ [OrderedMap.empty]).length ≤ position := by
      rw [List.length_append]
      exact above
    rw [List.getElem?_eq_none outside, List.getElem?_eq_none (Nat.le_of_lt above)]

/-- A name that the caller gave a context stands for that context. -/
theorem names_new {contexts : List (String × Context)} {name : String} {position : Nat}
    (known : (new contexts).names.get? name = some position) :
    ∃ context, contexts[position]? = some (name, context) := by
  have listed := mem_of_lastValue? ((OrderedMap.get?_ofPairs _ _).symm.trans known)
  obtain ⟨⟨⟨given, context⟩, index⟩, listed, ends⟩ := List.mem_map.mp listed
  cases ends
  exact ⟨context, List.mem_zipIdx_iff_getElem?.mp listed⟩

theorem contextAt_new (contexts : List (String × Context)) (position : Nat) :
    (new contexts).contextAt position = (contexts[position]?.map Prod.snd).getD .empty := by
  simp [contextAt, new, List.getD_eq_getElem?_getD]

end ErrorDesk

/-- What callers do: they make errors, and they write to the errors that they have made. -/
inductive DeskStep
  | make (name : String) (call : ErrorCall) (context : Option String)
  | extend (index : Nat) (key : String) (value : Value)

/-- An error and the name of the context that the caller gave it, if any. -/
structure Made where
  error : DeskError
  given : Option String

/-- A desk and all errors made so far, also those whose names others have taken since. -/
structure DeskRun where
  desk : ErrorDesk
  made : List Made

namespace DeskRun

def start (contexts : List (String × Context)) : DeskRun := ⟨.new contexts, []⟩

def subject? (run : DeskRun) : DeskStep → Option Made
  | .make name call context =>
    (run.desk.make? name call context).bind fun desk =>
      (desk.errors.get? name).map (⟨·, context⟩)
  | .extend index _ _ => run.made[index]?

/-- A step that fails changes nothing. -/
def step (run : DeskRun) : DeskStep → DeskRun
  | .make name call context =>
    match run.desk.make? name call context with
    | some desk => ⟨desk, run.made ++ ((desk.errors.get? name).map (⟨·, context⟩)).toList⟩
    | none => run
  | .extend index key value =>
    match run.made[index]? with
    | some made => { run with desk := run.desk.addContext made.error key value }
    | none => run

def after (run : DeskRun) (steps : List DeskStep) : DeskRun := steps.foldl step run

end DeskRun

def DeskStep.writes (made : Made) : DeskStep → List (String × Value)
  | make _ call _ => call.writes made.error.detail
  | extend _ key value => [(key, value)]

namespace DeskRun

def written (run : DeskRun) (position : Nat) (step : DeskStep) : List (String × Value) :=
  match run.subject? step with
  | some made => if made.error.context = position then step.writes made else []
  | none => []

def writesTo (position : Nat) : DeskRun → List DeskStep → List (String × Value)
  | _, [] => []
  | run, step :: steps => run.written position step ++ writesTo position (run.step step) steps

/-- A step makes an error, writes to one, or changes nothing. -/
theorem step_cases (run : DeskRun) (step : DeskStep) :
    (∃ name call made, step = .make name call made.given ∧ run.subject? step = some made ∧
      (run.step step).made = run.made ++ [made] ∧
      run.desk.target? made.given = some made.error.context ∧
      (run.step step).desk.names = run.desk.names ∧
      (run.step step).desk.contexts =
        (run.desk.contexts ++ if made.given.isNone then [OrderedMap.empty] else []).modify
          made.error.context (·.insertAll (step.writes made))) ∨
    (∃ made ∈ run.made, run.subject? step = some made ∧ (run.step step).made = run.made ∧
      (run.step step).desk.names = run.desk.names ∧
      (run.step step).desk.contexts =
        run.desk.contexts.modify made.error.context (·.insertAll (step.writes made))) ∨
    (run.step step = run ∧ run.subject? step = none) := by
  cases step with
  | make name call context =>
    cases makes : run.desk.make? name call context with
    | none => exact .inr (.inr (by simp [DeskRun.step, subject?, makes]))
    | some next =>
      obtain ⟨error, listed, placed, -, -, names, contexts⟩ := ErrorDesk.make?_eq_some makes
      refine .inl ⟨name, call, ⟨error, context⟩, rfl, ?_⟩
      simp [DeskRun.step, subject?, makes, listed, placed, names, contexts, DeskStep.writes]
  | extend index key value =>
    cases found : run.made[index]? with
    | none => exact .inr (.inr (by simp [DeskRun.step, subject?, found]))
    | some made =>
      refine .inr (.inl ⟨made, List.mem_of_getElem? found, ?_⟩)
      simp [DeskRun.step, subject?, found, ErrorDesk.addContext, ErrorDesk.write, DeskStep.writes]

/-- What holds of every run from given contexts of the caller. -/
structure Sound (contexts : List (String × Context)) (run : DeskRun) : Prop where
  names : run.desk.names = (ErrorDesk.new contexts).names
  size : contexts.length ≤ run.desk.contexts.length
  bounded : ∀ made ∈ run.made, made.error.context < run.desk.contexts.length
  /-- A context that was given is the one that the caller knows by the name. -/
  named : ∀ made ∈ run.made, ∀ name, made.given = some name →
    (ErrorDesk.new contexts).names.get? name = some made.error.context
  own : ∀ made ∈ run.made, made.given = none → contexts.length ≤ made.error.context
  /-- A context of its own is newer than those of all errors made before. -/
  apart : run.made.Pairwise fun earlier later =>
    later.given = none → earlier.error.context < later.error.context

theorem sound_start (contexts : List (String × Context)) : (start contexts).Sound contexts where
  names := rfl
  size := by simp [start, ErrorDesk.new]
  bounded := by simp [start]
  named := by simp [start]
  own := by simp [start]
  apart := List.Pairwise.nil

variable {contexts : List (String × Context)} {run : DeskRun}

/-- The context of an error is there once the error is made. -/
theorem Sound.target_lt (sound : run.Sound contexts) {given : Option String} {position : Nat}
    (placed : run.desk.target? given = some position) :
    position <
      (run.desk.contexts ++ if given.isNone then [OrderedMap.empty] else []).length := by
  cases given with
  | none =>
    cases placed
    simp
  | some name =>
    rw [ErrorDesk.target?, sound.names] at placed
    obtain ⟨context, listed⟩ := ErrorDesk.names_new placed
    have inside : position < contexts.length := (List.getElem?_eq_some_iff.mp listed).1
    simpa using Nat.lt_of_lt_of_le inside sound.size

section Next

variable {next : DeskRun} (sound : run.Sound contexts)
  (names : next.desk.names = run.desk.names)

include sound names

theorem Sound.write (size : next.desk.contexts.length = run.desk.contexts.length)
    (same : next.made = run.made) : next.Sound contexts where
  names := names.trans sound.names
  size := size ▸ sound.size
  bounded := by
    rw [same, size]
    exact sound.bounded
  named := same ▸ sound.named
  own := same ▸ sound.own
  apart := same ▸ sound.apart

/-- One more error has a context of the caller or one that is newer than all others. -/
theorem Sound.make {made : Made} (placed : run.desk.target? made.given = some made.error.context)
    (size : next.desk.contexts.length =
      (run.desk.contexts ++ if made.given.isNone then [OrderedMap.empty] else []).length)
    (grown : next.made = run.made ++ [made]) : next.Sound contexts := by
  have inside := sound.target_lt placed
  have longer : run.desk.contexts.length ≤ next.desk.contexts.length := by
    rw [size, List.length_append]
    exact Nat.le_add_right _ _
  have new (given : made.given = none) : made.error.context = run.desk.contexts.length := by
    rw [given] at placed
    exact (Option.some.inj placed).symm
  refine ⟨names.trans sound.names, Nat.le_trans sound.size longer, ?_, ?_, ?_, ?_⟩
  · rw [grown, List.forall_mem_append, List.forall_mem_singleton, size]
    exact ⟨fun made listed => Nat.lt_of_lt_of_le (sound.bounded made listed) (size ▸ longer),
      inside⟩
  · rw [grown, List.forall_mem_append, List.forall_mem_singleton]
    refine ⟨sound.named, fun name given => ?_⟩
    rwa [given, ErrorDesk.target?, sound.names] at placed
  · rw [grown, List.forall_mem_append, List.forall_mem_singleton]
    refine ⟨sound.own, fun given => ?_⟩
    rw [new given]
    exact sound.size
  · rw [grown, List.pairwise_append]
    refine ⟨sound.apart, List.pairwise_singleton _ _, fun earlier listed later last given => ?_⟩
    rw [List.mem_singleton.mp last] at given ⊢
    rw [new given]
    exact sound.bounded earlier listed

end Next

theorem Sound.step (sound : run.Sound contexts) (step : DeskStep) :
    (run.step step).Sound contexts := by
  obtain ⟨name, call, made, -, -, grown, placed, names, modified⟩ |
    ⟨made, -, -, same, names, modified⟩ | ⟨same, -⟩ := step_cases run step
  · exact sound.make names placed (by rw [modified, List.length_modify]) grown
  · exact sound.write names (by rw [modified, List.length_modify]) same
  · rw [same]
    exact sound

/-- A step adds to each context what it writes there. -/
theorem Sound.contextAt_step (sound : run.Sound contexts) (step : DeskStep) (position : Nat) :
    (run.step step).desk.contextAt position =
      (run.desk.contextAt position).insertAll (run.written position step) := by
  unfold ErrorDesk.contextAt written
  obtain ⟨name, call, made, -, subject, -, placed, -, modified⟩ |
    ⟨made, listed, subject, -, -, modified⟩ | ⟨same, subject⟩ := step_cases run step
  · have before : (run.desk.contexts ++
        if made.given.isNone then [OrderedMap.empty] else []).getD position .empty =
          run.desk.contexts.getD position .empty := by
      cases made.given with
      | none => exact ErrorDesk.getD_append_empty run.desk.contexts position
      | some name => simp
    rw [modified, subject, ErrorDesk.contextAt_modify _ (sound.target_lt placed), before]
  · rw [modified, subject, ErrorDesk.contextAt_modify _ (sound.bounded made listed)]
  · rw [same, subject]
    rfl

theorem Sound.after (sound : run.Sound contexts) (steps : List DeskStep) :
    (run.after steps).Sound contexts := by
  induction steps generalizing run with
  | nil => exact sound
  | cons step steps ih => exact ih (sound.step step)

theorem Sound.contextAt_after (sound : run.Sound contexts) (steps : List DeskStep)
    (position : Nat) :
    (run.after steps).desk.contextAt position =
      (run.desk.contextAt position).insertAll (run.writesTo position steps) := by
  induction steps generalizing run with
  | nil => rfl
  | cons step steps ih =>
    calc
      ((run.step step).after steps).desk.contextAt position =
          ((run.step step).desk.contextAt position).insertAll
            ((run.step step).writesTo position steps) := ih (sound.step step)
      _ = (run.desk.contextAt position).insertAll (run.writesTo position (step :: steps)) := by
        rw [sound.contextAt_step, ← OrderedMap.insertAll_append, writesTo]

theorem Sound.given (sound : run.Sound contexts) {made : Made} (listed : made ∈ run.made)
    {name : String} (given : made.given = some name) :
    ∃ context, contexts[made.error.context]? = some (name, context) :=
  ErrorDesk.names_new (sound.named made listed name given)

/-- Two errors share a context just if the caller gave both the same one. -/
theorem Sound.shared_iff_of_lt (sound : run.Sound contexts) {earlier later : Nat}
    (before : earlier < later) {first second : Made} (found : run.made[earlier]? = some first)
    (next : run.made[later]? = some second) :
    first.error.context = second.error.context ↔
      ∃ name, first.given = some name ∧ second.given = some name := by
  have listed : first ∈ run.made := List.mem_of_getElem? found
  have listed' : second ∈ run.made := List.mem_of_getElem? next
  constructor
  · intro same
    cases given' : second.given with
    | none =>
      obtain ⟨inside, rfl⟩ := List.getElem?_eq_some_iff.mp found
      obtain ⟨inside', rfl⟩ := List.getElem?_eq_some_iff.mp next
      have newer := List.pairwise_iff_getElem.mp sound.apart earlier later inside inside' before
      exact absurd same (Nat.ne_of_lt (newer given'))
    | some name =>
      obtain ⟨context', known'⟩ := sound.given listed' given'
      cases given : first.given with
      | none =>
        have inside : second.error.context < contexts.length :=
          (List.getElem?_eq_some_iff.mp known').1
        exact absurd (same ▸ inside) (Nat.not_lt.mpr (sound.own first listed given))
      | some other =>
        obtain ⟨context, known⟩ := sound.given listed given
        rw [same, known', Option.some.injEq, Prod.mk.injEq] at known
        exact ⟨name, congrArg some known.1.symm, rfl⟩
  · rintro ⟨name, given, given'⟩
    have known := sound.named first listed name given
    rw [sound.named second listed' name given', Option.some.injEq] at known
    exact known.symm

theorem Sound.shared_iff (sound : run.Sound contexts) {position other : Nat}
    (apart : position ≠ other) {first second : Made} (found : run.made[position]? = some first)
    (found' : run.made[other]? = some second) :
    first.error.context = second.error.context ↔
      ∃ name, first.given = some name ∧ second.given = some name := by
  rcases Nat.lt_or_gt_of_ne apart with before | before
  · exact sound.shared_iff_of_lt before found found'
  · rw [eq_comm, sound.shared_iff_of_lt before found' found]
    exact exists_congr fun name => and_comm

theorem made_step (run : DeskRun) (step : DeskStep) : run.made <+: (run.step step).made := by
  obtain ⟨name, call, made, -, -, grown, -⟩ | ⟨made, -, -, same, -⟩ | ⟨same, -⟩ :=
    step_cases run step
  · exact ⟨[made], grown.symm⟩
  · exact ⟨[], by rw [same, List.append_nil]⟩
  · exact ⟨[], by rw [same, List.append_nil]⟩

/-- What the context of an error holds at the start, which is nothing if it is not there yet. -/
def initial (contexts : List (String × Context)) (made : Made) : Context :=
  (contexts[made.error.context]?.map Prod.snd).getD .empty

/-- If a step changes the context of an error, it is about an error with the same context. -/
theorem Sound.subject_of_changed (sound : run.Sound contexts) {step : DeskStep}
    {error : DeskError}
    (changed : (run.step step).desk.contextOf error ≠ run.desk.contextOf error) :
    ∃ other, run.subject? step = some other ∧ other.error.context = error.context := by
  have adds := sound.contextAt_step step error.context
  cases subject : run.subject? step with
  | none =>
    refine absurd (adds.trans ?_) changed
    rw [written, subject]
    rfl
  | some other =>
    refine ⟨other, rfl, by_contra fun apart => changed (adds.trans ?_)⟩
    rw [written, subject]
    simp only [if_neg apart]
    rfl

end DeskRun

/-- The location stands last in what is written for an error at a node, unless one was given. -/
theorem ErrorCall.getLast?_writes {call : ErrorCall} (node : call.kind.hasNode = true)
    {range : SourceRange} (located : call.range = some range)
    (free : call.named.get? "location" = none) (detail : Value) :
    (call.writes detail).getLast? = some ("location", .text range.text) := by
  have absent : call.extra.any (fun pair => pair.1 == "location") = false := by
    rw [List.any_eq_false]
    intro pair listed named
    have inside : (pair.1, pair.2) ∈ call.named.entries := List.mem_of_mem_filter listed
    rw [← beq_iff_eq.mp named, OrderedMap.get?_of_mem inside] at free
    cases free
  simp [writes, node, located, withLocation, absent]

theorem ErrorView.message_eq_iff (view : ErrorView) :
    view.message = view.text ↔ view.context.entries = [] :=
  view.context.appendTo_eq_iff view.text

def sharedContexts : List (String × Context) := [("shared", .ofPairs [("step", .int 1)])]

def failureAtNode : ErrorCall :=
  ⟨.diagnostic, some ⟨1, some 0, 1, some 5, none⟩, [.text "unreadable"], .empty⟩

/-- Two errors with the context of the caller, the second at a node, and one with its own. -/
def sharingSteps : List DeskStep := [
  .make "first" ⟨.general, none, [.text "one"], .ofPairs [("step", .int 2)]⟩ (some "shared"),
  .make "second" failureAtNode (some "shared"),
  .make "third" ⟨.general, none, [.text "three"], .empty⟩ none]

end ReactiveProps.Analysis
