import ReactiveProps.Proofs.Alignment
import ReactiveProps.Proofs.Strictness

/-!
# Log and diagnostics tell the same story

A lenient run logs one record for every diagnostic that it makes, in the same order, one record for
every element with the number of its properties, and a last one with the numbers of both. What a
resolver logs stands in between and is kept apart.
-/
namespace ReactiveProps

open SyntaxTree Typing Property

namespace Event

/-- Logged where a diagnostic is made. -/
def isFinding : Event → Bool
  | staticMemberIgnored _ => true
  | classSkipped _ _ => true
  | _ => false

def isExtraction : Event → Bool
  | propertiesExtracted _ => true
  | _ => false

def isAside (event : Event) : Bool := !event.isFinding && !event.isExtraction

theorem isFinding_of_isAside {event : Event} (aside : event.isAside = true) :
    event.isFinding = false ∧ event.isExtraction = false := by
  simpa [isAside] using aside

end Event

namespace LogRecord

def isFinding (record : LogRecord) : Bool :=
  record.level == .warning && record.logger == "litanalyzer.lit_element.members" ||
    record.level == .info && record.logger == "litanalyzer.analyzer"

def isExtraction (record : LogRecord) : Bool :=
  record.level == .debug && record.logger == "litanalyzer.lit_element.properties"

theorem isFinding_record (event : Event) : event.record.isFinding = event.isFinding := by
  cases event <;> simp [isFinding, Event.record, Event.level, Event.logger, Event.isFinding]

theorem isExtraction_record (event : Event) : event.record.isExtraction = event.isExtraction := by
  cases event <;>
    simp [isExtraction, Event.record, Event.level, Event.logger, Event.isExtraction]

/-- The lowest level leaves nothing out. -/
theorem atLeast_debug (records : List LogRecord) : atLeast Level.debug.rank records = records := by
  have all : ∀ record ∈ records, decide (Level.debug.rank ≤ record.level.rank) = true := by
    intro record _
    cases record.level <;> decide
  exact List.filter_eq_self.mpr all

end LogRecord

/-- An event is logged for a diagnostic: a warning for a warning, a notice for an error. -/
inductive LoggedFor : Event → Diagnostic → Prop
  | ignored (name : String) (range : Option SourceRange) (path : Option String) :
      LoggedFor (.staticMemberIgnored name)
        ⟨.warning, extraStaticMessage name, range, none, path⟩
  | skipped (name message : String) (range : Option SourceRange) (path : Option String) :
      LoggedFor (.classSkipped name message) ⟨.error, message, range, some name, path⟩

/-- The events were logged for these diagnostics and for maps of these sizes. -/
structure Tells (events : List Event) (diagnostics : List Diagnostic) (sizes : List Nat) :
    Prop where
  findings : List.Forall₂ LoggedFor (events.filter (·.isFinding)) diagnostics
  extractions : events.filter (·.isExtraction) = sizes.map .propertiesExtracted

namespace Tells

variable {events events' : List Event} {diagnostics diagnostics' : List Diagnostic}
  {sizes sizes' : List Nat}

theorem append (first : Tells events diagnostics sizes)
    (second : Tells events' diagnostics' sizes') :
    Tells (events ++ events') (diagnostics ++ diagnostics') (sizes ++ sizes') where
  findings := by
    rw [List.filter_append]
    exact List.rel_append first.findings second.findings
  extractions := by
    rw [List.filter_append, List.map_append, first.extractions, second.extractions]

theorem of_asides (asides : ∀ event ∈ events, event.isAside = true) : Tells events [] [] where
  findings := by
    have none : events.filter (·.isFinding) = [] := by
      rw [List.filter_eq_nil_iff]
      intro event listed
      simp [(Event.isFinding_of_isAside (asides event listed)).1]
    rw [none]
    exact .nil
  extractions := by
    rw [List.map_nil, List.filter_eq_nil_iff]
    intro event listed
    simp [(Event.isFinding_of_isAside (asides event listed)).2]

/-- Asides in front change nothing. -/
theorem after_asides (asides : ∀ event ∈ events', event.isAside = true)
    (told : Tells events diagnostics sizes) : Tells (events' ++ events) diagnostics sizes := by
  have both := (of_asides asides).append told
  simpa using both

/-- Asides at the end change nothing. -/
theorem before_asides (told : Tells events diagnostics sizes)
    (asides : ∀ event ∈ events', event.isAside = true) :
    Tells (events ++ events') diagnostics sizes := by
  have both := told.append (of_asides asides)
  simpa using both

end Tells

namespace Report

variable {ε α β : Type}

/-- A computation whose log is about other things than diagnostics and properties. -/
def LogsAsides (report : Report ε α) : Prop := ∀ event ∈ report.events, event.isAside = true

theorem LogsAsides.andThen {report : Report ε α} {next : α → Report ε β}
    (first : report.LogsAsides) (rest : ∀ value, (next value).LogsAsides) :
    (report.andThen next).LogsAsides := by
  intro event listed
  rw [events_andThen, List.mem_append] at listed
  rcases listed with before | later
  · exact first event before
  · cases ends : report.outcome with
    | error error => simp [ends] at later
    | ok value =>
      rw [ends] at later
      exact rest value event later

theorem logsAsides_ok (value : α) : (ok value : Report ε α).LogsAsides := nofun

theorem logsAsides_fail (error : ε) : (fail error : Report ε α).LogsAsides := nofun

def Recounts (sizes : α → List Nat) (report : Report ε α) : Prop :=
  Tells report.events report.diagnostics ((report.outcome.toOption.map sizes).getD [])

theorem LogsAsides.recounts {report : Report ε α} (asides : report.LogsAsides)
    (silent : report.diagnostics = []) : report.Recounts fun _ => [] := by
  have told := Tells.of_asides asides
  unfold Recounts
  rw [silent]
  cases report.outcome <;> exact told

/-- Only the last of several computations has anything to announce. -/
theorem Recounts.andThen {sizes : β → List Nat} {report : Report ε α} {next : α → Report ε β}
    (first : report.Recounts fun _ => []) (rest : ∀ value, (next value).Recounts sizes) :
    (report.andThen next).Recounts sizes := by
  unfold Recounts at first rest ⊢
  cases ends : report.outcome with
  | error error =>
    rw [ends] at first
    rw [andThen_of_error ends]
    exact first
  | ok value =>
    rw [ends] at first
    rw [andThen_of_ok ends]
    exact first.append (rest value)

end Report

namespace Typing

/-- What the resolver logs cannot be taken for what the analysis logs about its results. -/
def Resolver.Discreet (resolver : Resolver) : Prop :=
  ∀ source node, ∀ event ∈ (resolver source node).events, event.isAside = true

theorem discreet_syntactic : syntactic.Discreet := by
  intro source node event logged
  unfold syntactic at logged
  cases written : annotationOf? source node with
  | some text => simp [written] at logged
  | none =>
    simp only [written, List.mem_map] at logged
    obtain ⟨kind, -, rfl⟩ := logged
    rfl

theorem discreet_fixed (answer : FixedAnswer) : answer.resolver.Discreet := by
  intro source node event logged
  cases answer <;> simp [FixedAnswer.resolver] at logged

theorem Resolver.Discreet.onKinds {resolver : Resolver} (discreet : resolver.Discreet)
    (kinds : List Kind) : (resolver.onKinds kinds).Discreet := by
  intro source node event logged
  unfold Resolver.onKinds at logged
  split at logged
  · exact discreet source node event logged
  · exact discreet_syntactic source node event logged

def Resolver.silenced (resolver : Resolver) : Resolver := fun source node =>
  ⟨[], (resolver source node).outcome⟩

theorem Resolver.discreet_silenced (resolver : Resolver) : resolver.silenced.Discreet := by
  intro source node event logged
  cases logged

def Resolver.Says (resolver : Resolver) (source : Source) (event : Event) : Prop :=
  ∃ node, event ∈ (resolver source node).events

end Typing

/-! ### What the analysis of a class logs -/

namespace Property

section Extraction

variable {settings : Settings} {resolver : Resolver} {source : Source}

theorem logsAsides_propertyOptions {ε : Type} (decorator : Node) :
    (propertyOptions settings source decorator : Report ε _).LogsAsides := by
  intro event logged
  unfold propertyOptions at logged
  cases arguments : decoratorArguments source settings.propertyDecorator decorator with
  | nil => simp [arguments, Report.ok] at logged
  | cons argument rest =>
    by_cases literal : argument.kind = .object
    · simp [arguments, literal, Report.ok] at logged
    · simp only [arguments, literal, if_false, List.mem_singleton] at logged
      rw [logged]
      rfl

theorem logsAsides_addAssignments {ε : Type} (hints : OrderedMap String Node)
    (pairs : List (String × Node)) : (addAssignments hints pairs : Report ε _).LogsAsides := by
  induction pairs generalizing hints with
  | nil => exact Report.logsAsides_ok hints
  | cons pair rest ih =>
    intro event logged
    rw [addAssignments] at logged
    split at logged
    · exact ih hints event logged
    · simp only [Report.after, List.singleton_append, List.mem_cons] at logged
      rcases logged with rfl | later
      · rfl
      · exact ih _ event later

section Discreet

variable (discreet : resolver.Discreet)

include discreet

theorem logsAsides_resolveType (node : Node) : (resolveType resolver source node).LogsAsides :=
  discreet source node

theorem logsAsides_addDecorated (map : PropertyMap) (members : List DecoratedMember) :
    (addDecorated settings resolver source map members).LogsAsides := by
  induction members generalizing map with
  | nil => exact Report.logsAsides_ok map
  | cons found rest ih =>
    have options : (propertyOptions settings source found.decorator :
        Report ExtractionError _).LogsAsides := logsAsides_propertyOptions found.decorator
    have typed : (resolveType resolver source found.member).LogsAsides :=
      logsAsides_resolveType discreet found.member
    refine Report.LogsAsides.andThen ?_ fun property => ih _
    refine options.andThen fun options => typed.andThen fun type => ?_
    exact Report.logsAsides_ok _

theorem logsAsides_staticProperty (hints : OrderedMap String Node) (name : String)
    (options : Node) : (staticProperty resolver source hints name options).LogsAsides := by
  unfold staticProperty
  cases hints.get? name with
  | none => exact Report.logsAsides_ok _
  | some hint =>
    have typed : (resolveType resolver source hint).LogsAsides :=
      logsAsides_resolveType discreet hint
    exact typed.andThen fun type => Report.logsAsides_ok _

theorem logsAsides_addStatic (hints : OrderedMap String Node) (map : PropertyMap)
    (entries : List Node) : (addStatic resolver source hints map entries).LogsAsides := by
  induction entries generalizing map with
  | nil => exact Report.logsAsides_ok map
  | cons entry rest ih =>
    rw [addStatic]
    cases staticEntry source entry with
    | error error => exact Report.logsAsides_fail _
    | ok found => exact (logsAsides_staticProperty discreet hints _ _).andThen fun _ => ih _

theorem logsAsides_addStaticBlock (cls : Node) (classes : Classification) (map : PropertyMap) :
    (addStaticBlock resolver source cls classes map).LogsAsides := by
  unfold addStaticBlock
  cases classes.staticProperties with
  | none => exact Report.logsAsides_ok map
  | some member =>
    refine (logsAsides_addAssignments _ _).andThen fun hints => ?_
    cases staticObject member with
    | error error => exact Report.logsAsides_fail _
    | ok object => exact logsAsides_addStatic discreet hints map object.items

end Discreet

/-- Every warning of a classification is logged as it is made. -/
theorem recounts_classify (path : Option String) (cls : Node) :
    (classify settings source path cls).Recounts fun _ => [] := by
  have classified := classifyFrom_eq settings source path .empty cls.classMembers
  have told : ∀ surplus : List (String × Node),
      Tells (surplus.map fun extra => .staticMemberIgnored extra.1)
        (surplus.map (surplusWarning source path)) [] := by
    intro surplus
    induction surplus with
    | nil => exact .of_asides nofun
    | cons extra rest ih => exact ⟨.cons (.ignored extra.1 _ path) ih.findings, ih.extractions⟩
  unfold Report.Recounts
  rw [classify, classified]
  simp only
  split <;> exact told _

/-- The properties of a class are announced by their number, if there is no error. -/
theorem recounts_properties (discreet : resolver.Discreet) (path : Option String) (cls : Node) :
    (properties settings resolver source path cls).Recounts fun map => [map.size] := by
  have classified : ((classify settings source path cls).mapError
      ExtractionError.rejected).Recounts fun _ => [] := by
    have told : (classify settings source path cls).Recounts fun _ => [] :=
      recounts_classify path cls
    unfold Report.Recounts at told ⊢
    rw [Report.outcome_mapError]
    cases ends : (classify settings source path cls).outcome <;> rw [ends] at told <;> exact told
  have decorated (members : List DecoratedMember) :
      (addDecorated settings resolver source .empty members).Recounts fun _ => [] :=
    (logsAsides_addDecorated discreet .empty members).recounts
      (diagnostics_addDecorated settings resolver source _ _)
  have static (classes : Classification) (map : PropertyMap) :
      (addStaticBlock resolver source cls classes map).Recounts fun _ => [] :=
    (logsAsides_addStaticBlock discreet cls classes map).recounts
      (diagnostics_addStaticBlock resolver source _ _ _)
  refine classified.andThen fun classes => (decorated _).andThen fun map => ?_
  refine (static classes map).andThen fun complete => ⟨.nil, rfl⟩

end Extraction

end Property

/-! ### What a run logs -/

namespace Analysis

section Classes

variable {resolver : Resolver} (discreet : resolver.Discreet) (settings : Settings)
  (source : Source) (path : Option String) (definitions : OrderedMap String String)

include discreet

/-- A class that is skipped is logged with the error diagnostic about it. -/
theorem recounts_analyzeClass (cls : Site) :
    (analyzeClass ⟨resolver, false⟩ settings source path definitions cls).Recounts
      fun element => (element.map (·.properties.size)).toList := by
  have told : (properties settings resolver source path cls.node).Recounts fun map => [map.size] :=
    recounts_properties discreet path cls.node
  unfold Report.Recounts at told ⊢
  cases ends : (properties settings resolver source path cls.node).outcome with
  | ok map =>
    rw [ends] at told
    simp only [analyzeClass, ends]
    exact told
  | error error =>
    rw [ends] at told
    cases error with
    | aborted message =>
      simp only [analyzeClass, ends]
      exact told
    | rejected error =>
      simp only [analyzeClass, ends, Bool.false_eq_true, if_false]
      have skip : Tells [.classSkipped (shownName (Element.className? source cls)) error.message]
          [error.diagnostic source (some (shownName (Element.className? source cls))) path] [] :=
        ⟨.cons (.skipped _ _ _ _) .nil, rfl⟩
      exact told.append skip

theorem tells_analyzeClasses {classes : List Site} {elements : List ElementDeclaration}
    (returned : (analyzeClasses ⟨resolver, false⟩ settings source path definitions
      classes).outcome = .ok elements) :
    let report := analyzeClasses ⟨resolver, false⟩ settings source path definitions classes
    Tells report.events report.diagnostics (elements.map (·.properties.size)) := by
  induction classes generalizing elements with
  | nil =>
    cases returned
    exact .of_asides nofun
  | cons cls rest ih =>
    have told := recounts_analyzeClass discreet settings source path definitions cls
    unfold Report.Recounts at told
    simp only [analyzeClasses] at returned ⊢
    cases first : (analyzeClass ⟨resolver, false⟩ settings source path definitions cls).outcome with
    | error error =>
      rw [Report.andThen_of_error first] at returned
      cases returned
    | ok element =>
      rw [Report.andThen_of_ok first] at returned ⊢
      rw [first] at told
      cases others : (analyzeClasses ⟨resolver, false⟩ settings source path definitions
          rest).outcome with
      | error error =>
        rw [Report.andThen_of_error others] at returned
        cases returned
      | ok found =>
        rw [Report.andThen_of_ok others] at returned ⊢
        cases returned
        have both := told.append (ih others)
        cases element <;> simpa [Report.after, Report.ok, Except.toOption] using both

end Classes

end Analysis

/-! ### What a resolver logs in between -/

namespace Report

variable {ε ε' α β : Type} {said : Event → Prop}

/-- The same computation with more in its log: every further event is one of those said. -/
structure Overlaid (said : Event → Prop) (report plain : Report ε α) : Prop where
  outcome : report.outcome = plain.outcome
  diagnostics : report.diagnostics = plain.diagnostics
  events : Aligned Eq said report.events plain.events

theorem Overlaid.refl (report : Report ε α) : report.Overlaid said report :=
  ⟨rfl, rfl, .of_forall₂ (List.forall₂_refl _)⟩

theorem Overlaid.mapError {report plain : Report ε α} (overlaid : report.Overlaid said plain)
    (f : ε → ε') : (report.mapError f).Overlaid said (plain.mapError f) :=
  ⟨congrArg (Except.mapError f) overlaid.outcome, overlaid.diagnostics, overlaid.events⟩

theorem Overlaid.andThen {report plain : Report ε α} {next plainNext : α → Report ε β}
    (first : report.Overlaid said plain)
    (rest : ∀ value, (next value).Overlaid said (plainNext value)) :
    (report.andThen next).Overlaid said (plain.andThen plainNext) := by
  have same := first.outcome
  cases ends : report.outcome with
  | error error =>
    rw [ends] at same
    rw [andThen_of_error ends, andThen_of_error same.symm]
    exact ⟨rfl, first.diagnostics, first.events⟩
  | ok value =>
    rw [ends] at same
    rw [andThen_of_ok ends, andThen_of_ok same.symm]
    have later := rest value
    refine ⟨later.outcome, ?_, first.events.append later.events⟩
    rw [diagnostics_after, diagnostics_after, first.diagnostics, later.diagnostics]

end Report

namespace Property

variable (settings : Settings) (resolver : Resolver) (source : Source)

theorem overlaid_resolveType (node : Node) :
    (resolveType resolver source node).Overlaid (resolver.Says source)
      (resolveType resolver.silenced source node) :=
  ⟨rfl, rfl, .of_gaps fun _ logged => ⟨node, logged⟩⟩

theorem overlaid_addDecorated (map : PropertyMap) (members : List DecoratedMember) :
    (addDecorated settings resolver source map members).Overlaid (resolver.Says source)
      (addDecorated settings resolver.silenced source map members) := by
  induction members generalizing map with
  | nil => exact .refl _
  | cons found rest ih =>
    have typed := overlaid_resolveType resolver source found.member
    have whole : (decoratedProperty settings resolver source found).Overlaid (resolver.Says source)
        (decoratedProperty settings resolver.silenced source found) :=
      Report.Overlaid.andThen (.refl _) fun options => typed.andThen fun type => .refl _
    exact whole.andThen fun property => ih _

theorem overlaid_addStatic (hints : OrderedMap String Node) (map : PropertyMap)
    (entries : List Node) :
    (addStatic resolver source hints map entries).Overlaid (resolver.Says source)
      (addStatic resolver.silenced source hints map entries) := by
  induction entries generalizing map with
  | nil => exact .refl _
  | cons entry rest ih =>
    rw [addStatic, addStatic]
    cases staticEntry source entry with
    | error error => exact .refl _
    | ok found =>
      refine Report.Overlaid.andThen ?_ fun property => ih _
      unfold staticProperty
      cases hints.get? found.1 with
      | none => exact .refl _
      | some hint =>
        have typed := overlaid_resolveType resolver source hint
        exact typed.andThen fun type => .refl _

theorem overlaid_properties (path : Option String) (cls : Node) :
    (properties settings resolver source path cls).Overlaid (resolver.Says source)
      (properties settings resolver.silenced source path cls) := by
  refine Report.Overlaid.andThen (.refl _) fun classes => ?_
  have decorated := overlaid_addDecorated settings resolver source .empty classes.decorated
  refine decorated.andThen fun map => Report.Overlaid.andThen ?_ fun complete => .refl _
  unfold addStaticBlock
  cases classes.staticProperties with
  | none => exact .refl _
  | some member =>
    refine Report.Overlaid.andThen (.refl _) fun hints => ?_
    cases staticObject member with
    | error error => exact .refl _
    | ok object => exact overlaid_addStatic resolver source hints map object.items

end Property

namespace Analysis

section Overlaid

variable (settings : Settings) (resolver : Resolver) (source : Source) (path : Option String)
  (definitions : OrderedMap String String)

theorem overlaid_analyzeClass (cls : Site) :
    (analyzeClass ⟨resolver, false⟩ settings source path definitions cls).Overlaid
      (resolver.Says source)
      (analyzeClass ⟨resolver.silenced, false⟩ settings source path definitions cls) := by
  have overlaid := overlaid_properties settings resolver source path cls.node
  unfold analyzeClass
  simp only
  rw [← overlaid.outcome, ← overlaid.diagnostics]
  cases (properties settings resolver source path cls.node).outcome with
  | ok map => exact ⟨rfl, rfl, overlaid.events⟩
  | error error =>
    cases error with
    | aborted message => exact ⟨rfl, rfl, overlaid.events⟩
    | rejected error =>
      refine ⟨rfl, rfl, overlaid.events.append ?_⟩
      exact .cons rfl .nil

theorem overlaid_analyzeClasses (classes : List Site) :
    (analyzeClasses ⟨resolver, false⟩ settings source path definitions classes).Overlaid
      (resolver.Says source)
      (analyzeClasses ⟨resolver.silenced, false⟩ settings source path definitions classes) := by
  induction classes with
  | nil => exact .refl _
  | cons cls rest ih =>
    have first := overlaid_analyzeClass settings resolver source path definitions cls
    exact first.andThen fun element => ih.andThen fun elements => .refl _

end Overlaid

def Logged.records {α : Type} (logged : Logged α) : List LogRecord :=
  LogRecord.atLeast Level.debug.rank (logged.events.map Event.record)

/-- Records tell what a module says: one for each diagnostic and one for each element, in order, and
the last with the numbers of both. -/
structure Chronicles (records : List LogRecord) (module : Module) : Prop where
  findings : List.Forall₂ (fun record diagnostic => ∃ event : Event, record = event.record ∧
    LoggedFor event diagnostic) (records.filter (·.isFinding)) module.diagnostics
  extractions : records.filter (·.isExtraction) =
    module.elements.map fun element => (Event.propertiesExtracted element.properties.size).record
  last : records.getLast? = some (Event.moduleAnalyzed module.path module.elements.length
    module.diagnostics.length).record

section Runs

variable {parser : Parser} {resolver : Resolver} {settings : Settings} {job : Job}
  {path : Option String} {parsed : Parsed} {module : Module}

theorem isAside_of_mem_openingEvents {event : Event}
    (listed : event ∈ openingEvents path parsed) : event.isAside = true := by
  unfold openingEvents at listed
  rcases List.mem_append.mp listed with broken | registered
  · split at broken
    · rw [List.mem_singleton.mp broken]
      rfl
    · cases broken
  · obtain ⟨registration, -, rfl⟩ := List.mem_map.mp registered
    rfl

theorem tells_analyzeParsed (discreet : resolver.Discreet)
    (returned : (analyzeParsed ⟨resolver, false⟩ settings path parsed).result = .ok module) :
    Tells (analyzeParsed ⟨resolver, false⟩ settings path parsed).events module.diagnostics
      (module.elements.map (·.properties.size)) := by
  unfold analyzeParsed at returned ⊢
  cases found : elementClasses settings parsed.source parsed.tree.root with
  | error error =>
    rw [found] at returned
    cases returned
  | ok classes =>
    simp only [found] at returned ⊢
    have told := @tells_analyzeClasses resolver discreet settings parsed.source path
      (Element.definitions parsed.source parsed.tree.root) classes
    generalize analyzeClasses ⟨resolver, false⟩ settings parsed.source path
      (Element.definitions parsed.source parsed.tree.root) classes = report at returned told ⊢
    cases ends : report.outcome with
    | error error =>
      rw [ends] at returned
      cases returned
    | ok elements =>
      simp only [ends] at returned ⊢
      cases returned
      have opening : ∀ event ∈ openingEvents path parsed, event.isAside = true :=
        fun event => isAside_of_mem_openingEvents
      have closing : ∀ event ∈ [Event.moduleAnalyzed path elements.length
          report.diagnostics.length], event.isAside = true := by
        simp [Event.isAside, Event.isFinding, Event.isExtraction]
      exact ((told ends).after_asides opening).before_asides closing

/-- The last event of a run that returns counts what it returns. -/
theorem getLast?_events_analyzeParsed
    (returned : (analyzeParsed ⟨resolver, false⟩ settings path parsed).result = .ok module) :
    (analyzeParsed ⟨resolver, false⟩ settings path parsed).events.getLast? =
      some (.moduleAnalyzed module.path module.elements.length module.diagnostics.length) := by
  unfold analyzeParsed at returned ⊢
  cases found : elementClasses settings parsed.source parsed.tree.root with
  | error error =>
    rw [found] at returned
    cases returned
  | ok classes =>
    simp only [found] at returned ⊢
    split at returned
    · cases returned
    · cases returned
      simp_all

theorem overlaid_analyzeParsed :
    let run := analyzeParsed ⟨resolver, false⟩ settings path parsed
    let own := analyzeParsed ⟨resolver.silenced, false⟩ settings path parsed
    run.result = own.result ∧ Aligned Eq (resolver.Says parsed.source) run.events own.events := by
  have same (events : List Event) : Aligned Eq (resolver.Says parsed.source) events events :=
    .of_forall₂ (List.forall₂_refl _)
  unfold analyzeParsed
  cases found : elementClasses settings parsed.source parsed.tree.root with
  | error error => exact ⟨rfl, same _⟩
  | ok classes =>
    have overlaid := overlaid_analyzeClasses settings resolver parsed.source path
      (Element.definitions parsed.source parsed.tree.root) classes
    simp only
    rw [← overlaid.outcome, ← overlaid.diagnostics]
    split
    · exact ⟨rfl, (same _).append overlaid.events⟩
    · exact ⟨rfl, ((same _).append overlaid.events).append (same _)⟩

end Runs

theorem records_eq {α : Type} (logged : Logged α) :
    logged.records = logged.events.map Event.record :=
  LogRecord.atLeast_debug _

theorem chronicles_of_tells {logged : Logged Module} {module : Module}
    (told : Tells logged.events module.diagnostics (module.elements.map (·.properties.size)))
    (last : logged.events.getLast? = some (.moduleAnalyzed module.path module.elements.length
      module.diagnostics.length)) : Chronicles logged.records module := by
  have findings : (logged.events.map Event.record).filter (·.isFinding) =
      (logged.events.filter (·.isFinding)).map Event.record := by
    rw [List.filter_map]
    exact congrArg _ (List.filter_congr fun event _ => LogRecord.isFinding_record event)
  have extractions : (logged.events.map Event.record).filter (·.isExtraction) =
      (logged.events.filter (·.isExtraction)).map Event.record := by
    rw [List.filter_map]
    exact congrArg _ (List.filter_congr fun event _ => LogRecord.isExtraction_record event)
  refine ⟨?_, ?_, ?_⟩
  · rw [records_eq, findings, List.forall₂_map_left_iff]
    exact told.findings.imp fun event diagnostic loggedFor => ⟨event, rfl, loggedFor⟩
  · rw [records_eq, extractions, told.extractions, List.map_map, List.map_map]
    rfl
  · rw [records_eq, List.getLast?_map, last]
    rfl

/-- The log of a lenient run that returns tells what its module says, if what the resolver logs is
left out; and what the resolver logs only stands in between. So the whole log tells it as well unless
the resolver logs what could be taken for a finding or an extraction. -/
theorem log_tells_diagnostics (parser : Parser) (resolver : Resolver) (settings : Settings)
    (job : Job) {module : Module}
    (returned : (analyze parser ⟨resolver, false⟩ settings job).result = .ok module) :
    let run := analyze parser ⟨resolver, false⟩ settings job
    let own := analyze parser ⟨resolver.silenced, false⟩ settings job
    own.result = .ok module ∧ Chronicles own.records module ∧
      Aligned Eq (fun record => ∃ source node, ∃ event ∈ (resolver source node).events,
        record = event.record) run.records own.records ∧
      run.records.getLast? = own.records.getLast? ∧
      (resolver.Discreet → Chronicles run.records module) := by
  unfold analyze at returned ⊢
  cases parses : job.parsed parser with
  | error error =>
    rw [parses] at returned
    cases returned
  | ok parsed =>
    simp only [parses] at returned ⊢
    obtain ⟨result, events⟩ := @overlaid_analyzeParsed resolver settings job.path parsed
    rw [result] at returned
    have last := getLast?_events_analyzeParsed returned
    have lastToo := getLast?_events_analyzeParsed (result.trans returned)
    have told := tells_analyzeParsed resolver.discreet_silenced returned
    refine ⟨returned, chronicles_of_tells told last, ?_, ?_, ?_⟩
    · rw [records_eq, records_eq]
      refine events.map (fun event other same => congrArg Event.record same) ?_
      rintro event ⟨node, logged⟩
      exact ⟨parsed.source, node, event, logged, rfl⟩
    · rw [records_eq, records_eq, List.getLast?_map, List.getLast?_map, last, lastToo]
    · intro discreet
      exact chronicles_of_tells (tells_analyzeParsed discreet (result.trans returned)) lastToo

/-- The resolver breaks down at numbers; there are none whose type is asked for. -/
theorem log_tells_diagnostics_twoClasses :
    let resolver := (FixedAnswer.crash "no numbers").resolver.onKinds [.number]
    let run := analyze twoClassesParser ⟨resolver, false⟩ Configuration.default.settings
      twoClassesJob
    ∃ module, run.result = .ok module ∧ Chronicles run.records module ∧
      module.diagnostics.map (·.severity) = [.warning, .error] ∧
      run.records.map (·.message) = [
        "Ignoring additional static 'properties' declaration",
        "Extracted 0 reactive properties",
        "Skipping class B: Unsupported property name",
        "Analyzed two.ts: 1 elements, 2 diagnostics"] := by
  intro resolver run
  have discreet : resolver.Discreet := (discreet_fixed _).onKinds _
  have reported : (run.result.toOption.map (fun module => module.diagnostics.map (·.severity)),
      run.events) = (some [.warning, .error], [.staticMemberIgnored "properties",
        .propertiesExtracted 0, .classSkipped "B" "Unsupported property name",
        .moduleAnalyzed (some "two.ts") 1 2]) := by decide +kernel
  obtain ⟨said, events⟩ := Prod.mk.inj reported
  obtain ⟨module, kept, severities⟩ := Option.map_eq_some_iff.mp said
  have returned : run.result = .ok module := toOption_eq_some_iff.mp kept
  obtain ⟨-, -, -, -, whole⟩ := log_tells_diagnostics twoClassesParser resolver
    Configuration.default.settings twoClassesJob returned
  refine ⟨module, returned, whole discreet, severities, ?_⟩
  rw [records_eq, events]
  decide +kernel

end Analysis

end ReactiveProps
