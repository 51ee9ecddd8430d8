import ReactiveProps.Proofs.Rejection

/-!
# What extraction reports about a class

The only diagnostics that extraction makes are the warnings about static properties members that do
not count. With a resolver that never aborts, what it fails with is an error about the class.
-/
namespace ReactiveProps.Property

open SyntaxTree Typing

variable (settings : Settings) (resolver : Resolver) (source : Source)

theorem diagnostics_propertyOptions {ε : Type} (decorator : Node) :
    (propertyOptions settings source decorator : Report ε _).diagnostics = [] := by
  unfold propertyOptions
  cases decoratorArguments source settings.propertyDecorator decorator with
  | nil => rfl
  | cons argument rest => by_cases literal : argument.kind = .object <;> simp [literal, Report.ok]

theorem diagnostics_resolveType (node : Node) :
    (resolveType resolver source node).diagnostics = [] := rfl

theorem diagnostics_decoratedProperty (found : DecoratedMember) :
    (decoratedProperty settings resolver source found).diagnostics = [] :=
  Report.diagnostics_andThen_eq_nil (diagnostics_propertyOptions settings source _) fun _ =>
    Report.diagnostics_andThen_eq_nil (diagnostics_resolveType resolver source _) fun _ => rfl

theorem diagnostics_addDecorated (map : PropertyMap) (members : List DecoratedMember) :
    (addDecorated settings resolver source map members).diagnostics = [] := by
  induction members generalizing map with
  | nil => rfl
  | cons found rest ih =>
    exact Report.diagnostics_andThen_eq_nil
      (diagnostics_decoratedProperty settings resolver source found) fun _ => ih _

theorem diagnostics_staticProperty (hints : OrderedMap String Node) (name : String)
    (options : Node) :
    (staticProperty resolver source hints name options).diagnostics = [] := by
  unfold staticProperty
  cases hints.get? name with
  | none => rfl
  | some hint =>
    exact Report.diagnostics_andThen_eq_nil (diagnostics_resolveType resolver source hint)
      fun _ => rfl

theorem diagnostics_addStatic (hints : OrderedMap String Node) (map : PropertyMap)
    (entries : List Node) :
    (addStatic resolver source hints map entries).diagnostics = [] := by
  induction entries generalizing map with
  | nil => rfl
  | cons entry rest ih =>
    rw [addStatic]
    cases staticEntry source entry with
    | error error => rfl
    | ok found =>
      exact Report.diagnostics_andThen_eq_nil
        (diagnostics_staticProperty resolver source hints found.1 found.2) fun _ => ih _

theorem diagnostics_addStaticBlock (cls : Node) (classes : Classification) (map : PropertyMap) :
    (addStaticBlock resolver source cls classes map).diagnostics = [] := by
  unfold addStaticBlock
  cases classes.staticProperties with
  | none => rfl
  | some member =>
    refine Report.diagnostics_andThen_eq_nil (diagnostics_addAssignments _ _) fun hints => ?_
    cases staticObject member with
    | error error => rfl
    | ok object => exact diagnostics_addStatic resolver source hints map object.items

theorem diagnostics_properties (path : Option String) (cls : Node) :
    (properties settings resolver source path cls).diagnostics =
      surplusWarnings settings source cls path := by
  rw [properties, Report.diagnostics_andThen_of_silent, Report.diagnostics_mapError,
    diagnostics_classify]
  intro classes
  refine Report.diagnostics_andThen_eq_nil
    (diagnostics_addDecorated settings resolver source _ _) fun decorated => ?_
  exact Report.diagnostics_andThen_eq_nil
    (diagnostics_addStaticBlock resolver source cls classes decorated) fun _ => rfl

theorem of_mem_surplusWarnings {cls : Node} {path : Option String}
    {diagnostic : Diagnostic} (listed : diagnostic ∈ surplusWarnings settings source cls path) :
    diagnostic.severity = .warning ∧ diagnostic.path = path := by
  obtain ⟨extra, -, rfl⟩ := List.mem_map.mp listed
  exact ⟨rfl, rfl⟩

/-- The errors of the resolver are findings about the class or failures of its own. -/
def NeverAborts : Prop :=
  ∀ source node message, (resolver source node).outcome ≠ .error (.abort message)

/-- The resolver reports nothing of its own: it answers or breaks down. -/
def OnlyCrashes : Prop :=
  ∀ source node failure, (resolver source node).outcome = .error failure →
    ∃ reason, failure = .crash reason

theorem onlyCrashes_syntactic : OnlyCrashes syntactic := by
  intro source node failure
  unfold syntactic
  cases annotationOf? source node <;> simp

variable {resolver}

theorem OnlyCrashes.neverAborts (only : OnlyCrashes resolver) : NeverAborts resolver := by
  intro source node message failed
  obtain ⟨reason, same⟩ := only source node _ failed
  cases same

theorem neverAborts_syntactic : NeverAborts syntactic := onlyCrashes_syntactic.neverAborts

/-- A resolver that breaks down is an error about the node that it was asked for. -/
theorem OnlyCrashes.about_of_typeFault {source : Source} (only : OnlyCrashes resolver) {node : Node}
    {error : ExtractionError} (fault : TypeFault resolver source node error) :
    ∃ problem, error = .rejected (.about problem node) := by
  cases said : (resolver source node).outcome with
  | ok type =>
    simp only [TypeFault, resolveType, said] at fault
    cases fault
  | error failure =>
    obtain ⟨reason, rfl⟩ := only source node failure said
    simp only [TypeFault, resolveType, said] at fault
    cases fault
    exact ⟨_, rfl⟩

variable (never : NeverAborts resolver)

include never

theorem rejected_of_typeFault {node : Node} {error : ExtractionError}
    (fault : TypeFault resolver source node error) : ∃ problem, error = .rejected problem := by
  cases said : (resolver source node).outcome with
  | ok type =>
    simp only [TypeFault, resolveType, said] at fault
    cases fault
  | error failure =>
    simp only [TypeFault, resolveType, said] at fault
    cases failure with
    | abort message => exact absurd said (never source node message)
    | crash reason =>
      cases fault
      exact ⟨_, rfl⟩
    | report place message details =>
      cases fault
      exact ⟨_, rfl⟩

theorem rejected_of_fault {cls : Node} {error : ExtractionError}
    (fault : Fault settings resolver source cls error) : ∃ problem, error = .rejected problem := by
  cases fault with
  | name first =>
    obtain ⟨-, member, -, -, fault, -⟩ := first
    exact ⟨_, fault.2⟩
  | type named first =>
    obtain ⟨-, found, -, -, fault, -⟩ := first
    exact rejected_of_typeFault source never fault
  | static named typed fault =>
    cases fault with
    | form => exact ⟨_, rfl⟩
    | entry selected holds first =>
      obtain ⟨-, entry, -, -, fault, -⟩ := first
      cases fault with
      | form => exact ⟨_, rfl⟩
      | type form hinted fault => exact rejected_of_typeFault source never fault

theorem outcome_properties_ne_aborted (path : Option String) (cls : Node) (message : String) :
    (properties settings resolver source path cls).outcome ≠ .error (.aborted message) := by
  intro aborted
  obtain ⟨problem, rejected⟩ := rejected_of_fault settings source never
    ((outcome_properties_eq_error_iff settings resolver source cls path _).mp aborted)
  cases rejected

end ReactiveProps.Property
