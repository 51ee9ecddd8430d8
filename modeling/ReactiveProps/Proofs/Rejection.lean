import ReactiveProps.Proofs.Extraction

/-!
# Why extraction fails

Names are checked before types, types of decorated members before the static block, and the form of
the static block before its entries. The first of these checks that meets a fault decides, with the
first fault that it meets.
-/
namespace ReactiveProps.Property

open SyntaxTree Typing

section Failures

variable {α ε : Type} {fails : α → ε → Prop} {f : α → Option ε}

/-- The error of the first element of a list that fails. -/
def FirstFailure (fails : α → ε → Prop) (xs : List α) (error : ε) : Prop :=
  ∃ before x after, xs = before ++ x :: after ∧ fails x error ∧
    ∀ y ∈ before, ∀ other, ¬ fails y other

def NoFailure (fails : α → ε → Prop) (xs : List α) : Prop :=
  ∀ x ∈ xs, ∀ error, ¬ fails x error

theorem FirstFailure.exists_mem {xs : List α} {error : ε} (first : FirstFailure fails xs error) :
    ∃ x ∈ xs, fails x error := by
  obtain ⟨before, x, later, rfl, failed, -⟩ := first
  exact ⟨x, List.mem_append_right before List.mem_cons_self, failed⟩

theorem not_firstFailure_nil {error : ε} : ¬ FirstFailure fails [] error := by
  rintro ⟨before, x, later, split, -⟩
  exact List.append_ne_nil_of_right_ne_nil before (List.cons_ne_nil x later) split.symm

theorem firstFailure_cons_iff {x : α} {xs : List α} {error : ε} :
    FirstFailure fails (x :: xs) error ↔
      fails x error ∨ (∀ other, ¬ fails x other) ∧ FirstFailure fails xs error := by
  constructor
  · rintro ⟨before, y, later, split, failed, none⟩
    cases before with
    | nil =>
      cases split
      exact .inl failed
    | cons first before =>
      cases split
      exact .inr ⟨none x List.mem_cons_self, before, y, later, rfl, failed,
        fun z listed => none z (List.mem_cons_of_mem x listed)⟩
  · rintro (failed | ⟨fine, before, y, later, rfl, failed, none⟩)
    · exact ⟨[], x, xs, rfl, failed, nofun⟩
    · exact ⟨x :: before, y, later, rfl, failed, List.forall_mem_cons.mpr ⟨fine, none⟩⟩

theorem firstFailure_map_iff {β : Type} {f : β → α} {xs : List β} {error : ε} :
    FirstFailure fails (xs.map f) error ↔ FirstFailure (fun x => fails (f x)) xs error := by
  induction xs with
  | nil => exact iff_of_false not_firstFailure_nil not_firstFailure_nil
  | cons x rest ih => rw [List.map_cons, firstFailure_cons_iff, firstFailure_cons_iff, ih]

theorem findSome?_eq_some_iff_firstFailure (same : ∀ x error, f x = some error ↔ fails x error)
    (xs : List α) (error : ε) :
    xs.findSome? f = some error ↔ FirstFailure fails xs error := by
  simp only [List.findSome?_eq_some_iff, FirstFailure, ← same, Option.eq_none_iff_forall_ne_some,
    ne_eq]

theorem findSome?_eq_none_iff_noFailure (same : ∀ x error, f x = some error ↔ fails x error)
    (xs : List α) : xs.findSome? f = none ↔ NoFailure fails xs := by
  rw [List.findSome?_eq_none_iff]
  simp only [NoFailure, ← same, Option.eq_none_iff_forall_ne_some, ne_eq]

end Failures

/-- The object literal that a static properties member holds: the value of a field, or what the last
statement of a getter returns. -/
inductive HoldsObject (member : Node) : Node → Prop
  | value {object : Node} (field : member.kind.isField = true)
      (value : member.child? .value = some object) (literal : object.kind = .object) :
      HoldsObject member object
  | returned {statement object : Node} (getter : member.isGetter = true)
      (last : (member.itemsOf .body).getLast? = some statement)
      (returns : statement.kind = .returnStatement) (first : statement.items.head? = some object)
      (literal : object.kind = .object) : HoldsObject member object

structure IsEntry (source : Source) (entry : Node) (name : String) (options : Node) : Prop where
  pair : entry.kind = .pair
  key : ∃ key, entry.child? .key = some key ∧ key.kind.isPlainName = true ∧ source.text key = name
  value : entry.child? .value = some options
  literal : options.kind = .object

theorem not_isField_of_isGetter {member : Node} (getter : member.isGetter = true) :
    member.kind.isField = false := by
  simp only [Node.isGetter, Bool.and_eq_true, beq_iff_eq] at getter
  rw [getter.1]
  rfl

theorem returnedObject?_eq_some_iff (getter object : Node) :
    returnedObject? getter = some object ↔
      ∃ statement, (getter.itemsOf .body).getLast? = some statement ∧
        statement.kind = .returnStatement ∧ statement.items.head? = some object ∧
          object.kind = .object := by
  simp [returnedObject?, Option.bind_eq_some_iff, Option.filter_eq_some_iff]

theorem staticObject?_eq_some_iff (member object : Node) :
    staticObject? member = some object ↔ HoldsObject member object := by
  unfold staticObject?
  cases field : member.kind.isField with
  | true =>
    rw [if_pos rfl, Option.filter_eq_some_iff, beq_iff_eq]
    constructor
    · rintro ⟨value, literal⟩
      exact .value field value literal
    · intro holds
      cases holds with
      | value _ value literal => exact ⟨value, literal⟩
      | returned getter =>
        rw [not_isField_of_isGetter getter] at field
        cases field
  | false =>
    cases getter : member.isGetter with
    | true =>
      rw [if_neg Bool.false_ne_true, if_pos rfl, returnedObject?_eq_some_iff]
      constructor
      · rintro ⟨statement, last, returns, first, literal⟩
        exact .returned getter last returns first literal
      · intro holds
        cases holds with
        | value isField => cases field.symm.trans isField
        | returned _ last returns first literal => exact ⟨_, last, returns, first, literal⟩
    | false =>
      rw [if_neg Bool.false_ne_true, if_neg Bool.false_ne_true]
      constructor
      · rintro ⟨⟩
      · intro holds
        cases holds with
        | value isField => cases field.symm.trans isField
        | returned isGetter => cases getter.symm.trans isGetter

theorem entryKey?_eq_some_iff (source : Source) (entry : Node) (name : String) :
    entryKey? source entry = some name ↔
      entry.kind = .pair ∧ ∃ key, entry.child? .key = some key ∧ key.kind.isPlainName = true ∧
        source.text key = name := by
  simp [entryKey?, Option.filter_eq_some_iff, and_assoc]

theorem staticPair?_eq_some_iff (source : Source) (entry : Node) (name : String)
    (options : Node) :
    staticPair? source entry = some (name, options) ↔ IsEntry source entry name options := by
  have read : staticPair? source entry = some (name, options) ↔
      entryKey? source entry = some name ∧
        (entry.child? .value).filter (·.kind == .object) = some options := by
    unfold staticPair?
    cases entryKey? source entry with
    | none => simp
    | some key => cases (entry.child? .value).filter (·.kind == .object) <;> simp
  rw [read, entryKey?_eq_some_iff, Option.filter_eq_some_iff, beq_iff_eq]
  constructor
  · rintro ⟨⟨pair, key⟩, value, literal⟩
    exact ⟨pair, key, value, literal⟩
  · rintro ⟨pair, key, value, literal⟩
    exact ⟨⟨pair, key⟩, value, literal⟩

variable (settings : Settings) (resolver : Resolver) (source : Source) (cls : Node)

def NameFault (member : Site) (error : ExtractionError) : Prop :=
  isUnnamed member = true ∧ error = .rejected (.about .propertyName member.node)

def TypeFault (node : Node) (error : ExtractionError) : Prop :=
  (resolveType resolver source node).outcome = .error error

/-- An entry fails by its form, else if the resolver fails on the hint with its name. -/
inductive EntryFault (entry : Node) : ExtractionError → Prop
  | form (bad : ∀ name options, ¬ IsEntry source entry name options) :
      EntryFault entry (.rejected (.about .staticEntry entry))
  | type {name : String} {options hint : Node} {error : ExtractionError}
      (form : IsEntry source entry name options)
      (hinted : hint? settings source cls name = some hint)
      (failed : TypeFault resolver source hint error) : EntryFault entry error

/-- The static properties member fails by its form, else by the first of its entries that does. -/
inductive StaticFault : ExtractionError → Prop
  | form {member : Node} (selected : selectedStatic? settings source cls = some member)
      (bad : ∀ object, ¬ HoldsObject member object) :
      StaticFault (.rejected (.about .staticFormat member))
  | entry {member object : Node} {error : ExtractionError}
      (selected : selectedStatic? settings source cls = some member)
      (holds : HoldsObject member object)
      (first : FirstFailure (EntryFault settings resolver source cls) object.items error) :
      StaticFault error

/-- What keeps the properties of a class from being extracted. -/
inductive Fault : ExtractionError → Prop
  | name {error : ExtractionError} (first : FirstFailure NameFault cls.classMembers error) :
      Fault error
  | type {error : ExtractionError} (named : NoFailure NameFault cls.classMembers)
      (first : FirstFailure (fun found => TypeFault resolver source found.member)
        (decoratedMembers settings source cls) error) : Fault error
  | static {error : ExtractionError} (named : NoFailure NameFault cls.classMembers)
      (typed : NoFailure (fun found => TypeFault resolver source found.member)
        (decoratedMembers settings source cls))
      (first : StaticFault settings resolver source cls error) : Fault error

def nameError? : Option ExtractionError :=
  cls.classMembers.findSome? fun member =>
    if isUnnamed member then some (.rejected (.about .propertyName member.node)) else none

theorem errorOf?_properties (path : Option String) :
    errorOf? (properties settings resolver source path cls).outcome =
      (nameError? cls).or
        ((errorOf? (memberWrites settings resolver source cls)).or
          (errorOf? (staticWrites settings resolver source cls))) := by
  have names : nameError? cls = (cls.classMembers.find? isUnnamed).map fun member =>
      .rejected (.about .propertyName member.node) := by
    unfold nameError?
    induction cls.classMembers with
    | nil => rfl
    | cons member rest ih =>
      cases unnamed : isUnnamed member <;> simp [unnamed, ih]
  rw [outcome_properties, names]
  cases cls.classMembers.find? isUnnamed with
  | some member => rfl
  | none =>
    cases memberWrites settings resolver source cls with
    | error error => rfl
    | ok decorated => simp [Except.bind]

theorem nameFault_iff (member : Site) (error : ExtractionError) :
    (if isUnnamed member then some (.rejected (.about .propertyName member.node)) else none) =
      some error ↔ NameFault member error := by
  cases unnamed : isUnnamed member <;> simp [NameFault, unnamed, eq_comm]

theorem typeFault_iff (found : DecoratedMember) (error : ExtractionError) :
    errorOf? ((memberProperty settings resolver source found).map (found.name, ·)) = some error ↔
      TypeFault resolver source found.member error := by
  rw [memberProperty, errorOf?_map, errorOf?_map, errorOf?_eq_some_iff, TypeFault]

theorem errorOf?_entryProperty (name : String) (options : Node) (error : ExtractionError) :
    errorOf? (entryProperty settings resolver source cls name options) = some error ↔
      ∃ hint, hint? settings source cls name = some hint ∧
        TypeFault resolver source hint error := by
  rw [entryProperty, errorOf?_map]
  cases hint? settings source cls name with
  | none => simp [hintType]
  | some hint => simp [hintType, TypeFault, errorOf?_eq_some_iff]

theorem entryFault_cases (entry : Node) (error : ExtractionError) :
    EntryFault settings resolver source cls entry error ↔
      ((∀ name options, ¬ IsEntry source entry name options) ∧
        error = .rejected (.about .staticEntry entry)) ∨
      ∃ name options, IsEntry source entry name options ∧
        ∃ hint, hint? settings source cls name = some hint ∧
          TypeFault resolver source hint error := by
  constructor
  · intro fault
    cases fault with
    | form bad => exact .inl ⟨bad, rfl⟩
    | type form hinted failed => exact .inr ⟨_, _, form, _, hinted, failed⟩
  · rintro (⟨bad, rfl⟩ | ⟨name, options, form, hint, hinted, failed⟩)
    · exact .form bad
    · exact .type form hinted failed

theorem entryFault_iff (entry : Node) (error : ExtractionError) :
    errorOf? (entryWrite settings resolver source cls entry) = some error ↔
      EntryFault settings resolver source cls entry error := by
  rw [entryFault_cases, entryWrite]
  simp only [← staticPair?_eq_some_iff]
  cases read : staticPair? source entry with
  | none => simp [eq_comm]
  | some found =>
    obtain ⟨name, options⟩ := found
    simp only [errorOf?_map, errorOf?_entryProperty]
    simp

theorem not_staticFault_of_none (absent : selectedStatic? settings source cls = none)
    (error : ExtractionError) : ¬ StaticFault settings resolver source cls error := by
  intro fault
  cases fault with
  | form chosen => cases absent.symm.trans chosen
  | entry chosen => cases absent.symm.trans chosen

theorem staticFault_of_selected {member : Node}
    (selected : selectedStatic? settings source cls = some member) (error : ExtractionError) :
    StaticFault settings resolver source cls error ↔
      ((∀ object, ¬ HoldsObject member object) ∧
        error = .rejected (.about .staticFormat member)) ∨
      ∃ object, HoldsObject member object ∧
        FirstFailure (EntryFault settings resolver source cls) object.items error := by
  constructor
  · intro fault
    cases fault with
    | form chosen bad =>
      cases selected.symm.trans chosen
      exact .inl ⟨bad, rfl⟩
    | entry chosen holds first =>
      cases selected.symm.trans chosen
      exact .inr ⟨_, holds, first⟩
  · rintro (⟨bad, rfl⟩ | ⟨object, holds, first⟩)
    · exact .form selected bad
    · exact .entry selected holds first

theorem staticFault_iff (error : ExtractionError) :
    errorOf? (staticWrites settings resolver source cls) = some error ↔
      StaticFault settings resolver source cls error := by
  rw [staticWrites]
  cases selected : selectedStatic? settings source cls with
  | none => simp [not_staticFault_of_none settings resolver source cls selected error]
  | some member =>
    rw [staticFault_of_selected settings resolver source cls selected]
    simp only [← staticObject?_eq_some_iff]
    cases held : staticObject? member with
    | none => simp [eq_comm]
    | some object =>
      simp only [errorOf?_mapM]
      rw [findSome?_eq_some_iff_firstFailure (entryFault_iff settings resolver source cls)]
      simp

theorem nameError?_eq_some_iff (error : ExtractionError) :
    nameError? cls = some error ↔ FirstFailure NameFault cls.classMembers error :=
  findSome?_eq_some_iff_firstFailure nameFault_iff cls.classMembers error

theorem nameError?_eq_none_iff :
    nameError? cls = none ↔ NoFailure NameFault cls.classMembers :=
  findSome?_eq_none_iff_noFailure nameFault_iff cls.classMembers

theorem errorOf?_memberWrites_eq_some_iff (error : ExtractionError) :
    errorOf? (memberWrites settings resolver source cls) = some error ↔
      FirstFailure (fun found => TypeFault resolver source found.member)
        (decoratedMembers settings source cls) error := by
  rw [memberWrites, errorOf?_mapM,
    findSome?_eq_some_iff_firstFailure (typeFault_iff settings resolver source)]

theorem errorOf?_memberWrites_eq_none_iff :
    errorOf? (memberWrites settings resolver source cls) = none ↔
      NoFailure (fun found => TypeFault resolver source found.member)
        (decoratedMembers settings source cls) := by
  rw [memberWrites, errorOf?_mapM,
    findSome?_eq_none_iff_noFailure (typeFault_iff settings resolver source)]

theorem outcome_properties_eq_error_iff (path : Option String) (error : ExtractionError) :
    (properties settings resolver source path cls).outcome = .error error ↔
      Fault settings resolver source cls error := by
  rw [← errorOf?_eq_some_iff, errorOf?_properties, Option.or_eq_some_iff, Option.or_eq_some_iff,
    nameError?_eq_some_iff, nameError?_eq_none_iff, errorOf?_memberWrites_eq_some_iff,
    errorOf?_memberWrites_eq_none_iff, staticFault_iff]
  constructor
  · rintro (first | ⟨named, first | ⟨typed, fault⟩⟩)
    · exact .name first
    · exact .type named first
    · exact .static named typed fault
  · intro fault
    cases fault with
    | name first => exact .inl first
    | type named first => exact .inr ⟨named, .inl first⟩
    | static named typed fault => exact .inr ⟨named, .inr ⟨typed, fault⟩⟩

theorem exists_outcome_properties_iff (path : Option String) :
    (∃ map, (properties settings resolver source path cls).outcome = .ok map) ↔
      NoFailure NameFault cls.classMembers ∧
        NoFailure (fun found => TypeFault resolver source found.member)
          (decoratedMembers settings source cls) ∧
        ∀ error, ¬ StaticFault settings resolver source cls error := by
  rw [← errorOf?_eq_none_iff, errorOf?_properties, Option.or_eq_none_iff, Option.or_eq_none_iff,
    nameError?_eq_none_iff, errorOf?_memberWrites_eq_none_iff, Option.eq_none_iff_forall_ne_some]
  simp only [ne_eq, staticFault_iff]

/-- Extraction ends in an error exactly if that is the fault that decides, and in a map exactly if
every name is plain, every type can be resolved, and the static block has its form and only entries
that can be read. -/
theorem properties_fail_by_first_fault (path : Option String) :
    (∀ error, (properties settings resolver source path cls).outcome = .error error ↔
      Fault settings resolver source cls error) ∧
    ((∃ map, (properties settings resolver source path cls).outcome = .ok map) ↔
      NoFailure NameFault cls.classMembers ∧
        NoFailure (fun found => TypeFault resolver source found.member)
          (decoratedMembers settings source cls) ∧
        ∀ error, ¬ StaticFault settings resolver source cls error) :=
  ⟨outcome_properties_eq_error_iff settings resolver source cls path,
    exists_outcome_properties_iff settings resolver source cls path⟩

end ReactiveProps.Property
