import ReactiveProps.Proofs.MemberGroups
import ReactiveProps.Proofs.Merge

/-!
# Where hints come from

The hint of a name is its last lender among the members, wherever the constructor stands; without a
lender it is what the first assignment to the name in the constructor assigns. Assignments only add
to a table of hints: what is in it stays as it is.
-/
namespace ReactiveProps.Property

open SyntaxTree

def Assigns (source : Source) (statement : Node) (name : String) (value : Node) : Prop :=
  ∃ property, AssignsField statement property value ∧ source.text property = name

/-- A statement that resembles an assignment to a field but is none. -/
inductive FallsShort (statement : Node) : Prop
  /-- An assignment may stand deeper, in a block or under a condition. -/
  | nested (other : statement.kind ≠ .expressionStatement)
  /-- The assignment is compound, or there is none. -/
  | compound {expression : Node} (alone : statement.items = [expression])
      (other : expression.kind ≠ .assignmentExpression)
  /-- The target is computed or a variable. -/
  | computed {assignment left : Node} (alone : statement.items = [assignment])
      (leftSide : assignment.child? .left = some left) (other : left.kind ≠ .memberExpression)
  | foreign {assignment left target : Node} (alone : statement.items = [assignment])
      (leftSide : assignment.child? .left = some left)
      (object : left.child? .object = some target) (other : target.kind ≠ .thisWord)
  | hidden {assignment left property : Node} (alone : statement.items = [assignment])
      (leftSide : assignment.child? .left = some left)
      (field : left.child? .property = some property)
      (other : property.kind.isPlainName = false)

theorem not_assigns_of_fallsShort {source : Source} {statement : Node}
    (short : FallsShort statement) (name : String) (value : Node) :
    ¬ Assigns source statement name value := by
  rintro ⟨property, assigns, -⟩
  obtain ⟨expression, alone, assigning, leftSide, -, access, object, this, field, plain⟩ := assigns
  cases short with
  | nested other => exact other expression
  | compound aloneToo other =>
    cases alone.symm.trans aloneToo
    exact other assigning
  | computed aloneToo leftSideToo other =>
    cases alone.symm.trans aloneToo
    cases leftSide.symm.trans leftSideToo
    exact other access
  | foreign aloneToo leftSideToo objectToo other =>
    cases alone.symm.trans aloneToo
    cases leftSide.symm.trans leftSideToo
    cases object.symm.trans objectToo
    exact other this
  | hidden aloneToo leftSideToo fieldToo other =>
    cases alone.symm.trans aloneToo
    cases leftSide.symm.trans leftSideToo
    cases field.symm.trans fieldToo
    cases plain.symm.trans other

def IsConstructor (source : Source) (member : Node) : Prop :=
  member.kind = .methodDefinition ∧ ∃ nameNode, member.child? .name = some nameNode ∧
    nameNode.kind.isPlainName = true ∧ source.text nameNode = "constructor"

/-- The statements that are scanned for assignments: those of the first constructor's body. -/
inductive Scans (source : Source) (cls : Node) : List Node → Prop
  | body {spot : Spot Site} (placed : spot ∈ spots cls.classMembers)
      (constructor : IsConstructor source spot.here.node)
      (first : ∀ earlier ∈ spot.before, ¬ IsConstructor source earlier.node) :
      Scans source cls (spot.here.node.itemsOf .body)
  | nothing (absent : ∀ member ∈ cls.classMembers, ¬ IsConstructor source member.node) :
      Scans source cls []

def AssignsFirst (source : Source) (spot : Spot Node) (name : String) (value : Node) : Prop :=
  Assigns source spot.here name value ∧
    ∀ earlier ∈ spot.before, ∀ other, ¬ Assigns source earlier name other

section Readings

variable {source : Source} {cls : Node}

def assigned? (source : Source) (statement : Node) : Option (String × Node) :=
  statement.thisAssignment?.map fun (name, value) => (source.text name, value)

theorem assigned?_eq_some_iff {statement : Node} {name : String} {value : Node} :
    assigned? source statement = some (name, value) ↔ Assigns source statement name value := by
  rw [assigned?, Option.map_eq_some_iff]
  constructor
  · rintro ⟨⟨property, right⟩, found, same⟩
    cases same
    exact ⟨property, thisAssignment?_eq_some_iff.mp found, rfl⟩
  · rintro ⟨property, assigns, rfl⟩
    exact ⟨(property, value), thisAssignment?_eq_some_iff.mpr assigns, rfl⟩

theorem isConstructor_iff {member : Node} :
    member.isConstructor source = true ↔ IsConstructor source member := by
  simp [Node.isConstructor, IsConstructor, Node.plainName?, Option.any_eq_true]

theorem exists_scans (source : Source) (cls : Node) :
    ∃ statements, Scans source cls statements ∧
      constructorAssignments source cls = statements.filterMap (assigned? source) := by
  unfold constructorAssignments constructor?
  rw [List.find?_map]
  cases found : cls.classMembers.find? ((·.isConstructor source) ∘ Site.node) with
  | none =>
    refine ⟨[], .nothing fun member listed constructor => ?_, rfl⟩
    exact List.find?_eq_none.mp found member listed (isConstructor_iff.mpr constructor)
  | some member =>
    obtain ⟨constructor, before, later, split, others⟩ := List.find?_eq_some_iff_append.mp found
    refine ⟨member.node.itemsOf .body, ?_, rfl⟩
    refine @Scans.body source cls ⟨before, member, later⟩ (mem_spots_iff.mpr split)
      (isConstructor_iff.mp constructor) ?_
    intro earlier listed constructorToo
    have other := others earlier listed
    rw [Function.comp_apply, isConstructor_iff.mpr constructorToo] at other
    cases other

variable {statements : List Node} {name : String} {value : Node}

theorem firstValue?_assigned_eq_some_iff :
    firstValue? (statements.filterMap (assigned? source)) name = some value ↔
      ∃ spot ∈ spots statements, AssignsFirst source spot name value := by
  simp only [firstValue?_filterMap_eq_some_iff, AssignsFirst, ne_eq, assigned?_eq_some_iff]

theorem readFresh_assigned_iff {taken : List String} {spot : Spot Node} {entry : String × Node} :
    ReadFresh (assigned? source) taken spot entry ↔
      AssignsFirst source spot entry.1 entry.2 ∧ entry.1 ∉ taken := by
  obtain ⟨name, value⟩ := entry
  simp only [ReadFresh, Taken, AssignsFirst, not_or, not_exists, not_and, assigned?_eq_some_iff]
  constructor
  · rintro ⟨assigns, free, first⟩
    exact ⟨⟨assigns, first⟩, free⟩
  · rintro ⟨⟨assigns, first⟩, free⟩
    exact ⟨assigns, free, first⟩

end Readings

/-- The hint of a name: its last lender, else the first assignment to it. -/
inductive HintOf (settings : Settings) (source : Source) (cls : Node) (statements : List Node)
    (name : String) : Node → Prop
  | member {node : Node} (last : LastLender settings source cls.classMembers name node) :
      HintOf settings source cls statements name node
  | assignment {spot : Spot Node} {value : Node}
      (unlent : ∀ member ∈ cls.classMembers, ¬ Lends settings source member name)
      (placed : spot ∈ spots statements) (first : AssignsFirst source spot name value) :
      HintOf settings source cls statements name value

section OfClass

variable {settings : Settings} {source : Source} {cls : Node} {statements : List Node}

theorem lastValue?_hints_eq_none_iff (members : List Site) (name : String) :
    lastValue? (members.filterMap (hintMember? settings source)) name = none ↔
      ∀ member ∈ members, ¬ Lends settings source member name := by
  rw [lastValue?_eq_none_iff]
  constructor
  · intro absent member listed lends
    have read := List.mem_filterMap.mpr
      ⟨member, listed, hintMember?_eq_some_iff.mpr ⟨lends, rfl⟩⟩
    exact absent (List.mem_map_of_mem read)
  · intro unlent listed
    obtain ⟨⟨other, node⟩, read, rfl⟩ := List.mem_map.mp listed
    obtain ⟨member, inside, found⟩ := List.mem_filterMap.mp read
    exact unlent member inside (hintMember?_eq_some_iff.mp found).1

theorem hint?_eq_some_iff (scanned : constructorAssignments source cls =
      statements.filterMap (assigned? source)) (name : String) (node : Node) :
    hint? settings source cls name = some node ↔
      HintOf settings source cls statements name node := by
  rw [hint?, Option.or_eq_some_iff, scanned, hintMembers, lastValue?_hints_eq_some_iff,
    lastValue?_hints_eq_none_iff, firstValue?_assigned_eq_some_iff]
  constructor
  · rintro (last | ⟨unlent, spot, placed, first⟩)
    · exact .member last
    · exact .assignment unlent placed first
  · intro hint
    cases hint with
    | member last => exact .inl last
    | assignment unlent placed first => exact .inr ⟨unlent, _, placed, first⟩

/-- The hints of the members with those that the constructor adds are the hints of the class. To any
table the constructor adds, in order, the first assignment to each name that is not in it, and
leaves the entries that are in it where and what they are. -/
theorem hints_come_from_members_then_constructor {ε : Type} (settings : Settings) (source : Source)
    (path : Option String) (cls : Node) (initial : OrderedMap String Node) :
    ∃ statements, Scans source cls statements ∧
      (∀ found, (classify settings source path cls).outcome = .ok found →
        ∃ table, (addConstructorHints source cls found.undecorated : Report ε _).outcome =
            .ok table ∧
          ∀ name node, table.get? name = some node ↔
            HintOf settings source cls statements name node) ∧
      (∃ table added, (addConstructorHints source cls initial : Report ε _).outcome = .ok table ∧
        table.entries = initial.entries ++ added ∧
        Gathers (fun spot entry => AssignsFirst source spot entry.1 entry.2 ∧
          entry.1 ∉ initial.keys) (spots statements) added) ∧
      ∀ statement, FallsShort statement → ∀ name value, ¬ Assigns source statement name value := by
  obtain ⟨statements, scans, scanned⟩ := exists_scans source cls
  refine ⟨statements, scans, fun found classified => ⟨_, outcome_addAssignments _ _, ?_⟩, ?_,
    fun statement => not_assigns_of_fallsShort⟩
  · intro name node
    rw [outcome_classify] at classified
    cases unnamed : cls.classMembers.find? isUnnamed with
    | some member =>
      rw [unnamed] at classified
      cases classified
    | none =>
      rw [unnamed] at classified
      cases classified
      rw [← hint?_eq_some_iff scanned, ← get?_hintTable, hintTable]
  · have known : ∀ key, key ∈ initial.keys ↔ Taken (assigned? source) initial.keys [] key := by
      simp [Taken]
    obtain ⟨added, entries, gathers⟩ := OrderedMap.entries_insertAllNew statements known
    refine ⟨_, added, outcome_addAssignments _ _, ?_, ?_⟩
    · rw [scanned, entries]
    · exact gathers.congr fun _ _ => readFresh_assigned_iff

end OfClass

def overlappingSource : Source := .ofString
  ("class A\x7bx=1;x=[];@property() y=2;static w;constructor()\x7bthis.y=3;this.x=4;"
    ++ "this.z=5;this.z=6;this[v]=7\x7d\x7d")

/-- The class of `overlappingSource`: its constructor assigns to `x` although fields declare it, to
`y` although only a decorated field does, and to `z` twice. -/
def overlapping : Node := (Node.ofRows? [
  namedRow .classDeclaration 2 0 103 none,
  namedRow .typeIdentifier 0 6 7 (some .name),
  namedRow (.other "class_body") 5 7 103 (some .body),
  namedRow .publicFieldDefinition 2 8 11 none,
  namedRow .propertyIdentifier 0 8 9 (some .name),
  namedRow .number 0 10 11 (some .value),
  namedRow .publicFieldDefinition 2 12 16 none,
  namedRow .propertyIdentifier 0 12 13 (some .name),
  namedRow .array 0 14 16 (some .value),
  namedRow .publicFieldDefinition 3 17 32 none,
  namedRow .decorator 1 17 28 none,
  namedRow .callExpression 2 18 28 none,
  namedRow .identifier 0 18 26 (some .function),
  namedRow (.other "arguments") 0 26 28 (some .arguments),
  namedRow .propertyIdentifier 0 29 30 (some .name),
  namedRow .number 0 31 32 (some .value),
  namedRow .publicFieldDefinition 2 33 41 none,
  ⟨.staticWord, false, none, ⟨33, 39⟩, 0⟩,
  namedRow .propertyIdentifier 0 40 41 (some .name),
  namedRow .methodDefinition 2 42 102 none,
  namedRow .propertyIdentifier 0 42 53 (some .name),
  namedRow (.other "statement_block") 5 55 102 (some .body),
  namedRow .expressionStatement 1 56 64 none,
  namedRow .assignmentExpression 2 56 64 none,
  namedRow .memberExpression 2 56 62 (some .left),
  namedRow .thisWord 0 56 60 (some .object),
  namedRow .propertyIdentifier 0 61 62 (some .property),
  namedRow .number 0 63 64 (some .right),
  namedRow .expressionStatement 1 65 73 none,
  namedRow .assignmentExpression 2 65 73 none,
  namedRow .memberExpression 2 65 71 (some .left),
  namedRow .thisWord 0 65 69 (some .object),
  namedRow .propertyIdentifier 0 70 71 (some .property),
  namedRow .number 0 72 73 (some .right),
  namedRow .expressionStatement 1 74 82 none,
  namedRow .assignmentExpression 2 74 82 none,
  namedRow .memberExpression 2 74 80 (some .left),
  namedRow .thisWord 0 74 78 (some .object),
  namedRow .propertyIdentifier 0 79 80 (some .property),
  namedRow .number 0 81 82 (some .right),
  namedRow .expressionStatement 1 83 91 none,
  namedRow .assignmentExpression 2 83 91 none,
  namedRow .memberExpression 2 83 89 (some .left),
  namedRow .thisWord 0 83 87 (some .object),
  namedRow .propertyIdentifier 0 88 89 (some .property),
  namedRow .number 0 90 91 (some .right),
  namedRow .expressionStatement 1 92 101 none,
  namedRow .assignmentExpression 2 92 101 none,
  namedRow (.other "subscript_expression") 1 92 99 (some .left),
  namedRow .thisWord 0 92 96 (some .object),
  namedRow .number 0 100 101 (some .right)]).getD default

theorem hints_come_from_members_then_constructor_overlapping :
    let settings := Configuration.default.settings
    let source := overlappingSource
    ∃ found table statements,
      (classify settings source none overlapping).outcome = .ok found ∧
      Scans source overlapping statements ∧
      (addConstructorHints source overlapping found.undecorated : Report ClassError _).outcome =
        .ok table ∧
      table.entries.map (fun entry => (entry.1, source.text entry.2)) =
        [("x", "x=[]"), ("y", "3"), ("z", "5")] ∧
      ∀ name node, table.get? name = some node ↔
        HintOf settings source overlapping statements name node := by
  intro settings source
  have checked : (classify settings source none overlapping).outcome.toOption.map (fun found =>
      (addConstructorHints source overlapping found.undecorated :
        Report ClassError _).outcome.toOption.map fun table =>
          table.entries.map fun entry => (entry.1, source.text entry.2)) =
      some (some [("x", "x=[]"), ("y", "3"), ("z", "5")]) := by decide +kernel
  obtain ⟨found, classified, checked⟩ := Option.map_eq_some_iff.mp checked
  have classified := toOption_eq_some_iff.mp classified
  obtain ⟨statements, scans, hinted, -⟩ :=
    hints_come_from_members_then_constructor (ε := ClassError) settings source none overlapping
      .empty
  obtain ⟨table, added, hints⟩ := hinted found classified
  rw [added, Except.toOption, Option.map_some, Option.some.injEq] at checked
  exact ⟨found, table, statements, classified, scans, added, checked, hints⟩

end ReactiveProps.Property
