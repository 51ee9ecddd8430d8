import ReactiveProps.Proofs.Classification
import ReactiveProps.Property.Constructor

/-!
# Hints of a class

The type of an entry of the static block comes from the last undecorated member of its name that is
not static, else from the first assignment to it in the constructor.
-/
namespace ReactiveProps.SyntaxTree

/-- A statement of the form `this.property = value`. -/
inductive AssignsField (statement : Node) : Node → Node → Prop
  | intro {assignment left target property value : Node}
      (expression : statement.kind = .expressionStatement)
      (alone : statement.items = [assignment])
      (assigning : assignment.kind = .assignmentExpression)
      (leftSide : assignment.child? .left = some left)
      (rightSide : assignment.child? .right = some value)
      (access : left.kind = .memberExpression)
      (object : left.child? .object = some target) (this : target.kind = .thisWord)
      (field : left.child? .property = some property)
      (plain : property.kind.isPlainName = true) : AssignsField statement property value

theorem thisAssignment?_eq_some_iff {statement property value : Node} :
    statement.thisAssignment? = some (property, value) ↔ AssignsField statement property value := by
  constructor
  · intro found
    unfold Node.thisAssignment? at found
    obtain ⟨expression, found⟩ := Option.ite_none_right_eq_some.mp found
    split at found
    case h_2 => cases found
    case h_1 assignment alone =>
      obtain ⟨assigning, found⟩ := Option.ite_none_right_eq_some.mp found
      split at found
      case h_2 => cases found
      case h_1 left right leftSide rightSide =>
        obtain ⟨⟨access, this⟩, found⟩ := Option.ite_none_right_eq_some.mp found
        obtain ⟨target, object, this⟩ := (Option.any_eq_true ..).mp this
        obtain ⟨name, plain, same⟩ := Option.map_eq_some_iff.mp found
        cases same
        obtain ⟨field, plain⟩ := Option.filter_eq_some_iff.mp plain
        exact .intro expression alone assigning leftSide rightSide access object
          (beq_iff_eq.mp this) field plain
  · rintro ⟨expression, alone, assigning, leftSide, rightSide, access, object, this, field, plain⟩
    simp [Node.thisAssignment?, expression, alone, assigning, leftSide, rightSide, access, object,
      this, field, plain]

end ReactiveProps.SyntaxTree

namespace ReactiveProps.Property

open SyntaxTree

def hint? (settings : Settings) (source : Source) (cls : Node) (name : String) : Option Node :=
  (lastValue? (hintMembers settings source cls) name).or
    (firstValue? (constructorAssignments source cls) name)

variable {ε : Type}

theorem outcome_addAssignments (hints : OrderedMap String Node) (pairs : List (String × Node)) :
    (addAssignments hints pairs : Report ε _).outcome = .ok (hints.insertAllNew pairs) := by
  induction pairs generalizing hints with
  | nil => rfl
  | cons pair rest ih =>
    rw [addAssignments, OrderedMap.insertAllNew_cons, OrderedMap.insertNew]
    split <;> simp [ih]

theorem diagnostics_addAssignments (hints : OrderedMap String Node)
    (pairs : List (String × Node)) :
    (addAssignments hints pairs : Report ε _).diagnostics = [] := by
  induction pairs generalizing hints with
  | nil => rfl
  | cons pair rest ih =>
    rw [addAssignments]
    split <;> simp [ih]

/-- What the constructor adds to the undecorated members of a class. -/
def hintTable (settings : Settings) (source : Source) (cls : Node) : OrderedMap String Node :=
  (OrderedMap.ofPairs (hintMembers settings source cls)).insertAllNew
    (constructorAssignments source cls)

theorem get?_hintTable (settings : Settings) (source : Source) (cls : Node) (name : String) :
    (hintTable settings source cls).get? name = hint? settings source cls name := by
  rw [hintTable, OrderedMap.get?_insertAllNew, OrderedMap.get?_ofPairs, hint?]

end ReactiveProps.Property
