import ReactiveProps.Proofs.OrderedMap
import ReactiveProps.Proofs.Report
import ReactiveProps.Property.Members

/-!
# What a classification holds

Every member of a class is read by itself as a decorated member, a candidate for the static
properties member or a hint. `classifyFrom_eq` says that going through the members collects exactly
these readings, up to the first member without a plain name.
-/
namespace ReactiveProps.Property

open SyntaxTree

variable (settings : Settings) (source : Source)

/-- A field or getter whose name is not a plain name. -/
def isUnnamed (member : Site) : Bool :=
  member.node.memberKind?.isSome && member.node.plainName?.isNone

def declaredName? (member : Site) : Option String :=
  if member.node.memberKind?.isSome then member.node.plainName?.map source.text else none

def decoratedMember? (member : Site) : Option DecoratedMember :=
  (declaredName? source member).bind fun name =>
    (propertyDecorator? settings source member).map fun decorator =>
      ⟨name, member.node, decorator⟩

def undecoratedMember? (member : Site) : Option (String × Node) :=
  if (propertyDecorator? settings source member).isNone then
    (declaredName? source member).map fun name => (name, member.node)
  else none

def staticCandidate? (member : Site) : Option (String × Node) :=
  (undecoratedMember? settings source member).filter fun found =>
    found.2.isStatic && settings.staticProperties == some found.1

/-- An undecorated member that is not static: it lends its type to an entry of its name. -/
def hintMember? (member : Site) : Option (String × Node) :=
  (undecoratedMember? settings source member).filter fun found => !found.2.isStatic

structure Reading where
  unnamed : Bool
  decorated : Option DecoratedMember
  static : Option (String × Node)
  hint : Option (String × Node)

def reading (member : Site) : Reading :=
  ⟨isUnnamed member, decoratedMember? settings source member,
    staticCandidate? settings source member, hintMember? settings source member⟩

def Reading.ofRole (member : Node) : Option Role → Reading
  | none => ⟨false, none, none, none⟩
  | some .unnamed => ⟨true, none, none, none⟩
  | some (.decorated name decorator) => ⟨false, some ⟨name, member, decorator⟩, none, none⟩
  | some (.staticProperties name) => ⟨false, none, some (name, member), none⟩
  | some .otherStatic => ⟨false, none, none, none⟩
  | some (.undecorated name) => ⟨false, none, none, some (name, member)⟩

theorem reading_eq_ofRole (member : Site) :
    reading settings source member = .ofRole member.node (role? settings source member) := by
  unfold reading role? isUnnamed decoratedMember? staticCandidate? hintMember? undecoratedMember?
    declaredName?
  cases kind : member.node.memberKind? with
  | none => simp [Reading.ofRole]
  | some kind =>
    cases plain : member.node.plainName? with
    | none => simp [Reading.ofRole]
    | some name =>
      cases decorator : propertyDecorator? settings source member with
      | some decorator => simp [Reading.ofRole]
      | none =>
        cases static : member.node.isStatic with
        | false => simp [static, Reading.ofRole]
        | true =>
          by_cases same : settings.staticProperties = some (source.text name) <;>
            simp [static, same, Reading.ofRole]

def namedPrefix (members : List Site) : List Site :=
  members.takeWhile fun member => !isUnnamed member

/-- The static properties members among some members that do not count, in body order. The first
one counts unless one was selected before. -/
def surplusStatic (selected : Option Node) (members : List Site) : List (String × Node) :=
  let candidates := members.filterMap (staticCandidate? settings source)
  if selected.isSome then candidates else candidates.tail

def surplusWarning (path : Option String) (extra : String × Node) : Diagnostic :=
  ⟨.warning, extraStaticMessage extra.1, some (.ofNode source extra.2), none, path⟩

def Classification.extended (found : Classification) (members : List Site) : Classification where
  decorated := found.decorated ++ members.filterMap (decoratedMember? settings source)
  staticProperties := found.staticProperties.or
    ((members.findSome? (staticCandidate? settings source)).map Prod.snd)
  undecorated := found.undecorated.insertAll (members.filterMap (hintMember? settings source))

theorem classifyFrom_eq (path : Option String) (found : Classification) (members : List Site) :
    classifyFrom settings source path found members =
      let surplus := surplusStatic settings source found.staticProperties (namedPrefix members)
      ⟨surplus.map fun extra => .staticMemberIgnored extra.1,
        surplus.map (surplusWarning source path),
        match members.find? isUnnamed with
        | some member => .error (.about .propertyName member.node)
        | none => .ok (found.extended settings source members)⟩ := by
  induction members generalizing found with
  | nil => simp [classifyFrom, Classification.extended, surplusStatic, namedPrefix, Report.ok]
  | cons member rest ih =>
    have read := reading_eq_ofRole settings source member
    rw [classifyFrom]
    cases plays : role? settings source member with
    | none =>
      simp only [plays, reading, Reading.ofRole, Reading.mk.injEq] at read
      obtain ⟨named, decorated, static, hint⟩ := read
      simp [ih, surplusStatic, namedPrefix, Classification.extended, named, decorated, static, hint]
    | some role =>
      cases role
      all_goals
        simp only [plays, reading, Reading.ofRole, Reading.mk.injEq] at read
        obtain ⟨named, decorated, static, hint⟩ := read
      case unnamed =>
        simp [Classification.add, Report.andThen, Report.fail, surplusStatic, namedPrefix, named]
      case staticProperties name =>
        -- Only here does it matter whether a static properties member was selected before.
        cases selected : found.staticProperties with
        | none =>
          simp [Classification.add, selected, Report.andThen, Report.ok, Report.after, ih,
            surplusStatic, namedPrefix, Classification.extended, named, decorated, static, hint]
        | some first =>
          simp [Classification.add, selected, Report.andThen, Report.after, ih, surplusStatic,
            surplusWarning, namedPrefix, Classification.extended, named, decorated, static, hint]
      all_goals
        simp [Classification.add, Report.andThen, Report.ok, Report.after, ih, surplusStatic,
          namedPrefix, Classification.extended, named, decorated, static, hint]

section OfClass

variable (cls : Node)

def decoratedMembers : List DecoratedMember :=
  cls.classMembers.filterMap (decoratedMember? settings source)

/-- The static properties member of a class that counts. -/
def selectedStatic? : Option Node :=
  (cls.classMembers.findSome? (staticCandidate? settings source)).map Prod.snd

def hintMembers : List (String × Node) :=
  cls.classMembers.filterMap (hintMember? settings source)

/-- The warnings about the static properties members of a class that do not count. Nothing is said
about members after one without a plain name. -/
def surplusWarnings (path : Option String) : List Diagnostic :=
  (surplusStatic settings source none (namedPrefix cls.classMembers)).map
    (surplusWarning source path)

theorem outcome_classify (path : Option String) :
    (classify settings source path cls).outcome =
      match cls.classMembers.find? isUnnamed with
      | some member => .error (.about .propertyName member.node)
      | none => .ok ⟨decoratedMembers settings source cls, selectedStatic? settings source cls,
          .ofPairs (hintMembers settings source cls)⟩ := by
  rw [classify, classifyFrom_eq]
  rfl

theorem diagnostics_classify (path : Option String) :
    (classify settings source path cls).diagnostics =
      surplusWarnings settings source cls path := by
  rw [classify, classifyFrom_eq]
  rfl

end OfClass

end ReactiveProps.Property
