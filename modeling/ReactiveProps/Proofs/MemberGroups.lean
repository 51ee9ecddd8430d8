import Mathlib.Data.List.TakeWhile
import ReactiveProps.Proofs.Classification
import ReactiveProps.Proofs.Spots

/-!
# The groups of members

Every field and getter of a class falls in exactly one of six groups by its decorators, its
modifiers, its name and the members around it. A classification holds the first two groups and the
last but one, the warnings are the third, and members of the other two leave no trace.
-/
namespace ReactiveProps.Property

open SyntaxTree

variable (settings : Settings) (source : Source)

structure Declares (member : Site) (name : String) : Prop where
  declaration : member.node.memberKind?.isSome = true
  named : ∃ nameNode, member.node.child? .name = some nameNode ∧
    nameNode.kind.isPlainName = true ∧ source.text nameNode = name

/-- A static properties member: one that counts if it is the first. -/
structure IsCandidate (member : Site) (name : String) : Prop where
  declares : Declares source member name
  undecorated : propertyDecorator? settings source member = none
  static : member.node.isStatic = true
  configured : settings.staticProperties = some name

/-- A member that lends its type to an entry of its name, unless another one does. -/
structure Lends (member : Site) (name : String) : Prop where
  declares : Declares source member name
  undecorated : propertyDecorator? settings source member = none
  nonstatic : member.node.isStatic = false

structure IsNameless (member : Site) : Prop where
  declaration : member.node.memberKind?.isSome = true
  nameless : ∀ name, ¬ Declares source member name

inductive Group
  | decorated
  | selected
  | surplus
  | idle
  | kept
  | superseded
  deriving DecidableEq, Repr

/-- The group of a member between the members before it and those after it. -/
inductive Falls (spot : Spot Site) : Group → Prop
  /-- Whatever else it is. -/
  | decorated {name : String} {decorator : Node} (declares : Declares source spot.here name)
      (recognized : propertyDecorator? settings source spot.here = some decorator) :
      Falls spot .decorated
  | selected {name : String} (candidate : IsCandidate settings source spot.here name)
      (first : ∀ earlier ∈ spot.before, ∀ other, ¬ IsCandidate settings source earlier other) :
      Falls spot .selected
  | surplus {name other : String} {earlier : Site}
      (candidate : IsCandidate settings source spot.here name) (listed : earlier ∈ spot.before)
      (selected : IsCandidate settings source earlier other) : Falls spot .surplus
  | idle {name : String} (declares : Declares source spot.here name)
      (undecorated : propertyDecorator? settings source spot.here = none)
      (static : spot.here.node.isStatic = true)
      (unconfigured : settings.staticProperties ≠ some name) : Falls spot .idle
  | kept {name : String} (lends : Lends settings source spot.here name)
      (last : ∀ later ∈ spot.after, ¬ Lends settings source later name) : Falls spot .kept
  | superseded {name : String} {later : Site} (lends : Lends settings source spot.here name)
      (listed : later ∈ spot.after) (again : Lends settings source later name) :
      Falls spot .superseded

variable {settings source}

section Readings

variable {member : Site} {name other : String}

theorem Declares.unique (declares : Declares source member name)
    (declaresToo : Declares source member other) : name = other := by
  obtain ⟨-, nameNode, labelled, -, rfl⟩ := declares
  obtain ⟨-, otherNode, labelledToo, -, rfl⟩ := declaresToo
  cases labelled.symm.trans labelledToo
  rfl

theorem declaredName?_eq_some_iff :
    declaredName? source member = some name ↔ Declares source member name := by
  unfold declaredName? Node.plainName?
  constructor
  · intro found
    obtain ⟨declaration, found⟩ := Option.ite_none_right_eq_some.mp found
    obtain ⟨nameNode, plain, text⟩ := Option.map_eq_some_iff.mp found
    obtain ⟨labelled, plain⟩ := Option.filter_eq_some_iff.mp plain
    exact ⟨declaration, nameNode, labelled, plain, text⟩
  · rintro ⟨declaration, nameNode, labelled, plain, rfl⟩
    rw [if_pos declaration, labelled, Option.filter_some, if_pos plain, Option.map_some]

theorem isUnnamed_iff : isUnnamed member = true ↔ IsNameless source member := by
  have plain : member.node.plainName? = none ↔
      ∀ name, member.node.plainName?.map source.text ≠ some name := by
    rw [← Option.eq_none_iff_forall_ne_some, Option.map_eq_none_iff]
  rw [isUnnamed, Bool.and_eq_true, Option.isNone_iff_eq_none, plain]
  constructor
  · rintro ⟨declaration, nameless⟩
    refine ⟨declaration, fun name declares => nameless name ?_⟩
    rw [← declaredName?_eq_some_iff, declaredName?, if_pos declaration] at declares
    exact declares
  · rintro ⟨declaration, nameless⟩
    refine ⟨declaration, fun name named => nameless name ?_⟩
    rw [← declaredName?_eq_some_iff, declaredName?, if_pos declaration]
    exact named

theorem decoratedMember?_eq_some_iff {found : DecoratedMember} :
    decoratedMember? settings source member = some found ↔ Declares source member found.name ∧
      propertyDecorator? settings source member = some found.decorator ∧
        found.member = member.node := by
  rw [decoratedMember?, Option.bind_eq_some_iff]
  constructor
  · rintro ⟨name, named, made⟩
    obtain ⟨decorator, recognized, rfl⟩ := Option.map_eq_some_iff.mp made
    exact ⟨declaredName?_eq_some_iff.mp named, recognized, rfl⟩
  · rintro ⟨declares, recognized, same⟩
    refine ⟨found.name, declaredName?_eq_some_iff.mpr declares, ?_⟩
    rw [recognized, Option.map_some, ← same]

theorem undecoratedMember?_eq_some_iff {node : Node} :
    undecoratedMember? settings source member = some (name, node) ↔ Declares source member name ∧
      propertyDecorator? settings source member = none ∧ node = member.node := by
  rw [undecoratedMember?, Option.ite_none_right_eq_some, Option.isNone_iff_eq_none,
    Option.map_eq_some_iff]
  constructor
  · rintro ⟨undecorated, _, named, same⟩
    cases same
    exact ⟨declaredName?_eq_some_iff.mp named, undecorated, rfl⟩
  · rintro ⟨declares, undecorated, rfl⟩
    exact ⟨undecorated, name, declaredName?_eq_some_iff.mpr declares, rfl⟩

theorem staticCandidate?_eq_some_iff {node : Node} :
    staticCandidate? settings source member = some (name, node) ↔
      IsCandidate settings source member name ∧ node = member.node := by
  rw [staticCandidate?, Option.filter_eq_some_iff, undecoratedMember?_eq_some_iff,
    Bool.and_eq_true, beq_iff_eq]
  constructor
  · rintro ⟨⟨declares, undecorated, rfl⟩, static, configured⟩
    exact ⟨⟨declares, undecorated, static, configured⟩, rfl⟩
  · rintro ⟨⟨declares, undecorated, static, configured⟩, rfl⟩
    exact ⟨⟨declares, undecorated, rfl⟩, static, configured⟩

theorem hintMember?_eq_some_iff {node : Node} :
    hintMember? settings source member = some (name, node) ↔
      Lends settings source member name ∧ node = member.node := by
  rw [hintMember?, Option.filter_eq_some_iff, undecoratedMember?_eq_some_iff, Bool.not_eq_true']
  constructor
  · rintro ⟨⟨declares, undecorated, rfl⟩, nonstatic⟩
    exact ⟨⟨declares, undecorated, nonstatic⟩, rfl⟩
  · rintro ⟨⟨declares, undecorated, nonstatic⟩, rfl⟩
    exact ⟨⟨declares, undecorated, rfl⟩, nonstatic⟩

theorem staticCandidate?_eq_none_iff :
    staticCandidate? settings source member = none ↔
      ∀ name, ¬ IsCandidate settings source member name := by
  rw [Option.eq_none_iff_forall_ne_some]
  constructor
  · exact fun none name candidate =>
      none (name, member.node) (staticCandidate?_eq_some_iff.mpr ⟨candidate, rfl⟩)
  · exact fun none found same => none found.1 (staticCandidate?_eq_some_iff.mp same).1

end Readings

namespace Falls

variable {spot : Spot Site} {group other : Group}

theorem declares (falls : Falls settings source spot group) :
    ∃ name, Declares source spot.here name := by
  cases falls with
  | decorated declares => exact ⟨_, declares⟩
  | selected candidate => exact ⟨_, candidate.declares⟩
  | surplus candidate => exact ⟨_, candidate.declares⟩
  | idle declares => exact ⟨_, declares⟩
  | kept lends => exact ⟨_, lends.declares⟩
  | superseded lends => exact ⟨_, lends.declares⟩

theorem exists_group {name : String} (declares : Declares source spot.here name) :
    ∃ group, Falls settings source spot group := by
  cases recognized : propertyDecorator? settings source spot.here with
  | some decorator => exact ⟨_, .decorated declares recognized⟩
  | none =>
    cases static : spot.here.node.isStatic with
    | true =>
      by_cases configured : settings.staticProperties = some name
      · have candidate : IsCandidate settings source spot.here name :=
          ⟨declares, recognized, static, configured⟩
        by_cases early : ∃ earlier ∈ spot.before, ∃ other,
            IsCandidate settings source earlier other
        · obtain ⟨earlier, listed, other, selected⟩ := early
          exact ⟨_, .surplus candidate listed selected⟩
        · refine ⟨_, .selected candidate fun earlier listed other selected => ?_⟩
          exact early ⟨earlier, listed, other, selected⟩
      · exact ⟨_, .idle declares recognized static configured⟩
    | false =>
      have lends : Lends settings source spot.here name := ⟨declares, recognized, static⟩
      by_cases again : ∃ later ∈ spot.after, Lends settings source later name
      · obtain ⟨later, listed, again⟩ := again
        exact ⟨_, .superseded lends listed again⟩
      · exact ⟨_, .kept lends fun later listed lends => again ⟨later, listed, lends⟩⟩

open Classical in
/-- Each group is told from the others by four questions. -/
theorem group_eq (falls : Falls settings source spot group) :
    group =
      if (propertyDecorator? settings source spot.here).isSome then .decorated
      else if spot.here.node.isStatic then
        if ∃ name, IsCandidate settings source spot.here name then
          if ∃ earlier ∈ spot.before, ∃ other, IsCandidate settings source earlier other then
            .surplus
          else .selected
        else .idle
      else if ∃ name, Lends settings source spot.here name ∧
          ∃ later ∈ spot.after, Lends settings source later name then .superseded
      else .kept := by
  cases falls with
  | decorated declares recognized => rw [recognized, Option.isSome_some, if_pos rfl]
  | selected candidate first =>
    have alone : ¬ ∃ earlier ∈ spot.before, ∃ other, IsCandidate settings source earlier other :=
      fun ⟨earlier, listed, other, again⟩ => first earlier listed other again
    rw [candidate.undecorated, Option.isSome_none, if_neg Bool.false_ne_true, candidate.static,
      if_pos rfl, if_pos ⟨_, candidate⟩, if_neg alone]
  | surplus candidate listed selected =>
    rw [candidate.undecorated, Option.isSome_none, if_neg Bool.false_ne_true, candidate.static,
      if_pos rfl, if_pos ⟨_, candidate⟩, if_pos ⟨_, listed, _, selected⟩]
  | idle declares undecorated static unconfigured =>
    have plain : ¬ ∃ name, IsCandidate settings source spot.here name := by
      rintro ⟨name, candidate⟩
      cases declares.unique candidate.declares
      exact unconfigured candidate.configured
    rw [undecorated, Option.isSome_none, if_neg Bool.false_ne_true, static, if_pos rfl,
      if_neg plain]
  | kept lends last =>
    have alone : ¬ ∃ name, Lends settings source spot.here name ∧
        ∃ later ∈ spot.after, Lends settings source later name := by
      rintro ⟨name, lendsToo, later, listed, again⟩
      cases lends.declares.unique lendsToo.declares
      exact last later listed again
    rw [lends.undecorated, Option.isSome_none, if_neg Bool.false_ne_true, lends.nonstatic,
      if_neg Bool.false_ne_true, if_neg alone]
  | superseded lends listed again =>
    rw [lends.undecorated, Option.isSome_none, if_neg Bool.false_ne_true, lends.nonstatic,
      if_neg Bool.false_ne_true, if_pos ⟨_, lends, _, listed, again⟩]

theorem unique (falls : Falls settings source spot group)
    (fallsToo : Falls settings source spot other) : group = other :=
  falls.group_eq.trans fallsToo.group_eq.symm

end Falls

variable (settings source)

def WarnsAbout (path : Option String) (spot : Spot Site) (warning : Diagnostic) : Prop :=
  Falls settings source spot .surplus ∧ ∃ name, Declares source spot.here name ∧
    warning = ⟨.warning, extraStaticMessage name, some (.ofNode source spot.here.node), none, path⟩

/-- A classification and its warnings tell the groups of the members. -/
structure Partition (path : Option String) (members : List Site) (found : Classification)
    (warnings : List Diagnostic) : Prop where
  /-- Fields and getters, and only they, have a group, and they have one. -/
  grouped : ∀ spot ∈ spots members,
    (∃! group, Falls settings source spot group) ↔ spot.here.node.memberKind?.isSome = true
  decorated : Gathers (fun spot entry => Falls settings source spot .decorated ∧
      entry.member = spot.here.node ∧ Declares source spot.here entry.name ∧
        propertyDecorator? settings source spot.here = some entry.decorator)
    (spots members) found.decorated
  selected : Gathers (fun spot node => Falls settings source spot .selected ∧
    node = spot.here.node) (spots members) found.staticProperties.toList
  surplus : Gathers (WarnsAbout settings source path) (spots members) warnings
  kept : ∀ name node, found.undecorated.get? name = some node ↔ ∃ spot ∈ spots members,
    Falls settings source spot .kept ∧ Declares source spot.here name ∧ spot.here.node = node
  superseded : ∀ spot ∈ spots members, Falls settings source spot .superseded →
    ∃ name, Declares source spot.here name ∧ ∃ later ∈ spot.after,
      Lends settings source later name ∧ found.undecorated.get? name = some later.node

section Gathered

variable {settings source} {path : Option String}

theorem falls_decorated_iff {spot : Spot Site} {found : DecoratedMember} :
    (Falls settings source spot .decorated ∧ found.member = spot.here.node ∧
      Declares source spot.here found.name ∧
        propertyDecorator? settings source spot.here = some found.decorator) ↔
      decoratedMember? settings source spot.here = some found := by
  rw [decoratedMember?_eq_some_iff]
  constructor
  · rintro ⟨-, same, declares, recognized⟩
    exact ⟨declares, recognized, same⟩
  · rintro ⟨declares, recognized, same⟩
    exact ⟨.decorated declares recognized, same, declares, recognized⟩

theorem falls_selected_iff {spot : Spot Site} {node : Node} :
    (Falls settings source spot .selected ∧ node = spot.here.node) ↔
      ∃ name, ReadFirst (staticCandidate? settings source) spot (name, node) := by
  simp only [ReadFirst, staticCandidate?_eq_some_iff, staticCandidate?_eq_none_iff]
  constructor
  · rintro ⟨falls, same⟩
    cases falls with
    | selected candidate first => exact ⟨_, ⟨candidate, same⟩, first⟩
  · rintro ⟨name, ⟨candidate, same⟩, first⟩
    exact ⟨.selected candidate first, same⟩

theorem warnsAbout_iff {spot : Spot Site} {warning : Diagnostic} :
    WarnsAbout settings source path spot warning ↔
      ∃ extra, ReadAgain (staticCandidate? settings source) spot extra ∧
        warning = surplusWarning source path extra := by
  simp only [ReadAgain, ne_eq, staticCandidate?_eq_none_iff, not_forall, not_not]
  constructor
  · rintro ⟨falls, name, declares, rfl⟩
    cases falls with
    | surplus candidate listed selected =>
      cases declares.unique candidate.declares
      refine ⟨(name, spot.here.node), ⟨?_, _, listed, _, selected⟩, rfl⟩
      exact staticCandidate?_eq_some_iff.mpr ⟨candidate, rfl⟩
  · rintro ⟨⟨name, node⟩, ⟨read, earlier, listed, other, selected⟩, rfl⟩
    obtain ⟨candidate, rfl⟩ := staticCandidate?_eq_some_iff.mp read
    exact ⟨.surplus candidate listed selected, name, candidate.declares, rfl⟩

theorem gathers_surplus (path : Option String) (members : List Site) :
    Gathers (WarnsAbout settings source path) (spots members)
      ((surplusStatic settings source none members).map (surplusWarning source path)) :=
  ((gathers_tail members).map (surplusWarning source path)).congr fun _ _ => warnsAbout_iff.symm

end Gathered

def LastLender (members : List Site) (name : String) (node : Node) : Prop :=
  ∃ spot ∈ spots members, Lends settings source spot.here name ∧
    (∀ later ∈ spot.after, ¬ Lends settings source later name) ∧ spot.here.node = node

section Lenders

variable {settings source} {members : List Site} {name : String} {node : Node}

theorem lastValue?_hints_eq_some_iff :
    lastValue? (members.filterMap (hintMember? settings source)) name = some node ↔
      LastLender settings source members name node := by
  rw [lastValue?_filterMap_eq_some_iff, LastLender]
  refine exists_congr fun spot => and_congr_right fun _ => ?_
  have none (later : Site) : (∀ other, hintMember? settings source later ≠ some (name, other)) ↔
      ¬ Lends settings source later name := by
    simp only [ne_eq, hintMember?_eq_some_iff, not_and]
    exact ⟨fun unread lends => unread later.node lends rfl, fun idle _ lends => absurd lends idle⟩
  simp only [hintMember?_eq_some_iff, none, and_assoc, eq_comm (a := node), and_comm,
    and_left_comm]

theorem lastLender_iff_kept :
    LastLender settings source members name node ↔ ∃ spot ∈ spots members,
      Falls settings source spot .kept ∧ Declares source spot.here name ∧
        spot.here.node = node := by
  refine exists_congr fun spot => and_congr_right fun _ => ?_
  constructor
  · rintro ⟨lends, last, same⟩
    exact ⟨.kept lends last, lends.declares, same⟩
  · rintro ⟨falls, declares, same⟩
    cases falls with
    | kept lends last =>
      cases declares.unique lends.declares
      exact ⟨lends, last, same⟩

/-- If a later member lends its type to the name too, the last one is a later member. -/
theorem exists_lastValue?_of_later {spot : Spot Site} {later : Site} (placed : spot ∈ spots members)
    (listed : later ∈ spot.after) (lends : Lends settings source later name) :
    ∃ last ∈ spot.after, Lends settings source last name ∧
      lastValue? (members.filterMap (hintMember? settings source)) name = some last.node := by
  have read : (name, later.node) ∈ spot.after.filterMap (hintMember? settings source) :=
    List.mem_filterMap.mpr ⟨later, listed, hintMember?_eq_some_iff.mpr ⟨lends, rfl⟩⟩
  cases held : lastValue? (spot.after.filterMap (hintMember? settings source)) name with
  | none =>
    have absent := (lastValue?_eq_none_iff _ _).mp held
    exact absurd (List.mem_map_of_mem read) absent
  | some node =>
    obtain ⟨place, inside, lends, -, rfl⟩ := lastValue?_hints_eq_some_iff.mp held
    have last : place.here ∈ spot.after := by
      rw [mem_spots_iff.mp inside]
      simp
    refine ⟨place.here, last, lends, ?_⟩
    have split : spot.before ++ spot.here :: spot.after =
        (spot.before ++ [spot.here]) ++ spot.after := by
      simp
    rw [mem_spots_iff.mp placed, split, List.filterMap_append, lastValue?_append, held,
      Option.some_or]

end Lenders

/-- A class without nameless declarations is told by the groups of its members. -/
theorem partition_of_named (path : Option String) {members : List Site}
    (named : ∀ member ∈ members, ¬ IsNameless source member) :
    Partition settings source path members
      ⟨members.filterMap (decoratedMember? settings source),
        (members.findSome? (staticCandidate? settings source)).map Prod.snd,
        .ofPairs (members.filterMap (hintMember? settings source))⟩
      ((surplusStatic settings source none members).map (surplusWarning source path)) where
  grouped := by
    intro spot placed
    constructor
    · rintro ⟨group, falls, -⟩
      obtain ⟨name, declares⟩ := falls.declares
      exact declares.declaration
    · intro declaration
      have listed : spot.here ∈ members := by
        rw [mem_spots_iff.mp placed]
        simp
      obtain ⟨name, declares⟩ : ∃ name, Declares source spot.here name := by
        by_contra nameless
        exact named spot.here listed ⟨declaration, not_exists.mp nameless⟩
      obtain ⟨group, falls⟩ := Falls.exists_group declares
      exact ⟨group, falls, fun other fallsToo => fallsToo.unique falls⟩
  decorated := (Gathers.readings _ members).congr fun _ _ => falls_decorated_iff.symm
  selected := by
    have first := (gathers_findSome? (f := staticCandidate? settings source) members).map Prod.snd
    have all : (members.findSome? (staticCandidate? settings source)).toList.map Prod.snd =
        ((members.findSome? (staticCandidate? settings source)).map Prod.snd).toList := by
      cases members.findSome? (staticCandidate? settings source) <;> rfl
    rw [all] at first
    refine first.congr fun spot node => ?_
    rw [falls_selected_iff]
    constructor
    · rintro ⟨⟨name, other⟩, read, rfl⟩
      exact ⟨name, read⟩
    · exact fun ⟨name, read⟩ => ⟨(name, node), read, rfl⟩
  surplus := gathers_surplus path members
  kept := by
    intro name node
    rw [OrderedMap.get?_ofPairs, lastValue?_hints_eq_some_iff, lastLender_iff_kept]
  superseded := by
    intro spot placed falls
    cases falls with
    | superseded lends listed again =>
      obtain ⟨last, later, lendsToo, held⟩ := exists_lastValue?_of_later placed listed again
      refine ⟨_, lends.declares, last, later, lendsToo, ?_⟩
      rw [OrderedMap.get?_ofPairs, held]

/-- Either every member is told by its group, or the first nameless declaration is the error and
the warnings are those about the members before it. -/
theorem classification_partitions (path : Option String) (cls : Node) :
    let report := classify settings source path cls
    match report.outcome with
    | .ok found => Partition settings source path cls.classMembers found report.diagnostics
    | .error error => ∃ spot ∈ spots cls.classMembers,
        IsNameless source spot.here ∧ (∀ earlier ∈ spot.before, ¬ IsNameless source earlier) ∧
          error = .about .propertyName spot.here.node ∧
            Gathers (WarnsAbout settings source path) (spots spot.before) report.diagnostics := by
  intro report
  have outcome := outcome_classify settings source cls path
  have warnings := diagnostics_classify settings source cls path
  cases unnamed : cls.classMembers.find? isUnnamed with
  | none =>
    have named : ∀ member ∈ cls.classMembers, ¬ isUnnamed member = true :=
      List.find?_eq_none.mp unnamed
    have whole : namedPrefix cls.classMembers = cls.classMembers := by
      rw [namedPrefix, List.takeWhile_eq_self_iff]
      simpa using named
    rw [unnamed] at outcome
    rw [surplusWarnings, whole] at warnings
    simp only [report, outcome, warnings]
    exact partition_of_named settings source path fun member listed nameless =>
      named member listed (isUnnamed_iff.mpr nameless)
  | some offending =>
    obtain ⟨nameless, before, later, split, named⟩ := List.find?_eq_some_iff_append.mp unnamed
    have early : namedPrefix cls.classMembers = before := by
      rw [namedPrefix, split, List.takeWhile_append_of_pos (by simpa using named)]
      simp [nameless]
    rw [unnamed] at outcome
    rw [surplusWarnings, early] at warnings
    simp only [report, outcome, warnings]
    refine ⟨⟨before, offending, later⟩, mem_spots_iff.mpr split, isUnnamed_iff.mp nameless, ?_, rfl,
      gathers_surplus path before⟩
    intro earlier listed bad
    have fine := named earlier listed
    rw [isUnnamed_iff.mpr bad] at fine
    cases fine

end ReactiveProps.Property
