import Mathlib.Data.List.DropRight
import Mathlib.Data.List.Flatten
import ReactiveProps.Proofs.Ownership

/-!
# The member that a decorator belongs to

A decorator that stands in a class body belongs to the next member, if that is a method, and else to
no member. A decorator that stands in a member belongs to that member. So no two members of a class
have a decorator in common.
-/
namespace ReactiveProps.SyntaxTree

open Property

namespace Node

def isLead (node : Node) : Bool := node.kind == .decorator || node.kind == .comment

/-- The longest run of decorators and comments that ends right before a member of a body. -/
structure RunBefore (body member : Node) (run : List Node) : Prop where
  lead : ∀ sibling ∈ run, sibling.isLead = true
  longest : ∃ before after, body.namedChildren = before ++ run ++ member :: after ∧
    ∀ last ∈ before.getLast?, last.isLead = false

/-- The first named node after a decorator in a body that is neither decorator nor comment. -/
def Awaits (body decorator next : Node) : Prop :=
  ∃ before between after, body.namedChildren = before ++ decorator :: between ++ next :: after ∧
    (∀ sibling ∈ between, sibling.isLead = true) ∧ next.isLead = false

end Node

namespace Site

theorem precedingDecorators_eq (site : Site) :
    site.precedingDecorators =
      (site.earlierNamed.reverse.rtakeWhile Node.isLead).filter (·.kind == .decorator) := by
  rw [List.rtakeWhile, List.reverse_reverse, List.filter_reverse]
  rfl

end Site

section Body

variable {cls body : Node} (labelled : cls.child? .body = some body)

include labelled

theorem classMembers_eq :
    cls.classMembers = (Site.childrenFrom body [] body.children).filter fun site =>
      site.node.named && !site.node.isLead := by
  have same : ((Site.root cls).child? .body).map Site.node = some body :=
    (Site.map_node_child? _ _).trans labelled
  obtain ⟨site, found, rfl⟩ := Option.map_eq_some_iff.mp same
  rw [Node.classMembers, Site.classMembers, found]
  simp only [Site.items, Site.children, List.filter_filter]
  refine List.filter_congr fun child _ => ?_
  simp only [Node.isItem, Node.isLead, Bool.not_or, bne, Bool.and_left_comm]

theorem mem_classMembers_iff {member : Site} :
    member ∈ cls.classMembers ↔
      member ∈ Site.childrenFrom body [] body.children ∧ member.node.named = true ∧
        member.node.isLead = false := by
  rw [classMembers_eq labelled, List.mem_filter, Bool.and_eq_true, Bool.not_eq_true']

/-- The named nodes of a class body, split at one of its members. -/
theorem split_of_mem_classMembers {member : Site} (listed : member ∈ cls.classMembers) :
    ∃ after, body.namedChildren = member.earlierNamed.reverse ++ member.node :: after := by
  obtain ⟨child, named, -⟩ := (mem_classMembers_iff labelled).mp listed
  obtain ⟨-, before, after, split, front⟩ := Site.mem_childrenFrom_iff.mp child
  refine ⟨after.filter (·.named), ?_⟩
  rw [Node.namedChildren, split, List.filter_append, List.filter_cons_of_pos named,
    Site.earlierNamed, front, List.append_nil, List.filter_reverse, List.reverse_reverse]

theorem mem_children_of_mem_classMembers {member : Site} (listed : member ∈ cls.classMembers) :
    member.node ∈ body.children := by
  obtain ⟨child, -⟩ := (mem_classMembers_iff labelled).mp listed
  exact (Site.mem_of_mem_childrenFrom child).1

theorem runBefore_of_mem_classMembers {member : Site} (listed : member ∈ cls.classMembers) :
    body.RunBefore member.node (member.earlierNamed.reverse.rtakeWhile Node.isLead) where
  lead _ sibling := List.mem_rtakeWhile_imp sibling
  longest := by
    obtain ⟨after, split⟩ := split_of_mem_classMembers labelled listed
    refine ⟨member.earlierNamed.reverse.rdropWhile Node.isLead, after, ?_, ?_⟩
    · rw [List.rdropWhile_append_rtakeWhile, split]
    · intro last ends
      obtain ⟨some, same⟩ := List.mem_getLast?_eq_getLast ends
      rw [same]
      exact Bool.eq_false_iff.mpr (List.rdropWhile_last_not _ _ some)

/-- A node that is neither decorator nor comment is a member of its class. -/
theorem exists_member_of_awaits {decorator next : Node} (awaits : body.Awaits decorator next) :
    ∃ member ∈ cls.classMembers, member.node = next := by
  obtain ⟨before, between, after, split, -, content⟩ := awaits
  have named : next ∈ body.namedChildren := by
    rw [split]
    exact List.mem_append_right _ List.mem_cons_self
  obtain ⟨inside, isNamed⟩ := List.mem_filter.mp named
  obtain ⟨early, late, whole⟩ := List.mem_iff_append.mp inside
  have child : (⟨next, some body, early.reverse⟩ : Site) ∈
      Site.childrenFrom body [] body.children :=
    Site.mem_childrenFrom_iff.mpr ⟨rfl, early, late, whole, (List.append_nil _).symm⟩
  exact ⟨_, (mem_classMembers_iff labelled).mpr ⟨child, isNamed, content⟩, rfl⟩

end Body

section Distinct

variable {body : Node} (distinct : body.Distinct)

include distinct

theorem not_mem_preorderAll_children : body ∉ Node.preorderAll body.children := by
  have once := List.Nodup.of_map _ distinct
  rw [Node.preorder_eq] at once
  exact (List.nodup_cons.mp once).1

theorem nodup_children : body.children.Nodup := by
  have once := List.Nodup.of_map _ distinct
  rw [Node.preorder_eq, List.nodup_cons, Node.preorderAll_eq_flatMap] at once
  have first : ∀ child ∈ body.children, [child].Sublist child.preorder := fun child _ =>
    List.singleton_sublist.mpr (Node.mem_preorder_self child)
  have sublist := List.Sublist.flatMap_right body.children first
  rw [List.flatMap_singleton'] at sublist
  exact once.2.sublist sublist

/-- No child of a body is also the child of another one. -/
theorem not_mem_children_of_child {child node : Node} (below : child ∈ body.children)
    (inside : node ∈ body.children) : node ∉ child.children := by
  intro deeper
  have top := Node.mem_preorder_self body
  have same := Node.parent_unique distinct top (Node.mem_preorder_of_child below body top) inside
    deeper
  rw [← same] at below
  exact not_mem_preorderAll_children distinct (Node.mem_preorderAll_of_mem below)

/-- There is one way to split the named nodes of a body at one of them. -/
theorem split_unique {node : Node} {before after before' after' : List Node}
    (split : body.namedChildren = before ++ node :: after)
    (split' : body.namedChildren = before' ++ node :: after') : before = before' ∧ after = after' := by
  have once : body.namedChildren.Nodup := (nodup_children distinct).filter _
  rw [split, List.nodup_middle, List.nodup_cons, List.mem_append, not_or] at once
  obtain ⟨same, -, same'⟩ := (List.append_cons_inj_of_notMem once.1.1 once.1.2).mp
    (split.symm.trans split')
  exact ⟨same, same'⟩

theorem Node.Awaits.unique {decorator next other : Node} (awaits : body.Awaits decorator next)
    (awaitsToo : body.Awaits decorator other) : next = other := by
  obtain ⟨before, between, after, split, lead, content⟩ := awaits
  obtain ⟨before', between', after', split', lead', content'⟩ := awaitsToo
  rw [List.append_assoc, List.cons_append] at split split'
  have rest := (split_unique distinct split split').2
  -- both are the first node behind the decorator that is neither decorator nor comment
  have first : (between ++ next :: after).find? (!·.isLead) = some next :=
    List.find?_eq_some_iff_append.mpr ⟨by simp [content], between, after, rfl, by simpa using lead⟩
  have second : (between' ++ other :: after').find? (!·.isLead) = some other :=
    List.find?_eq_some_iff_append.mpr
      ⟨by simp [content'], between', after', rfl, by simpa using lead'⟩
  rw [rest, second] at first
  exact (Option.some.inj first).symm

variable {cls : Node} (labelled : cls.child? .body = some body)

include labelled

theorem nodup_classMembers : (cls.classMembers.map Site.node).Nodup := by
  rw [classMembers_eq labelled]
  refine (nodup_children distinct).sublist ?_
  have chosen := List.Sublist.map Site.node
    (List.filter_sublist (p := fun site : Site => site.node.named && !site.node.isLead)
      (l := Site.childrenFrom body [] body.children))
  rwa [Site.map_node_childrenFrom] at chosen

variable {member : Site} (listed : member ∈ cls.classMembers) {decorator : Node}

include listed

/-- The decorators right before a member are those that await it. -/
theorem mem_precedingDecorators_iff :
    decorator ∈ member.precedingDecorators ↔
      decorator.kind = .decorator ∧ body.Awaits decorator member.node := by
  obtain ⟨after, split⟩ := split_of_mem_classMembers labelled listed
  rw [Site.precedingDecorators_eq, List.mem_filter, beq_iff_eq, and_comm]
  refine and_congr_right fun kind => ?_
  constructor
  · intro inRun
    obtain ⟨lead, before, after', split', -⟩ := runBefore_of_mem_classMembers labelled listed
    obtain ⟨early, late, run⟩ := List.mem_iff_append.mp inRun
    refine ⟨before ++ early, late, after', ?_, ?_, ?_⟩
    · rw [split', run, List.append_assoc before early]
    · intro sibling later
      refine lead sibling ?_
      rw [run]
      exact List.mem_append_right early (List.mem_cons_of_mem decorator later)
    · exact ((mem_classMembers_iff labelled).mp listed).2.2
  · rintro ⟨before, between, after', split', lead, -⟩
    obtain ⟨same, -⟩ := split_unique distinct split split'
    have isLead : decorator.isLead = true := by
      rw [Node.isLead, kind]
      rfl
    rw [same, List.rtakeWhile, List.mem_reverse, List.reverse_append, List.reverse_cons,
      List.append_assoc, List.takeWhile_append_of_pos (by simpa using lead), List.singleton_append,
      List.takeWhile_cons_of_pos isLead]
    exact List.mem_append_right _ List.mem_cons_self

/-- A decorator that stands in a class body belongs to the method that it awaits. -/
theorem mem_memberDecorators_iff (inside : decorator ∈ body.decorators) :
    decorator ∈ member.memberDecorators ↔
      body.Awaits decorator member.node ∧ member.node.kind = .methodDefinition := by
  obtain ⟨child, kind⟩ := List.mem_filter.mp inside
  have below := mem_children_of_mem_classMembers labelled listed
  have notOwn : decorator ∉ member.node.decorators := fun own =>
    not_mem_children_of_child distinct below child (List.mem_filter.mp own).1
  unfold Site.memberDecorators
  split
  · next method =>
    rw [List.mem_append, mem_precedingDecorators_iff distinct labelled listed]
    simp [notOwn, method, beq_iff_eq.mp kind]
  · next other => simp [notOwn, other]

/-- A decorator of a member stands in the class body, where it awaits the member, or in the member
itself. -/
theorem cases_of_mem_memberDecorators (attached : decorator ∈ member.memberDecorators) :
    decorator ∈ body.children ∧ body.Awaits decorator member.node ∨
      decorator ∈ member.node.children := by
  unfold Site.memberDecorators at attached
  split at attached
  · rcases List.mem_append.mp attached with preceding | own
    · have awaits := (mem_precedingDecorators_iff distinct labelled listed).mp preceding
      obtain ⟨before, between, after, split, -⟩ := awaits.2
      have named : decorator ∈ body.namedChildren := by
        rw [split]
        simp
      exact .inl ⟨(List.mem_filter.mp named).1, awaits.2⟩
    · exact .inr (List.mem_filter.mp own).1
  · exact .inr (List.mem_filter.mp attached).1

theorem mem_preorder_of_mem_memberDecorators (attached : decorator ∈ member.memberDecorators) :
    decorator ∈ body.preorder := by
  have top := Node.mem_preorder_self body
  have below := mem_children_of_mem_classMembers labelled listed
  rcases cases_of_mem_memberDecorators distinct labelled listed attached with ⟨child, -⟩ | own
  · exact Node.mem_preorder_of_child child body top
  · exact Node.mem_preorder_of_child own body (Node.mem_preorder_of_child below body top)

/-- Members that have a decorator in common are the same. -/
theorem node_eq_of_mem_memberDecorators {other : Site} (listedToo : other ∈ cls.classMembers)
    (attached : decorator ∈ member.memberDecorators)
    (attachedToo : decorator ∈ other.memberDecorators) : member.node = other.node := by
  have top := Node.mem_preorder_self body
  have below := mem_children_of_mem_classMembers labelled listed
  have belowToo := mem_children_of_mem_classMembers labelled listedToo
  have place := cases_of_mem_memberDecorators distinct labelled listed attached
  have placeToo := cases_of_mem_memberDecorators distinct labelled listedToo attachedToo
  rcases place with ⟨child, awaits⟩ | own
  · rcases placeToo with ⟨-, awaitsToo⟩ | ownToo
    · exact awaits.unique distinct awaitsToo
    · exact absurd ownToo (not_mem_children_of_child distinct belowToo child)
  · rcases placeToo with ⟨childToo, -⟩ | ownToo
    · exact absurd own (not_mem_children_of_child distinct below childToo)
    · exact Node.parent_unique distinct (Node.mem_preorder_of_child below body top)
        (Node.mem_preorder_of_child belowToo body top) own ownToo

end Distinct

/-- A method has the decorators of the run right before it and its own, and any other member has
its own. So a decorator in a class body belongs to the member that it awaits, if that is a method,
and to no other, and two members have no decorator in common. -/
theorem decorators_belong_to_one_member (cls body : Node) (labelled : cls.child? .body = some body)
    (distinct : body.Distinct) :
    (∀ member ∈ cls.classMembers, ∃ run, body.RunBefore member.node run ∧
      member.memberDecorators =
        if member.node.kind = .methodDefinition then
          run.filter (·.kind == .decorator) ++ member.node.decorators
        else member.node.decorators) ∧
    (∀ decorator ∈ body.decorators,
      (∀ member ∈ cls.classMembers, decorator ∈ member.memberDecorators ↔
        body.Awaits decorator member.node ∧ member.node.kind = .methodDefinition) ∧
      ∀ next, body.Awaits decorator next → next.kind = .methodDefinition →
        ∃! member, member ∈ cls.classMembers ∧ decorator ∈ member.memberDecorators) ∧
    cls.classMembers.Pairwise fun member other => ∀ decorator ∈ member.memberDecorators,
      ∀ decorator' ∈ other.memberDecorators, decorator.id ≠ decorator'.id := by
  refine ⟨fun member listed => ?_, fun decorator inside => ⟨?_, ?_⟩, ?_⟩
  · refine ⟨_, runBefore_of_mem_classMembers labelled listed, ?_⟩
    rw [Site.memberDecorators, Site.precedingDecorators_eq]
  · intro member listed
    exact mem_memberDecorators_iff distinct labelled listed inside
  · intro next awaits method
    obtain ⟨member, listed, rfl⟩ := exists_member_of_awaits labelled awaits
    refine ⟨member, ⟨listed, ?_⟩, ?_⟩
    · exact (mem_memberDecorators_iff distinct labelled listed inside).mpr ⟨awaits, method⟩
    · rintro other ⟨listedToo, attached⟩
      have awaitsToo :=
        (mem_memberDecorators_iff distinct labelled listedToo inside).mp attached
      exact List.inj_on_of_nodup_map (nodup_classMembers distinct labelled) listedToo listed
        (awaitsToo.1.unique distinct awaits)
  · have apart : cls.classMembers.Pairwise fun member other => member.node ≠ other.node :=
      List.pairwise_map.mp (nodup_classMembers distinct labelled)
    refine apart.imp_of_mem fun listed listedToo differ decorator attached decorator' attached' => ?_
    intro same
    obtain rfl := Node.eq_of_id_eq distinct
      (mem_preorder_of_mem_memberDecorators distinct labelled listed attached)
      (mem_preorder_of_mem_memberDecorators distinct labelled listedToo attached') same
    exact differ (node_eq_of_mem_memberDecorators distinct labelled listed listedToo attached
      attached')

def decoratedMembers : Node := (Node.ofRows? [
  namedRow .classDeclaration 2 0 41 none,
  namedRow .typeIdentifier 0 6 7 (some .name),
  namedRow (.other "class_body") 7 7 41 (some .body),
  namedRow .decorator 1 8 10 none,
  namedRow .identifier 0 9 10 none,
  namedRow .comment 0 10 15 none,
  namedRow .decorator 1 15 17 none,
  namedRow .identifier 0 16 17 none,
  namedRow .methodDefinition 3 18 27 none,
  ⟨.getWord, false, none, ⟨18, 21⟩, 0⟩,
  namedRow .propertyIdentifier 0 22 23 (some .name),
  namedRow (.other "statement_block") 0 25 27 (some .body),
  namedRow .decorator 1 27 29 none,
  namedRow .identifier 0 28 29 none,
  namedRow (.other "method_signature") 1 30 33 none,
  namedRow .propertyIdentifier 0 30 31 (some .name),
  namedRow .publicFieldDefinition 3 34 40 none,
  namedRow .decorator 1 34 36 none,
  namedRow .identifier 0 35 36 none,
  namedRow .propertyIdentifier 0 37 38 (some .name),
  namedRow .number 0 39 40 (some .value)]).getD default

/-- The getter has the two decorators of its run, the signature has none and the field has its
own. -/
theorem decorators_belong_to_one_member_ofThree :
    ∃ body, decoratedMembers.child? .body = some body ∧ body.Distinct ∧
      (decoratedMembers.classMembers.map fun member => member.memberDecorators.map (·.id)) =
        [[3, 6], [], [17]] ∧
      (∀ member ∈ decoratedMembers.classMembers, ∃ run, body.RunBefore member.node run) ∧
      ∀ decorator ∈ body.decorators, ∀ member ∈ decoratedMembers.classMembers,
        decorator ∈ member.memberDecorators ↔
          body.Awaits decorator member.node ∧ member.node.kind = .methodDefinition := by
  have found : (decoratedMembers.child? .body).map (fun body => decide body.Distinct) =
      some true := by decide +kernel
  obtain ⟨body, labelled, verdict⟩ := Option.map_eq_some_iff.mp found
  have distinct := of_decide_eq_true verdict
  obtain ⟨runs, owners, -⟩ := decorators_belong_to_one_member decoratedMembers body labelled distinct
  refine ⟨body, labelled, distinct, by decide +kernel, fun member listed => ?_, ?_⟩
  · obtain ⟨run, before, -⟩ := runs member listed
    exact ⟨run, before⟩
  · exact fun decorator inside => (owners decorator inside).1

end ReactiveProps.SyntaxTree
