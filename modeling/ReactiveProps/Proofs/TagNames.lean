import ReactiveProps.Proofs.Ownership
import ReactiveProps.Proofs.Spots

/-!
# The tag of a class

A class has the tag that its first decorator with a tag gives it, else the tag of the last
registration of its name in the module.
-/
namespace ReactiveProps

namespace SyntaxTree.Site

/-- What holds of the sites of a stack, and of the children of a site of which it holds, holds of
all sites that are visited. -/
theorem forall_mem_walkAll {P : Site → Prop} (down : ∀ site, P site → ∀ child ∈ site.children, P child)
    {stack : List Site} (start : ∀ site ∈ stack, P site) : ∀ site ∈ walkAll stack, P site := by
  fun_induction walkAll stack with
  | case1 => exact List.forall_mem_nil P
  | case2 site rest ih =>
    obtain ⟨first, others⟩ := List.forall_mem_cons.mp start
    refine List.forall_mem_cons.mpr ⟨first, ih fun other listed => ?_⟩
    rcases List.mem_append.mp listed with below | later
    · exact down site first other below
    · exact others other later

/-- A site in a tree, below the node that it has for its parent. -/
structure PlacedIn (root : Node) (site : Site) : Prop where
  inside : site.node ∈ root.preorder
  parent : ∀ parent ∈ site.parent, parent ∈ root.preorder ∧ site.node ∈ parent.children

theorem placedIn_of_mem_walk {root : Node} {site : Site} (visited : site ∈ (Site.root root).walk) :
    site.PlacedIn root := by
  refine forall_mem_walkAll (P := PlacedIn root) ?_ ?_ site visited
  · intro above placed child below
    obtain ⟨same, before, after, split, -⟩ := mem_childrenFrom_iff.mp below
    have inside : child.node ∈ above.node.children := by
      rw [split]
      exact List.mem_append_right before List.mem_cons_self
    refine ⟨Node.mem_preorder_of_child inside root placed.inside, fun parent isParent => ?_⟩
    cases same.symm.trans isParent
    exact ⟨placed.inside, inside⟩
  · intro only listed
    cases List.mem_singleton.mp listed
    exact ⟨Node.mem_preorder_self root, nofun⟩

end SyntaxTree.Site

namespace Property

open SyntaxTree

variable {settings : Settings} {source : Source}

/-- A decorator that calls the element decorator with a string literal as its first argument. -/
inductive GivesTag (settings : Settings) (source : Source) (decorator : Node) : String → Prop
  | intro {call callee argument : Node} (written : decorator.items.head? = some call)
      (isCall : call.kind = .callExpression) (called : call.child? .function = some callee)
      (named : callee.kind = .identifier)
      (configured : settings.elementDecorator = some (source.text callee))
      (first : call.callArguments.head? = some argument)
      (literal : argument.kind = .stringLiteral) :
      GivesTag settings source decorator (source.unquoted argument)

theorem isNamed_iff {name : Option String} {node : Node} :
    isNamed source name node = true ↔ node.kind = .identifier ∧ name = some (source.text node) := by
  rw [isNamed, Bool.and_eq_true, beq_iff_eq, beq_iff_eq]

theorem decoratorUse?_eq_some_call_iff {name : Option String} {decorator call : Node} :
    decoratorUse? source name decorator = some (.call call) ↔
      decorator.items.head? = some call ∧ call.kind = .callExpression ∧ ∃ callee,
        call.child? .function = some callee ∧ callee.kind = .identifier ∧
          name = some (source.text callee) := by
  rw [decoratorUse?, Node.decoratorExpression?, Option.bind_eq_some_iff]
  constructor
  · rintro ⟨expression, written, used⟩
    split at used
    · cases used
    · obtain ⟨⟨isCall, called⟩, same⟩ := Option.ite_none_right_eq_some.mp used
      cases same
      obtain ⟨callee, called, named⟩ := (Option.any_eq_true ..).mp called
      exact ⟨written, isCall, callee, called, isNamed_iff.mp named⟩
  · rintro ⟨written, isCall, callee, called, named⟩
    have notBare : isNamed source name call = false := by simp [isNamed, isCall]
    refine ⟨call, written, ?_⟩
    rw [notBare, if_neg Bool.false_ne_true, if_pos]
    exact ⟨isCall, (Option.any_eq_true ..).mpr ⟨callee, called, isNamed_iff.mpr named⟩⟩

theorem decoratorTag?_eq_some_iff {decorator : Node} {tag : String} :
    decoratorTag? settings source decorator = some tag ↔ GivesTag settings source decorator tag := by
  unfold decoratorTag? decoratorArguments
  constructor
  · intro gives
    split at gives
    · cases gives
    · next argument rest arguments =>
      obtain ⟨literal, same⟩ := Option.ite_none_right_eq_some.mp gives
      obtain rfl := Option.some.inj same
      split at arguments
      · next call used =>
        obtain ⟨written, isCall, callee, called, named, configured⟩ :=
          decoratorUse?_eq_some_call_iff.mp used
        refine .intro written isCall called named configured ?_ literal
        rw [arguments, List.head?_cons]
      · cases arguments
  · rintro ⟨written, isCall, called, named, configured, first, literal⟩
    have used := decoratorUse?_eq_some_call_iff.mpr
      ⟨written, isCall, _, called, named, configured⟩
    obtain ⟨rest, arguments⟩ := List.head?_eq_some_iff.mp first
    rw [used]
    simp only [arguments, if_pos literal]

end Property

namespace Element

open SyntaxTree Property

variable {settings : Settings} {source : Source} {root : Node} {cls : Site}

def exportDecorators (cls : Site) : List Node :=
  ((cls.parent.filter (·.kind == .exportStatement)).map Node.decorators).getD []

def DecoratedAs (settings : Settings) (source : Source) (cls : Site) (tag : String) : Prop :=
  ∃ spot ∈ spots (exportDecorators cls ++ cls.node.decorators),
    GivesTag settings source spot.here tag ∧
      ∀ earlier ∈ spot.before, ∀ other, ¬ GivesTag settings source earlier other

/-- A call that registers a tag for the name of a class. -/
inductive Registers (source : Source) (call : Node) (name : String) : String → Prop
  | intro {callee tag cls : Node} {rest : List Node} (isCall : call.kind = .callExpression)
      (called : call.child? .function = some callee)
      (definer : source.text callee = "customElements.define" ∨
        source.text callee = "window.customElements.define")
      (arguments : call.callArguments = tag :: cls :: rest) (literal : tag.kind = .stringLiteral)
      (reference : cls.kind = .identifier) (names : source.text cls = name) :
      Registers source call name (source.unquoted tag)

/-- The tag of the last call in a module, in preorder, that registers one for a name. -/
def LastRegistered (source : Source) (root : Node) (name tag : String) : Prop :=
  ∃ spot ∈ spots root.preorder, Registers source spot.here name tag ∧
    ∀ later ∈ spot.after, ∀ other, ¬ Registers source later name other

inductive Named (source : Source) (cls : Site) : String → Prop
  | own {name : Node} (labelled : cls.node.child? .name = some name) :
      Named source cls (source.text name)
  | assigned {declarator name : Node} (unnamed : cls.node.child? .name = none)
      (parent : cls.parent = some declarator) (kind : declarator.kind = .variableDeclarator)
      (labelled : declarator.child? .name = some name) (reference : name.kind = .identifier) :
      Named source cls (source.text name)

theorem className?_eq_some_iff {name : String} :
    className? source cls = some name ↔ Named source cls name := by
  unfold className?
  cases labelled : cls.node.child? .name with
  | some node =>
    constructor
    · intro same
      obtain rfl := Option.some.inj same
      exact .own labelled
    · intro named
      cases named with
      | own labelled' =>
        cases labelled.symm.trans labelled'
        rfl
      | assigned unnamed => cases labelled.symm.trans unnamed
  | none =>
    simp only [Option.bind_eq_some_iff, Option.map_eq_some_iff, Option.filter_eq_some_iff,
      beq_iff_eq]
    constructor
    · rintro ⟨declarator, ⟨parent, kind⟩, node, ⟨labelled', reference⟩, rfl⟩
      exact .assigned labelled parent kind labelled' reference
    · intro named
      cases named with
      | own labelled' => cases labelled.symm.trans labelled'
      | assigned _ parent kind labelled' reference =>
        exact ⟨_, ⟨parent, kind⟩, _, ⟨labelled', reference⟩, rfl⟩

theorem decoratedTag?_eq_some_iff {tag : String} :
    decoratedTag? settings source cls = some tag ↔ DecoratedAs settings source cls tag := by
  have decorators : cls.classDecorators = exportDecorators cls ++ cls.node.decorators := by
    unfold Site.classDecorators exportDecorators
    cases cls.parent with
    | none => rfl
    | some parent =>
      rw [Option.filter_some]
      by_cases exported : parent.kind = .exportStatement
      · simp [exported]
      · simp [exported]
  simp only [decoratedTag?, decorators, List.findSome?_eq_some_iff, DecoratedAs, mem_spots_iff,
    Option.eq_none_iff_forall_ne_some, ne_eq, decoratorTag?_eq_some_iff]
  constructor
  · rintro ⟨before, decorator, after, split, gives, none⟩
    exact ⟨⟨before, decorator, after⟩, split, gives, none⟩
  · rintro ⟨⟨before, decorator, after⟩, split, gives, none⟩
    exact ⟨before, decorator, after, split, gives, none⟩

theorem definition?_eq_some_iff {call : Node} {name tag : String} :
    definition? source call = some (name, tag) ↔ Registers source call name tag := by
  unfold definition?
  constructor
  · intro defines
    obtain ⟨⟨isCall, called⟩, defines⟩ := Option.ite_none_right_eq_some.mp defines
    obtain ⟨callee, called, definer⟩ := (Option.any_eq_true ..).mp called
    split at defines
    · next first second rest arguments =>
      obtain ⟨⟨literal, reference⟩, same⟩ := Option.ite_none_right_eq_some.mp defines
      obtain ⟨names, rfl⟩ := Prod.mk.inj (Option.some.inj same)
      exact .intro isCall called (by simpa [definers] using definer) arguments literal reference
        names
    · cases defines
  · intro registers
    cases registers with
    | @intro callee _ _ _ isCall called definer arguments literal reference names =>
      have definer : source.text callee ∈ definers := by simpa [definers] using definer
      have calls : (call.child? .function).any (fun callee => source.text callee ∈ definers) :=
        (Option.any_eq_true ..).mpr ⟨callee, called, decide_eq_true definer⟩
      rw [if_pos ⟨isCall, calls⟩, arguments, ← names]
      exact if_pos ⟨literal, reference⟩

/-- The tag that a module registers for a name is that of its last registration. -/
theorem get?_definitions_eq_some_iff {name tag : String} :
    (definitions source root).get? name = some tag ↔ LastRegistered source root name tag := by
  rw [definitions, OrderedMap.get?_ofPairs, registrations_eq, lastValue?_filterMap_eq_some_iff]
  simp only [ne_eq, definition?_eq_some_iff]
  rfl

/-- No tag is registered for the empty name, if no identifier is empty. -/
theorem get?_definitions_empty
    (filled : ∀ node ∈ root.preorder, node.kind = .identifier → source.text node ≠ "") :
    (definitions source root).get? "" = none := by
  refine Option.eq_none_iff_forall_ne_some.mpr fun tag found => ?_
  obtain ⟨spot, placed, registers, -⟩ := get?_definitions_eq_some_iff.mp found
  cases registers with
  | @intro _ _ reference _ _ _ _ arguments _ kind names =>
    have call : spot.here ∈ root.preorder := by
      rw [mem_spots_iff.mp placed]
      exact List.mem_append_right _ List.mem_cons_self
    have listed : reference ∈ spot.here.itemsOf .arguments := by
      rw [Node.callArguments] at arguments
      rw [arguments]
      exact List.mem_cons_of_mem _ List.mem_cons_self
    obtain ⟨list, labelled, below⟩ := Node.exists_of_mem_itemsOf listed
    have inside := Node.mem_preorder_of_child (mem_children_of_child? labelled) root call
    exact filled reference (Node.mem_preorder_of_child below root inside) kind names

/-- A class has the tag that its first decorator with a tag gives it, else the tag of the last
registration of its name. A class without a name is in no registration. -/
theorem tag_of_first_decorator_or_last_registration (settings : Settings) (source : Source)
    (root : Node) (cls : Site) (listed : cls ∈ classesAt (.root root)) :
    cls.PlacedIn root ∧
    (∀ name, Named source cls name → ∀ tag,
      tag? settings source (definitions source root) cls = some tag ↔
        DecoratedAs settings source cls tag ∨
          (∀ other, ¬ DecoratedAs settings source cls other) ∧
            LastRegistered source root name tag) ∧
    ((∀ name, ¬ Named source cls name) →
      (∀ node ∈ root.preorder, node.kind = .identifier → source.text node ≠ "") → ∀ tag,
        tag? settings source (definitions source root) cls = some tag ↔
          DecoratedAs settings source cls tag) := by
  refine ⟨Site.placedIn_of_mem_walk (List.mem_filter.mp listed).1, fun name named tag => ?_,
    fun unnamed filled tag => ?_⟩
  · rw [tag?, className?_eq_some_iff.mpr named, Option.getD_some, Option.or_eq_some_iff,
      get?_definitions_eq_some_iff, decoratedTag?_eq_some_iff, Option.eq_none_iff_forall_ne_some]
    simp only [ne_eq, decoratedTag?_eq_some_iff]
  · have none : className? source cls = none :=
      Option.eq_none_iff_forall_ne_some.mpr fun name named =>
        unnamed name (className?_eq_some_iff.mp named)
    rw [tag?, none, Option.getD_none, get?_definitions_empty filled, Option.or_none,
      decoratedTag?_eq_some_iff]

def registeredTwiceSource : Source := .ofString
  ("@customElement class A\x7b\x7dcustomElements.define('x-a',A);"
    ++ "window.customElements.define(\"x-b\",A);(class\x7b\x7d)")

def registeredTwice : Node := (Node.ofRows? [
  namedRow (.other "program") 4 0 102 none,
  namedRow .classDeclaration 3 0 24 none,
  namedRow .decorator 1 0 14 none,
  namedRow .identifier 0 1 14 none,
  namedRow .typeIdentifier 0 21 22 (some .name),
  namedRow (.other "class_body") 0 22 24 (some .body),
  namedRow .expressionStatement 1 24 55 none,
  namedRow .callExpression 2 24 54 none,
  namedRow .memberExpression 0 24 45 (some .function),
  namedRow (.other "arguments") 2 45 54 (some .arguments),
  namedRow .stringLiteral 0 46 51 none,
  namedRow .identifier 0 52 53 none,
  namedRow .expressionStatement 1 55 93 none,
  namedRow .callExpression 2 55 92 none,
  namedRow .memberExpression 0 55 83 (some .function),
  namedRow (.other "arguments") 2 83 92 (some .arguments),
  namedRow .stringLiteral 0 84 89 none,
  namedRow .identifier 0 90 91 none,
  namedRow .expressionStatement 1 93 102 none,
  namedRow .parenthesized 1 93 102 none,
  namedRow .classWord 1 94 101 none,
  namedRow (.other "class_body") 0 99 101 (some .body)]).getD default

/-- The decorator of the first class gives no tag, so its last registration does. The second class
has no name. -/
theorem tag_of_first_decorator_or_last_registration_registeredTwice :
    let settings := Configuration.default.settings
    ∃ first second, classesAt (.root registeredTwice) = [first, second] ∧
      (Named registeredTwiceSource first "A" ∧
        LastRegistered registeredTwiceSource registeredTwice "A" "x-b") ∧
      (∀ name, ¬ Named registeredTwiceSource second name) ∧
        ∀ tag, tag? settings registeredTwiceSource
          (definitions registeredTwiceSource registeredTwice) second ≠ some tag := by
  intro settings
  have shape : ((classesAt (.root registeredTwice)).map fun cls =>
      (className? registeredTwiceSource cls, decoratedTag? settings registeredTwiceSource cls,
        tag? settings registeredTwiceSource
          (definitions registeredTwiceSource registeredTwice) cls)) =
        [(some "A", none, some "x-b"), (none, none, none)] := by decide +kernel
  obtain ⟨first, rest, listed, here, others⟩ := List.map_eq_cons_iff.mp shape
  obtain ⟨second, rfl, there⟩ := List.map_eq_singleton_iff.mp others
  simp only [Prod.mk.injEq] at here there
  have plain (cls : Site) (none : decoratedTag? settings registeredTwiceSource cls = none)
      (tag : String) : ¬ DecoratedAs settings registeredTwiceSource cls tag := fun decorated => by
    cases none.symm.trans (decoratedTag?_eq_some_iff.mpr decorated)
  have named := className?_eq_some_iff.mp here.1
  have unnamed (name : String) : ¬ Named registeredTwiceSource second name := fun named => by
    cases there.1.symm.trans (className?_eq_some_iff.mpr named)
  obtain ⟨-, ofNamed, -⟩ := tag_of_first_decorator_or_last_registration settings
    registeredTwiceSource registeredTwice first (by simp [listed])
  obtain ⟨-, -, ofUnnamed⟩ := tag_of_first_decorator_or_last_registration settings
    registeredTwiceSource registeredTwice second (by simp [listed])
  refine ⟨first, second, listed, ⟨named, ?_⟩, unnamed, fun tag found => ?_⟩
  · rcases (ofNamed "A" named "x-b").mp here.2.2 with decorated | ⟨-, last⟩
    · exact absurd decorated (plain first here.2.1 _)
    · exact last
  · exact plain second there.2.1 tag ((ofUnnamed unnamed (by decide +kernel) tag).mp found)

end Element

end ReactiveProps
