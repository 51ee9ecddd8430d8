import ReactiveProps.Proofs.Accounting
import ReactiveProps.Proofs.PairedSites

/-!
# Modules put one after the other

A lenient run over the statements of two modules gives what runs over each of them give: first the
elements and diagnostics of the first, then those of the second. Only the table of registered tags is
common to both, so that a class can take its tag from a registration in the other module.
-/
namespace ReactiveProps

namespace SyntaxTree

structure Node.IsProgram (root : Node) (statements : List Node) : Prop where
  kind : root.kind = .other "program"
  children : root.children = statements

namespace Site

/-- The same node in two modules: below the same parent, or a statement of both. -/
def Agrees (s t : Site) : Prop :=
  s.node = t.node ∧
    Option.Rel (fun p q => p = q ∨ p.kind = .other "program" ∧ q.kind = .other "program") s.parent
      t.parent

theorem Agrees.refl (s : Site) : Agrees s s := by
  refine ⟨rfl, ?_⟩
  cases s.parent with
  | none => exact .none
  | some p => exact .some (.inl rfl)

theorem childrenFrom_append (parent : Node) (earlier xs ys : List Node) :
    childrenFrom parent earlier (xs ++ ys) =
      childrenFrom parent earlier xs ++ childrenFrom parent (xs.reverse ++ earlier) ys := by
  induction xs generalizing earlier with
  | nil => rfl
  | cons x xs ih =>
    rw [List.cons_append, childrenFrom, ih, childrenFrom, List.reverse_cons, List.append_assoc]
    rfl

theorem forall₂_childrenFrom {p q : Node} (first : p.kind = .other "program")
    (second : q.kind = .other "program") (earlier earlier' nodes : List Node) :
    List.Forall₂ Agrees (childrenFrom p earlier nodes) (childrenFrom q earlier' nodes) := by
  induction nodes generalizing earlier earlier' with
  | nil => exact .nil
  | cons node rest ih => exact .cons ⟨rfl, .some (.inr ⟨first, second⟩)⟩ (ih _ _)

theorem forall₂_walkAll {first second : List Site} (agree : List.Forall₂ Agrees first second) :
    List.Forall₂ Agrees (walkAll first) (walkAll second) := by
  have down : ∀ s t, Agrees s t → Aligned Agrees (fun _ => False) s.children t.children := by
    intro s t same
    rw [children, children, same.1]
    exact .of_forall₂ (List.forall₂_same.mpr fun site _ => .refl site)
  exact (aligned_walkAll down (fun _ gap => gap.elim) (.of_forall₂ agree)).forall₂ fun _ => id

def below (root : Node) : List Site := walkAll (childrenFrom root [] root.children)

theorem walk_root (root : Node) : (Site.root root).walk = .root root :: below root := by
  rw [walk, walkAll, List.append_nil]
  rfl

variable {first second whole : Node} {xs ys : List Node} (isFirst : first.IsProgram xs)
  (isSecond : second.IsProgram ys) (isWhole : whole.IsProgram (xs ++ ys))

include isFirst isSecond isWhole

theorem forall₂_below : List.Forall₂ Agrees (below whole) (below first ++ below second) := by
  rw [below, below, below, isFirst.children, isSecond.children, isWhole.children,
    childrenFrom_append, walkAll_append]
  refine List.rel_append ?_ ?_
  · exact forall₂_walkAll (forall₂_childrenFrom isWhole.kind isFirst.kind [] [] xs)
  · exact forall₂_walkAll (forall₂_childrenFrom isWhole.kind isSecond.kind _ [] ys)

end Site

end SyntaxTree

namespace Element

open SyntaxTree Property

section Classes

variable (settings : Settings) (source : Source) {s t : Site} (agree : s.Agrees t)

include agree

theorem className?_eq_of_agrees : className? source s = className? source t := by
  have parents : s.parent.filter (·.kind == .variableDeclarator) =
      t.parent.filter (·.kind == .variableDeclarator) := by
    obtain ⟨-, parents⟩ := agree
    generalize s.parent = p, t.parent = q at parents ⊢
    cases parents with
    | none => rfl
    | some same =>
      rcases same with rfl | ⟨first, second⟩
      · rfl
      · rw [Option.filter_some, Option.filter_some, first, second]
        rfl
  rw [className?, className?, agree.1, parents]

theorem classDecorators_eq_of_agrees : s.classDecorators = t.classDecorators := by
  obtain ⟨node, parents⟩ := agree
  unfold Site.classDecorators
  rw [node]
  generalize s.parent = p, t.parent = q at parents ⊢
  cases parents with
  | none => rfl
  | some same =>
    rcases same with rfl | ⟨first, second⟩
    · rfl
    · simp [first, second]

theorem tag?_eq_of_agrees (definitions : OrderedMap String String) :
    tag? settings source definitions s = tag? settings source definitions t := by
  rw [tag?, tag?, decoratedTag?, decoratedTag?, classDecorators_eq_of_agrees agree,
    className?_eq_of_agrees source agree]

end Classes

variable (source : Source) {first second whole : Node} {xs ys : List Node}

theorem classesAt_of_isProgram {root : Node} (isProgram : root.IsProgram xs) :
    classesAt (.root root) =
      (Site.below root).filter fun found => found.node.named && found.node.kind.isClass := by
  have plain : root.kind.isClass = false := by
    rw [isProgram.kind]
    rfl
  rw [classesAt, Site.walk_root, List.filter_cons_of_neg]
  simp [Site.root, plain]

theorem registrations_of_isProgram {root : Node} (isProgram : root.IsProgram xs) :
    registrations source root = (Node.preorderAll xs).filterMap (definition? source) := by
  have call : definition? source root = none := by
    rw [definition?, isProgram.kind]
    rfl
  rw [registrations_eq, Node.preorder_eq, List.filterMap_cons, call, isProgram.children]

variable (isFirst : first.IsProgram xs) (isSecond : second.IsProgram ys)
  (isWhole : whole.IsProgram (xs ++ ys))

include isFirst isSecond isWhole

theorem forall₂_classesAt_append :
    List.Forall₂ Site.Agrees (classesAt (.root whole))
      (classesAt (.root first) ++ classesAt (.root second)) := by
  rw [classesAt_of_isProgram isFirst, classesAt_of_isProgram isSecond,
    classesAt_of_isProgram isWhole, ← List.filter_append]
  refine List.rel_filter (fun s t agree => ?_) (Site.forall₂_below isFirst isSecond isWhole)
  simp only [agree.1]

theorem definitions_append :
    definitions source whole =
      (definitions source first).insertAll (definitions source second).entries := by
  have registered : registrations source whole =
      registrations source first ++ registrations source second := by
    rw [registrations_of_isProgram source isFirst, registrations_of_isProgram source isSecond,
      registrations_of_isProgram source isWhole, Node.preorderAll_append, List.filterMap_append]
  rw [definitions, definitions, definitions, OrderedMap.insertAll_entries_ofPairs, registered,
    OrderedMap.ofPairs, OrderedMap.ofPairs, OrderedMap.insertAll_append]

theorem get?_definitions_append (name : String) :
    (definitions source whole).get? name =
      ((definitions source second).get? name).or ((definitions source first).get? name) := by
  rw [definitions_append source isFirst isSecond isWhole, OrderedMap.get?_insertAll,
    OrderedMap.lastValue?_entries]

end Element

namespace Analysis

open SyntaxTree Typing Property

section Halves

variable {settings : Settings} {resolver : Resolver} {source : Source} {path : Option String}

theorem element?_eq_of_agrees (definitions : OrderedMap String String) {s t : Site}
    (agree : s.Agrees t) :
    element? settings resolver source path definitions s =
      element? settings resolver source path definitions t := by
  have declared : declaration settings source definitions s =
      declaration settings source definitions t := by
    funext map
    rw [declaration, declaration, Element.className?_eq_of_agrees source agree,
      Element.tag?_eq_of_agrees settings source agree, agree.1]
  rw [element?, element?, agree.1, declared]

theorem findings_eq_of_agrees {s t : Site} (agree : s.Agrees t) :
    findings settings resolver source path s = findings settings resolver source path t := by
  have names := Element.className?_eq_of_agrees source agree
  have skips : skipped source path s = skipped source path t := by
    funext error
    rw [skipped, skipped, names]
  rw [findings, findings, rejection?, rejection?, agree.1, skips]

theorem gathered_eq_of_agrees (definitions : OrderedMap String String) {classes others : List Site}
    (agree : List.Forall₂ Site.Agrees classes others) :
    gathered settings resolver source path definitions classes =
      gathered settings resolver source path definitions others := by
  have aligned : Aligned Site.Agrees (fun _ => False) classes others := .of_forall₂ agree
  have elements := aligned.filterMap_eq (f := element? settings resolver source path definitions)
    (g := element? settings resolver source path definitions)
    (fun _ _ same => element?_eq_of_agrees definitions same) nofun
  have diagnostics : classes.map (findings settings resolver source path) =
      others.map (findings settings resolver source path) :=
    map_eq_of_forall₂ agree fun _ _ same => findings_eq_of_agrees same
  rw [gathered, gathered, elements, List.flatMap_def, List.flatMap_def, diagnostics]

end Halves

section ElementClasses

variable (settings : Settings) (source : Source) {first second whole : Node} {xs ys : List Node}
  (isFirst : first.IsProgram xs) (isSecond : second.IsProgram ys)
  (isWhole : whole.IsProgram (xs ++ ys))

include isFirst isSecond isWhole

theorem forall₂_elementSites_append :
    List.Forall₂ Site.Agrees (elementSites settings source whole)
      (elementSites settings source first ++ elementSites settings source second) := by
  rw [elementSites_eq_filter_classesAt, elementSites_eq_filter_classesAt,
    elementSites_eq_filter_classesAt, ← List.filter_append]
  refine List.rel_filter (fun s t agree => ?_)
    (Element.forall₂_classesAt_append isFirst isSecond isWhole)
  simp only [agree.1]

theorem judgeable_append :
    Judgeable settings whole ↔ Judgeable settings first ∧ Judgeable settings second := by
  have agree := Element.forall₂_classesAt_append isFirst isSecond isWhole
  constructor
  · rintro (usable | bare)
    · exact ⟨.inl usable, .inl usable⟩
    · have halves : ∀ cls ∈ Element.classesAt (.root first) ++ Element.classesAt (.root second),
          Element.heritage? cls.node = none := by
        intro cls listed
        obtain ⟨site, there, same⟩ := exists_of_mem agree.flip listed
        rw [← same.1]
        exact bare site there
      exact ⟨.inr fun cls listed => halves cls (List.mem_append_left _ listed),
        .inr fun cls listed => halves cls (List.mem_append_right _ listed)⟩
  · rintro ⟨usable | bare, usable' | bare'⟩
    · exact .inl usable
    · exact .inl usable
    · exact .inl usable'
    · refine .inr fun cls listed => ?_
      obtain ⟨site, there, same⟩ := exists_of_mem agree listed
      rw [same.1]
      rcases List.mem_append.mp there with early | late
      · exact bare site early
      · exact bare' site late

end ElementClasses

section Ends

variable {settings : Settings} {resolver : Resolver} {source : Source} {path : Option String}
  {tree : Parse} (never : NeverAborts resolver)

/-- The module of the classes of a tree, each with the tag that the tree registers for it. -/
def lenientModule (settings : Settings) (resolver : Resolver) (source : Source)
    (path : Option String) (root : Node) : Module :=
  gathered settings resolver source path (Element.definitions source root)
    (elementSites settings source root)

theorem result_of_not_judgeable (untold : ¬ Judgeable settings tree.root) :
    ∃ message, settings.baseClasses = .error message ∧
      (analyzeParsed ⟨resolver, false⟩ settings path ⟨source, tree⟩).result =
        .error (.badSetting message) := by
  obtain ⟨message, configured, failed⟩ :=
    elementClasses_of_not_judgeable settings source tree.root untold
  exact ⟨message, configured, result_of_elementClasses_error ⟨resolver, false⟩ failed⟩

include never

theorem result_of_judgeable (judgeable : Judgeable settings tree.root) :
    (analyzeParsed ⟨resolver, false⟩ settings path ⟨source, tree⟩).result =
      .ok (lenientModule settings resolver source path tree.root) :=
  result_lenient never (elementClasses_of_judgeable settings source tree.root judgeable)

theorem of_result_ok {module : Module}
    (returned : (analyzeParsed ⟨resolver, false⟩ settings path ⟨source, tree⟩).result =
      .ok module) :
    Judgeable settings tree.root ∧
      module = lenientModule settings resolver source path tree.root := by
  by_cases judgeable : Judgeable settings tree.root
  · rw [result_of_judgeable never judgeable] at returned
    cases returned
    exact ⟨judgeable, rfl⟩
  · obtain ⟨message, -, failed⟩ := result_of_not_judgeable judgeable
    rw [failed] at returned
    cases returned

theorem of_result_error {error : AnalysisError}
    (failed : (analyzeParsed ⟨resolver, false⟩ settings path ⟨source, tree⟩).result =
      .error error) :
    ¬ Judgeable settings tree.root ∧
      ∃ message, settings.baseClasses = .error message ∧ error = .badSetting message := by
  by_cases judgeable : Judgeable settings tree.root
  · rw [result_of_judgeable never judgeable] at failed
    cases failed
  · obtain ⟨message, configured, ended⟩ := result_of_not_judgeable judgeable
    rw [ended] at failed
    cases failed
    exact ⟨judgeable, message, configured, rfl⟩

end Ends

section Retagging

variable (settings : Settings) (source : Source)

/-- A declaration of a class of one module, made alone and together with another module that
registers `others`. They are the same but for the tag, and that differs only if no decorator gives it
and the other module registers the name of the class. -/
structure Retagged (root : Node) (others : OrderedMap String String)
    (alone together : ElementDeclaration) : Prop where
  same : { alone with tag := none } = { together with tag := none }
  tag : alone.tag = together.tag ∨ ∃ cls ∈ elementSites settings source root,
    (∃ definitions map, alone = declaration settings source definitions cls map) ∧
      Property.decoratedTag? settings source cls = none ∧
        others.contains ((Element.className? source cls).getD "") = true

/-- A module made of the statements of two modules, and the modules made of each. -/
structure Joined (first second : Node) (module other both : Module) : Prop where
  path : both.path = module.path
  elements : ∃ front back, both.elements = front ++ back ∧
    List.Forall₂ (Retagged settings source first (Element.definitions source second))
      module.elements front ∧
      List.Forall₂ (Retagged settings source second (Element.definitions source first))
        other.elements back
  diagnostics : both.diagnostics = module.diagnostics ++ other.diagnostics

variable {settings source} {resolver : Resolver} {path : Option String}

theorem forall₂_retagged {root : Node} {own others all : OrderedMap String String}
    (lookup : ∀ name, own.get? name = all.get? name ∨ others.contains name = true) :
    List.Forall₂ (Retagged settings source root others)
      ((elementSites settings source root).filterMap (element? settings resolver source path own))
      ((elementSites settings source root).filterMap
        (element? settings resolver source path all)) := by
  have listed : List.Forall₂ (fun s t => s = t ∧ s ∈ elementSites settings source root)
      (elementSites settings source root) (elementSites settings source root) :=
    List.forall₂_same.mpr fun _ inside => ⟨rfl, inside⟩
  refine forall₂_filterMap listed ?_
  rintro cls _ ⟨rfl, inside⟩
  unfold element?
  cases (properties settings resolver source path cls.node).outcome with
  | error error => exact .none
  | ok map =>
    refine .some ⟨rfl, ?_⟩
    simp only [declaration, Element.tag?]
    cases decorated : Property.decoratedTag? settings source cls with
    | some tag => exact .inl rfl
    | none =>
      rcases lookup ((Element.className? source cls).getD "") with same | registered
      · exact .inl (by rw [same])
      · exact .inr ⟨cls, inside, ⟨own, map, by rw [decorated]⟩, decorated, registered⟩

end Retagging

section Join

variable (settings : Settings) (resolver : Resolver) (source : Source) (path : Option String)
  {first second whole : Parse} {xs ys : List Node}

theorem joined_lenientModule (isFirst : first.root.IsProgram xs)
    (isSecond : second.root.IsProgram ys) (isWhole : whole.root.IsProgram (xs ++ ys)) :
    Joined settings source first.root second.root
      (lenientModule settings resolver source path first.root)
      (lenientModule settings resolver source path second.root)
      (lenientModule settings resolver source path whole.root) := by
  have agree := forall₂_elementSites_append settings source isFirst isSecond isWhole
  have lookup := Element.get?_definitions_append source isFirst isSecond isWhole
  have both : lenientModule settings resolver source path whole.root =
      gathered settings resolver source path (Element.definitions source whole.root)
        (elementSites settings source first.root ++ elementSites settings source second.root) :=
    gathered_eq_of_agrees (Element.definitions source whole.root) agree
  rw [both]
  refine ⟨rfl, ⟨_, _, List.filterMap_append, ?_, ?_⟩, List.flatMap_append⟩
  -- a tag of the whole that is not the class's own comes from the other half
  · refine forall₂_retagged fun name => ?_
    rw [lookup, OrderedMap.contains]
    cases (Element.definitions source second.root).get? name with
    | none => exact .inl rfl
    | some tag => exact .inr rfl
  · refine forall₂_retagged fun name => ?_
    rw [lookup, OrderedMap.contains]
    cases (Element.definitions source first.root).get? name with
    | none => exact .inl (Option.or_none).symm
    | some tag => exact .inr rfl

/-- A lenient run over the statements of two modules gives what the runs over each of them give, one
after the other; if one of these fails, so does the run over both. -/
theorem lenient_run_joins (never : NeverAborts resolver) (isFirst : first.root.IsProgram xs)
    (isSecond : second.root.IsProgram ys) (isWhole : whole.root.IsProgram (xs ++ ys)) :
    let result := fun tree =>
      (analyzeParsed ⟨resolver, false⟩ settings path ⟨source, tree⟩).result
    Element.definitions source whole.root =
        (Element.definitions source first.root).insertAll
          (Element.definitions source second.root).entries ∧
      (∀ module other, result first = .ok module → result second = .ok other →
        ∃ both, result whole = .ok both ∧
          Joined settings source first.root second.root module other both) ∧
        ∀ error, result first = .error error ∨ result second = .error error →
          result whole = .error error := by
  intro result
  have judgeable := judgeable_append settings isFirst isSecond isWhole
  refine ⟨Element.definitions_append source isFirst isSecond isWhole, ?_, ?_⟩
  · intro module other returned returned'
    obtain ⟨here, rfl⟩ := of_result_ok never returned
    obtain ⟨there, rfl⟩ := of_result_ok never returned'
    exact ⟨_, result_of_judgeable never (judgeable.mpr ⟨here, there⟩),
      joined_lenientModule settings resolver source path isFirst isSecond isWhole⟩
  · intro error failed
    have half : ¬ Judgeable settings whole.root ∧
        ∃ message, settings.baseClasses = .error message ∧ error = .badSetting message := by
      rcases failed with failed | failed
      · obtain ⟨untold, because⟩ := of_result_error never failed
        exact ⟨fun told => untold (judgeable.mp told).1, because⟩
      · obtain ⟨untold, because⟩ := of_result_error never failed
        exact ⟨fun told => untold (judgeable.mp told).2, because⟩
    obtain ⟨untold, message, configured, rfl⟩ := half
    obtain ⟨message', configured', ended⟩ := result_of_not_judgeable untold
    rw [configured] at configured'
    cases configured'
    exact ended

end Join

def threeStatementsSource : Source := .ofString
  ("class A extends LitElement\x7b\x7dcustomElements.define(\"a-b\",A);"
    ++ "class B extends LitElement\x7b\x7d")

def threeStatements : List Node := ((Node.ofRows? [
  namedRow (.other "program") 3 0 87 none,
  namedRow .classDeclaration 3 0 28 none,
  namedRow .typeIdentifier 0 6 7 (some .name),
  namedRow .classHeritage 1 8 26 none,
  namedRow .extendsClause 1 8 26 none,
  namedRow .identifier 0 16 26 (some .value),
  namedRow (.other "class_body") 0 26 28 (some .body),
  namedRow .expressionStatement 1 28 59 none,
  namedRow .callExpression 2 28 58 none,
  namedRow .memberExpression 0 28 49 (some .function),
  namedRow (.other "arguments") 2 49 58 (some .arguments),
  namedRow .stringLiteral 0 50 55 none,
  namedRow .identifier 0 56 57 none,
  namedRow .classDeclaration 3 59 87 none,
  namedRow .typeIdentifier 0 65 66 (some .name),
  namedRow .classHeritage 1 67 85 none,
  namedRow .extendsClause 1 67 85 none,
  namedRow .identifier 0 75 85 (some .value),
  namedRow (.other "class_body") 0 85 87 (some .body)]).map (·.children)).getD []

def programOf (statements : List Node) : Parse :=
  ⟨⟨0, .other "program", true, none, ⟨0, 87⟩, statements⟩, false⟩

theorem isProgram_programOf (statements : List Node) :
    (programOf statements).root.IsProgram statements := ⟨rfl, rfl⟩

/-- The class in front has no tag in a module of its own and the registered one in the whole. -/
theorem lenient_run_joins_threeStatements :
    let settings := Configuration.default.settings
    let front := threeStatements.take 1
    let back := threeStatements.drop 1
    let result := fun statements => (analyzeParsed ⟨syntactic, false⟩ settings none
      ⟨threeStatementsSource, programOf statements⟩).result
    NeverAborts syntactic ∧ (programOf front).root.IsProgram front ∧
      (programOf back).root.IsProgram back ∧
      (programOf (front ++ back)).root.IsProgram (front ++ back) ∧
      ∃ module other both, result front = .ok module ∧ result back = .ok other ∧
        result (front ++ back) = .ok both ∧
        Joined settings threeStatementsSource (programOf front).root (programOf back).root
          module other both ∧
        module.elements.map (·.tag) = [none] ∧ both.elements.map (·.tag) = [some "a-b", none] := by
  intro settings front back result
  obtain ⟨-, joins, -⟩ := lenient_run_joins settings syntactic threeStatementsSource none
    neverAborts_syntactic (isProgram_programOf front) (isProgram_programOf back)
    (isProgram_programOf (front ++ back))
  have alone : (result front).toOption.map (fun module => module.elements.map (·.tag)) =
      some [none] := by decide +kernel
  have rest : (result back).toOption.isSome = true := by decide +kernel
  have together : (result (front ++ back)).toOption.map
      (fun module => module.elements.map (·.tag)) = some [some "a-b", none] := by decide +kernel
  obtain ⟨module, kept, tag⟩ := Option.map_eq_some_iff.mp alone
  obtain ⟨other, kept'⟩ := Option.isSome_iff_exists.mp rest
  obtain ⟨whole, keptBoth, tags⟩ := Option.map_eq_some_iff.mp together
  have returned := toOption_eq_some_iff.mp kept
  have returned' := toOption_eq_some_iff.mp kept'
  obtain ⟨both, ended, joined⟩ := joins module other returned returned'
  have same : both = whole := Except.ok.inj (ended.symm.trans (toOption_eq_some_iff.mp keptBoth))
  refine ⟨neverAborts_syntactic, isProgram_programOf front, isProgram_programOf back,
    isProgram_programOf (front ++ back), module, other, both, returned, returned', ended, joined,
    tag, ?_⟩
  rw [same]
  exact tags

end Analysis

end ReactiveProps
