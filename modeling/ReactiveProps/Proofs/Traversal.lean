import ReactiveProps.Proofs.Addresses
import ReactiveProps.Proofs.Merge
import ReactiveProps.Proofs.PairedSites

/-!
# The stack loop goes in preorder

A loop takes a site off a stack, visits it and puts its children on the stack, until the stack is
empty. Each round leaves one node less to visit, so the loop ends, and the sites that it visits are
those of the recursive preorder: all that stand at or below the first one, in the order of their
numbers. The classes of a subtree are some of them, in the same order.
-/
namespace ReactiveProps

namespace SyntaxTree

theorem Node.sizeAll_reverse (nodes : List Node) : sizeAll nodes.reverse = sizeAll nodes := by
  induction nodes with
  | nil => rfl
  | cons node rest ih =>
    rw [List.reverse_cons, sizeAll_append, ih, sizeAll, sizeAll, sizeAll, Nat.add_zero,
      Nat.add_comm]

namespace Site

/-- One round of the loop. The top of a stack is its end. The children of the site on top take its
place, the leftmost uppermost. -/
inductive Round : List Site → Site → List Site → Prop
  | pop (rest : List Site) (top : Site) :
      Round (rest ++ [top]) top (rest ++ top.children.reverse)

inductive Visits : List Site → List Site → Prop
  | done : Visits [] []
  | round {stack next visited : List Site} {top : Site} (first : Round stack top next)
      (later : Visits next visited) : Visits stack (top :: visited)

section Loop

variable {stack next visited : List Site} {top : Site}

theorem pending_append (stack more : List Site) :
    pending (stack ++ more) = pending stack + pending more := by
  simp [pending, Node.sizeAll_append]

theorem pending_reverse (stack : List Site) : pending stack.reverse = pending stack := by
  rw [pending, List.map_reverse, Node.sizeAll_reverse]
  rfl

theorem pending_children (site : Site) : pending [site] = pending site.children + 1 := by
  simp [pending, Node.sizeAll, Node.size_eq]

/-- A round leaves one node less below the sites of the stack. -/
theorem Round.pending (round : Round stack top next) :
    Site.pending stack = Site.pending next + 1 := by
  cases round with
  | pop rest =>
    rw [pending_append, pending_append, pending_reverse, pending_children, Nat.add_assoc]

/-- A round visits the first of the sites still to come. -/
theorem Round.walkAll (round : Round stack top next) :
    Site.walkAll stack.reverse = top :: Site.walkAll next.reverse := by
  cases round with
  | pop rest =>
    simp [Site.walkAll]

theorem exists_visits (stack : List Site) : ∃ visited, Visits stack visited := by
  -- on the number of nodes below the stack, as a round can make the stack itself longer
  induction size : pending stack using Nat.strongRecOn generalizing stack with
  | ind nodes ih =>
    rcases List.eq_nil_or_concat stack with rfl | ⟨rest, top, rfl⟩
    · exact ⟨[], .done⟩
    · rw [List.concat_eq_append] at size ⊢
      have round := Round.pop rest top
      have fewer := round.pending
      obtain ⟨visited, later⟩ := ih (pending (rest ++ top.children.reverse)) (by omega) _ rfl
      exact ⟨top :: visited, .round round later⟩

theorem Visits.eq_walkAll (visits : Visits stack visited) : visited = walkAll stack.reverse := by
  induction visits with
  | done => rw [List.reverse_nil, walkAll]
  | round first _ ih => rw [first.walkAll, ih]

/-- The loop ends, with the sites that the recursion on the stack gives. -/
theorem visits_iff : Visits stack visited ↔ visited = walkAll stack.reverse := by
  constructor
  · exact Visits.eq_walkAll
  · rintro rfl
    obtain ⟨visited, visits⟩ := exists_visits stack
    exact visits.eq_walkAll ▸ visits

end Loop

theorem walkAll_eq_flatMap (stack : List Site) : walkAll stack = stack.flatMap walk := by
  induction stack with
  | nil => rw [walkAll]; rfl
  | cons site rest ih =>
    rw [← List.singleton_append, walkAll_append, ih]
    rfl

/-- The recursive preorder: a site, then what is visited from each of its children. -/
theorem walk_eq (site : Site) : site.walk = site :: site.children.flatMap walk := by
  rw [walk, walkAll, List.append_nil, walkAll_eq_flatMap]

/-- What is visited from children stands at the addresses in them. -/
theorem map_reach?_addressesFrom {site : Site} (before rest : List Site)
    (split : site.children = before ++ rest)
    (each : ∀ child ∈ rest, child.node.addresses.map child.reach? = child.walk.map some) :
    (Node.addressesFrom before.length (rest.map node)).map site.reach? =
      (rest.flatMap walk).map some := by
  induction rest generalizing before with
  | nil => rfl
  | cons child rest ih =>
    have stands : site.children[before.length]? = some child := by
      rw [split, List.getElem?_append_right (Nat.le_refl _), Nat.sub_self]
      rfl
    have inChild : (child.node.addresses.map (before.length :: ·)).map site.reach? =
        child.walk.map some := by
      rw [List.map_map, ← each child List.mem_cons_self]
      refine List.map_congr_left fun below _ => ?_
      rw [Function.comp_apply, reach?, stands, Option.bind_some]
    have inRest := ih (before ++ [child]) (by rw [split, List.append_assoc]; rfl)
      fun other listed => each other (List.mem_cons_of_mem _ listed)
    rw [List.length_append, List.length_singleton] at inRest
    rw [List.map_cons, Node.addressesFrom, List.map_append, inChild, inRest, List.flatMap_cons,
      List.map_append]

/-- What is visited stands at the addresses of the subtree, in their order. -/
theorem map_reach?_addresses (site : Site) :
    site.node.addresses.map site.reach? = site.walk.map some := by
  induction same : site.node using Node.induction generalizing site with
  | step top ih =>
    subst same
    have each : ∀ child ∈ site.children,
        child.node.addresses.map child.reach? = child.walk.map some := fun child listed =>
      ih child.node (map_node_children site ▸ List.mem_map_of_mem listed) child rfl
    have below := map_reach?_addressesFrom [] site.children rfl each
    rw [map_node_children, List.length_nil] at below
    rw [Node.addresses_eq, List.map_cons, below, walk_eq site]
    rfl

theorem mem_addresses_iff {site : Site} {address : Address} :
    address ∈ site.node.addresses ↔ ∃ found, site.reach? address = some found := by
  constructor
  · intro listed
    have reached := List.mem_map_of_mem (f := site.reach?) listed
    rw [map_reach?_addresses, List.mem_map] at reached
    obtain ⟨found, -, same⟩ := reached
    exact ⟨found, same.symm⟩
  · rintro ⟨found, reached⟩
    exact mem_addresses_of_reach? reached

theorem length_walk (site : Site) : site.walk.length = site.node.size := by
  have lengths := congrArg List.length site.map_reach?_addresses
  rw [List.length_map, List.length_map, Node.length_addresses] at lengths
  exact lengths.symm

end Site

theorem Node.length_preorder (node : Node) : node.preorder.length = node.size := by
  rw [← walk_eq_preorder, walk, List.length_map, Site.length_walk]
  rfl

/-- The sites are those that stand in a tree at an address or below it and that pass a test, in the
order of their numbers. -/
structure Enumerates (root : Node) (address : Address) (chosen : Site → Bool)
    (places : List Address) (sites : List Site) : Prop where
  stand : places.map (Site.root root).reach? = sites.map some
  complete : ∀ place, place ∈ places ↔ address <+: place ∧
    ∃ found, (Site.root root).reach? place = some found ∧ chosen found = true
  rising : (places.map root.number).Pairwise (· < ·)

namespace Enumerates

variable {root : Node} {address : Address} {chosen : Site → Bool} {places : List Address}
  {sites : List Site}

theorem of_walk {site : Site} (stands : (Site.root root).reach? address = some site) :
    Enumerates root address (fun _ => true) (site.node.addresses.map (address ++ ·)) site.walk where
  stand := by
    rw [List.map_map, ← Site.map_reach?_addresses]
    refine List.map_congr_left fun below _ => ?_
    rw [Function.comp_apply, Site.reach?_append, stands, Option.bind_some]
  complete place := by
    simp only [List.mem_map, Site.mem_addresses_iff, and_true]
    constructor
    · rintro ⟨below, ⟨found, reached⟩, rfl⟩
      refine ⟨List.prefix_append address below, found, ?_⟩
      rw [Site.reach?_append, stands, Option.bind_some, reached]
    · rintro ⟨⟨below, rfl⟩, found, reached⟩
      rw [Site.reach?_append, stands, Option.bind_some] at reached
      exact ⟨below, ⟨found, reached⟩, rfl⟩
  rising := by
    rw [Site.map_number_block stands]
    exact List.pairwise_lt_range'

/-- A filter leaves the sites that pass it, at the places where they stand. -/
theorem filter (listing : Enumerates root address (fun _ => true) places sites)
    (chosen : Site → Bool) :
    Enumerates root address chosen
      (places.filter fun place => ((Site.root root).reach? place).any chosen)
      (sites.filter chosen) where
  stand := by
    have kept := congrArg (List.filter (Option.any chosen)) listing.stand
    rw [List.filter_map, List.filter_map] at kept
    exact kept
  complete place := by
    rw [List.mem_filter, listing.complete, Option.any_eq_true]
    constructor
    · rintro ⟨⟨below, -⟩, passes⟩
      exact ⟨below, passes⟩
    · rintro ⟨below, found, reached, passes⟩
      exact ⟨⟨below, found, reached, rfl⟩, found, reached, passes⟩
  rising := listing.rising.sublist (List.filter_sublist.map root.number)

/-- What stands below a listed place is listed later. -/
theorem lt_of_below (listing : Enumerates root address chosen places sites) {i j : Nat}
    {outer below : Address} (first : places[i]? = some outer)
    (second : places[j]? = some (outer ++ below)) (proper : below ≠ []) : i < j := by
  obtain ⟨-, above, stands, -⟩ := (listing.complete outer).mp (List.mem_of_getElem? first)
  obtain ⟨-, inner, reached, -⟩ :=
    (listing.complete (outer ++ below)).mp (List.mem_of_getElem? second)
  rw [Site.reach?_append, stands, Option.bind_some] at reached
  have less := Site.number_lt_of_below stands proper reached
  obtain ⟨inBounds, rfl⟩ := List.getElem?_eq_some_iff.mp first
  obtain ⟨inBoundsToo, same⟩ := List.getElem?_eq_some_iff.mp second
  rw [← same] at less
  by_contra notLess
  rcases Nat.lt_or_eq_of_le (Nat.not_lt.mp notLess) with later | rfl
  · have rising := List.pairwise_iff_getElem.mp (List.pairwise_map.mp listing.rising)
    exact Nat.lt_asymm less (rising j i inBoundsToo inBounds later)
  · exact Nat.lt_irrefl _ less

end Enumerates

/-! ## Trees read from a listing -/

section Listings

/-- A listing numbers its rows. -/
theorem Row.map_id_of_forest? {first : Nat} {rows : List Row} {trees : List Node}
    (reads : Row.forest? first rows = some trees) :
    (Node.preorderAll trees).map Node.id = List.range' first rows.length := by
  induction rows generalizing first trees with
  | nil =>
    cases reads
    rfl
  | cons row rest ih =>
    obtain ⟨following, later, planted⟩ := Option.bind_eq_some_iff.mp reads
    rw [Row.plant] at planted
    split at planted
    · cases planted
      rw [Node.preorderAll, Node.preorder_eq, List.cons_append, ← Node.preorderAll_append,
        List.take_append_drop, List.map_cons, ih later, List.length_cons, List.range'_succ]
    · cases planted

variable {rows : List Row} {root : Node} (reads : Node.ofRows? rows = some root)

include reads

theorem Node.map_id_of_ofRows? : root.preorder.map Node.id = List.range root.size := by
  unfold Node.ofRows? at reads
  split at reads
  · next only forest =>
    cases reads
    have ids := Row.map_id_of_forest? forest
    rw [preorderAll, preorderAll, List.append_nil] at ids
    have lengths := congrArg List.length ids
    rw [List.length_map, List.length_range', length_preorder] at lengths
    rw [ids, lengths, List.range_eq_range']
  · cases reads

/-- A node of a tree that is read from a listing carries its number. -/
theorem Site.id_of_ofRows? {address : Address} {site : Site}
    (stands : (Site.root root).reach? address = some site) :
    site.node.id = root.number address := by
  have walked : root.addresses.map (Site.root root).reach? = (Site.root root).walk.map some :=
    map_reach?_addresses (.root root)
  have numbered : (root.addresses.map (Site.root root).reach?).map (Option.map (·.node.id)) =
      (root.addresses.map root.number).map some := by
    calc (root.addresses.map (Site.root root).reach?).map (Option.map (·.node.id))
        = (((Site.root root).walk.map node).map Node.id).map some := by simp [walked]
      _ = (List.range root.size).map some := by
          rw [map_node_walk]
          exact congrArg _ (Node.map_id_of_ofRows? reads)
      _ = (root.addresses.map root.number).map some := by rw [Node.map_number_all]
  rw [List.map_map, List.map_map, List.map_inj_left] at numbered
  have here := numbered address (mem_addresses_of_reach? stands)
  rw [Function.comp_apply, stands] at here
  exact Option.some.inj here

/-- In a tree that is read from a listing the sites that are enumerated carry the numbers of their
places. -/
theorem Enumerates.map_number_of_ofRows? {address : Address} {chosen : Site → Bool}
    {places : List Address} {sites : List Site}
    (listing : Enumerates root address chosen places sites) :
    places.map root.number = sites.map (·.node.id) := by
  refine (List.map_inj_right fun _ _ => Option.some.inj).mp ?_
  calc (places.map root.number).map some
      = (places.map (Site.root root).reach?).map (Option.map (·.node.id)) := by
        rw [List.map_map, List.map_map]
        refine List.map_congr_left fun place listed => ?_
        obtain ⟨-, found, stands, -⟩ := (listing.complete place).mp listed
        simp [stands, Site.id_of_ofRows? reads stands]
    _ = (sites.map some).map (Option.map (·.node.id)) := by rw [listing.stand]
    _ = (sites.map (·.node.id)).map some := by simp

end Listings

end SyntaxTree

namespace Element

open SyntaxTree Property

/-- From a site that stands in a tree the loop ends and visits the recursive preorder. The visited
sites are all that stand at the site's address or below it, each at one place, and their numbers are
as many as there are nodes in the subtree, one after the other from the number of the site. Among
them the classes come in the order of their numbers, each before the classes in it. -/
theorem walk_lists_block_of_preorder {root : Node} {address : Address} {site : Site}
    (stands : (Site.root root).reach? address = some site) :
    (∀ visited, Site.Visits [site] visited ↔ visited = site.walk) ∧
      site.walk = site :: site.children.flatMap Site.walk ∧
      site.walk.map Site.node = site.node.preorder ∧ site.node.walk = site.node.preorder ∧
      (∃ block, Enumerates root address (fun _ => true) block site.walk ∧
        block.map root.number = List.range' (root.number address) site.node.size) ∧
      ∃ places, Enumerates root address
          (fun found => found.node.named && found.node.kind.isClass) places (classesAt site) ∧
        ∀ (i j : Nat) (outer below : Address), places[i]? = some outer →
          places[j]? = some (outer ++ below) → below ≠ [] → i < j := by
  have listing := Enumerates.of_walk stands
  refine ⟨fun visited => Site.visits_iff, site.walk_eq, site.map_node_walk,
    site.node.walk_eq_preorder, ?_, ?_⟩
  · exact ⟨_, listing, Site.map_number_block stands⟩
  · have classes := listing.filter fun found => found.node.named && found.node.kind.isClass
    exact ⟨_, classes, fun i j outer below => classes.lt_of_below⟩

/-- The module `class A{static m=class{}}class B{}`, with all its tokens. -/
def classInField : List Row := [
  namedRow (.other "program") 2 0 34 none,
  namedRow .classDeclaration 3 0 25 none,
  ⟨.classWord, false, none, ⟨0, 5⟩, 0⟩,
  namedRow .typeIdentifier 0 6 7 (some .name),
  namedRow (.other "class_body") 3 7 25 (some .body),
  ⟨.other "\x7b", false, none, ⟨7, 8⟩, 0⟩,
  namedRow .publicFieldDefinition 4 8 24 none,
  ⟨.staticWord, false, none, ⟨8, 14⟩, 0⟩,
  namedRow .propertyIdentifier 0 15 16 (some .name),
  ⟨.other "=", false, none, ⟨16, 17⟩, 0⟩,
  namedRow .classWord 2 17 24 (some .value),
  ⟨.classWord, false, none, ⟨17, 22⟩, 0⟩,
  namedRow (.other "class_body") 2 22 24 (some .body),
  ⟨.other "\x7b", false, none, ⟨22, 23⟩, 0⟩,
  ⟨.other "\x7d", false, none, ⟨23, 24⟩, 0⟩,
  ⟨.other "\x7d", false, none, ⟨24, 25⟩, 0⟩,
  namedRow .classDeclaration 3 25 34 none,
  ⟨.classWord, false, none, ⟨25, 30⟩, 0⟩,
  namedRow .typeIdentifier 0 31 32 (some .name),
  namedRow (.other "class_body") 2 32 34 (some .body),
  ⟨.other "\x7b", false, none, ⟨32, 33⟩, 0⟩,
  ⟨.other "\x7d", false, none, ⟨33, 34⟩, 0⟩]

/-- The first class has the numbers from 1 to 15. It is listed before the class in it, and the
keywords are not listed. -/
theorem walk_lists_block_of_preorder_classInField :
    ∃ root site, Node.ofRows? classInField = some root ∧
      (Site.root root).reach? [0] = some site ∧
      (∀ visited, Site.Visits [site] visited ↔ visited = site.walk) ∧
      (∃ block, Enumerates root [0] (fun _ => true) block site.walk ∧
        block.map root.number = List.range' 1 15) ∧
      ∃ places, Enumerates root [0]
          (fun found => found.node.named && found.node.kind.isClass) places (classesAt site) ∧
        places.map root.number = [1, 10] := by
  have found : (Node.ofRows? classInField).map (fun root =>
      ((Site.root root).reach? [0]).map fun site =>
        (root.number [0], site.node.size, (classesAt site).map (·.node.id))) =
      some (some (1, 15, [1, 10])) := by decide +kernel
  obtain ⟨root, reads, answers⟩ := Option.map_eq_some_iff.mp found
  obtain ⟨site, stands, answers⟩ := Option.map_eq_some_iff.mp answers
  obtain ⟨number, size, ids⟩ := by simpa only [Prod.mk.injEq] using answers
  obtain ⟨ends, -, -, -, ⟨block, listing, numbers⟩, places, classes, -⟩ :=
    walk_lists_block_of_preorder stands
  rw [number, size] at numbers
  refine ⟨root, site, reads, stands, ends, ⟨block, listing, numbers⟩, places, classes, ?_⟩
  rw [classes.map_number_of_ofRows? reads, ids]

end Element

end ReactiveProps
