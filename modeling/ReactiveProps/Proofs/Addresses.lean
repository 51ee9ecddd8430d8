import ReactiveProps.Proofs.Surroundings

/-!
# Addresses in a tree

The address of a node says which child to take, level by level, on the way down to it. Preorder puts
the addresses of a tree in lexicographic order, so each is listed once and has a number. What stands
below one address is a block of this list.
-/
namespace ReactiveProps

section Blocks

variable {α : Type} [BEq α] [LawfulBEq α]

/-- Where no element is listed twice, the elements of a block have one index after the other. -/
theorem map_idxOf_block {before block after : List α} (once : (before ++ block ++ after).Nodup) :
    (block.map fun x => (before ++ block ++ after).idxOf x) =
      List.range' before.length block.length := by
  refine List.ext_getElem (by simp) fun i listed _ => ?_
  rw [List.length_map] at listed
  have whole : before.length + i < (before ++ block ++ after).length := by
    simp only [List.length_append]
    omega
  have same : block[i] = (before ++ block ++ after)[before.length + i] := by
    rw [List.getElem_append_left (by simp [listed]), List.getElem_append_right (by omega)]
    simp
  rw [List.getElem_map, same, once.idxOf_getElem, List.getElem_range', Nat.one_mul]

end Blocks

namespace SyntaxTree

/-- Which child to take at each level. -/
abbrev Address := List Nat

namespace Node

mutual

def addresses : Node → List Address
  | ⟨_, _, _, _, _, children⟩ => [] :: addressesFrom 0 children

def addressesFrom : Nat → List Node → List Address
  | _, [] => []
  | index, child :: rest => child.addresses.map (index :: ·) ++ addressesFrom (index + 1) rest

end

/-- The index of an address in the preorder of a tree. -/
def number (root : Node) (address : Address) : Nat := root.addresses.idxOf address

theorem addresses_eq (node : Node) : node.addresses = [] :: addressesFrom 0 node.children := by
  cases node; rw [addresses]

mutual

theorem length_addresses : ∀ node : Node, node.addresses.length = node.size
  | ⟨_, _, _, _, _, children⟩ => by
    rw [addresses, size, List.length_cons, length_addressesFrom 0 children]

theorem length_addressesFrom : ∀ (index : Nat) (nodes : List Node),
    (addressesFrom index nodes).length = sizeAll nodes
  | _, [] => rfl
  | index, child :: rest => by
    rw [addressesFrom, sizeAll, List.length_append, List.length_map, length_addresses child,
      length_addressesFrom (index + 1) rest]

end

theorem mem_addressesFrom_iff {index : Nat} {nodes : List Node} {address : Address} :
    address ∈ addressesFrom index nodes ↔ ∃ skipped child below, nodes[skipped]? = some child ∧
      below ∈ child.addresses ∧ address = (index + skipped) :: below := by
  induction nodes generalizing index with
  | nil => simp [addressesFrom]
  | cons node rest ih =>
    rw [addressesFrom, List.mem_append, List.mem_map, ih]
    constructor
    · rintro (⟨below, listed, rfl⟩ | ⟨skipped, child, below, stands, listed, rfl⟩)
      · exact ⟨0, node, below, rfl, listed, rfl⟩
      · exact ⟨skipped + 1, child, below, stands, listed, by rw [Nat.add_right_comm]; rfl⟩
    · rintro ⟨skipped, child, below, stands, listed, rfl⟩
      cases skipped with
      | zero =>
        cases stands
        exact .inl ⟨below, listed, rfl⟩
      | succ skipped =>
        exact .inr ⟨skipped, child, below, stands, listed, by rw [Nat.add_right_comm]; rfl⟩

mutual

/-- Preorder is the lexicographic order of addresses. -/
theorem pairwise_addresses : ∀ node : Node, node.addresses.Pairwise (· < ·)
  | ⟨_, _, _, _, _, children⟩ => by
    rw [addresses, List.pairwise_cons]
    refine ⟨fun address listed => ?_, pairwise_addressesFrom 0 children⟩
    obtain ⟨skipped, child, below, -, -, rfl⟩ := mem_addressesFrom_iff.mp listed
    exact List.nil_lt_cons _ _

theorem pairwise_addressesFrom : ∀ (index : Nat) (nodes : List Node),
    (addressesFrom index nodes).Pairwise (· < ·)
  | _, [] => .nil
  | index, child :: rest => by
    rw [addressesFrom, List.pairwise_append, List.pairwise_map]
    refine ⟨?_, pairwise_addressesFrom (index + 1) rest, ?_⟩
    · refine (pairwise_addresses child).imp fun less => ?_
      exact List.cons_lt_cons_iff.mpr (.inr ⟨rfl, less⟩)
    · intro address listed other listedToo
      obtain ⟨below, -, rfl⟩ := List.mem_map.mp listed
      obtain ⟨skipped, later, below', -, -, rfl⟩ := mem_addressesFrom_iff.mp listedToo
      exact List.cons_lt_cons_iff.mpr (.inl (by omega))

end

theorem nodup_addresses (node : Node) : node.addresses.Nodup := node.pairwise_addresses.nodup

/-- The numbers of all addresses are the numbers up to the size of the tree, in order. -/
theorem map_number_all (root : Node) : root.addresses.map root.number = List.range root.size := by
  have once : ([] ++ root.addresses ++ []).Nodup := by simpa using root.nodup_addresses
  have numbers := map_idxOf_block once
  rw [List.nil_append, List.append_nil, List.length_nil, length_addresses] at numbers
  rw [List.range_eq_range', ← numbers]
  rfl

/-- The addresses in one child stand together. -/
theorem infix_addressesFrom {nodes : List Node} {skipped : Nat} {child : Node}
    (stands : nodes[skipped]? = some child) (index : Nat) :
    child.addresses.map ((index + skipped) :: ·) <:+: addressesFrom index nodes := by
  induction nodes generalizing index skipped with
  | nil => cases stands
  | cons node rest ih =>
    rw [addressesFrom]
    cases skipped with
    | zero =>
      cases stands
      exact (List.prefix_append _ _).isInfix
    | succ skipped =>
      have later := ih stands (index + 1)
      rw [Nat.add_right_comm] at later
      exact later.trans (List.suffix_append _ _).isInfix

end Node

namespace Site

def reach? : Site → Address → Option Site
  | site, [] => some site
  | site, index :: below => site.children[index]?.bind (·.reach? below)

theorem reach?_append (site : Site) (above below : Address) :
    site.reach? (above ++ below) = (site.reach? above).bind (·.reach? below) := by
  induction above generalizing site with
  | nil => rfl
  | cons index above ih =>
    rw [List.cons_append, reach?, reach?, Option.bind_assoc]
    exact congrArg _ (funext fun child => ih child)

theorem reach?_cons_eq_some_iff {site found : Site} {index : Nat} {below : Address} :
    site.reach? (index :: below) = some found ↔
      ∃ child, site.children[index]? = some child ∧ child.reach? below = some found := by
  rw [reach?, Option.bind_eq_some_iff]

/-- The node of a child, by its index. -/
theorem getElem?_children {site child : Site} {index : Nat}
    (stands : site.children[index]? = some child) :
    site.node.children[index]? = some child.node := by
  rw [← map_node_children, List.getElem?_map, stands]
  rfl

/-- What stands below an address is a block of the preorder. -/
theorem infix_addresses {site found : Site} {address : Address}
    (stands : site.reach? address = some found) :
    found.node.addresses.map (address ++ ·) <:+: site.node.addresses := by
  induction address generalizing site with
  | nil =>
    cases stands
    exact ⟨[], [], by simp⟩
  | cons index below ih =>
    obtain ⟨child, above, deeper⟩ := reach?_cons_eq_some_iff.mp stands
    have inChild := (ih deeper).map (index :: ·)
    rw [List.map_map] at inChild
    have inFrom := Node.infix_addressesFrom (getElem?_children above) 0
    rw [Nat.zero_add] at inFrom
    rw [Node.addresses_eq site.node]
    exact (inChild.trans inFrom).trans (List.suffix_cons _ _).isInfix

theorem mem_addresses_of_reach? {site found : Site} {address : Address}
    (stands : site.reach? address = some found) : address ∈ site.node.addresses := by
  refine (infix_addresses stands).subset (List.mem_map.mpr ⟨[], ?_, List.append_nil address⟩)
  rw [Node.addresses_eq]
  exact List.mem_cons_self

section Numbers

variable {root : Node} {address : Address} {site : Site}
  (stands : (Site.root root).reach? address = some site)

include stands

/-- The numbers of a subtree begin with that of its top, one after the other. -/
theorem map_number_block :
    (site.node.addresses.map (address ++ ·)).map root.number =
      List.range' (root.number address) site.node.size := by
  obtain ⟨before, after, split⟩ := infix_addresses stands
  change _ = root.addresses at split
  have once := root.nodup_addresses
  rw [← split] at once
  have numbers := map_idxOf_block once
  rw [split, List.length_map, Node.length_addresses] at numbers
  -- the first number of the block is that of its top
  have first : root.number address = before.length := by
    have tops := congrArg List.head? numbers
    rw [Node.addresses_eq site.node, Node.size_eq, List.range'_succ, List.map_cons, List.map_cons,
      List.head?_cons, List.head?_cons, List.append_nil] at tops
    exact Option.some.inj tops
  rw [first, ← numbers]
  rfl

/-- Whatever stands below has a greater number. -/
theorem number_lt_of_below {below : Address} {found : Site} (proper : below ≠ [])
    (deeper : site.reach? below = some found) :
    root.number address < root.number (address ++ below) := by
  have block := map_number_block stands
  rw [Node.addresses_eq, Node.size_eq, List.range'_succ, List.map_cons, List.map_cons,
    List.cons.injEq] at block
  have listed : below ∈ Node.addressesFrom 0 site.node.children := by
    have inside := mem_addresses_of_reach? deeper
    rw [Node.addresses_eq, List.mem_cons] at inside
    exact inside.resolve_left proper
  have later : root.number (address ++ below) ∈
      List.range' (root.number address + 1) (Node.sizeAll site.node.children) := by
    rw [← block.2]
    exact List.mem_map_of_mem (List.mem_map_of_mem listed)
  exact (List.mem_range'_1.mp later).1

end Numbers

end Site

end SyntaxTree

end ReactiveProps
