import Mathlib.Data.List.Lex
import ResourceAudit.Markup.Node

/-!
# Document order

A node of a tree stands at an address: the indexes of the children on the way to it. Addresses
in lexicographic order are nodes in document order, with a node before what is below it. The
search for a tag finds every element of the tag once, in this order (`inOrder_elements`).
-/

namespace ResourceAudit.Markup.Node

/-- The node at an address below a node. -/
def at? (n : Node) : List Nat → Option Node
  | [] => some n
  | i :: address => n.children[i]?.bind fun child => child.at? address

/-- Nodes are listed with their addresses: exactly those that satisfy a condition, in document
order. -/
structure Located (n : Node) (p : Node → Prop) (located : List (List Nat × Node)) : Prop where
  ascending : located.Pairwise fun x y => x.1 < y.1
  mem_iff : ∀ address m, (address, m) ∈ located ↔ n.at? address = some m ∧ p m

/-- Nodes are exactly those of a tree that satisfy a condition, in document order. -/
def InOrder (n : Node) (p : Node → Prop) (found : List Node) : Prop :=
  ∃ located, n.Located p located ∧ located.map Prod.snd = found

/-- A node is an element of a tag. -/
def HasTag (tag : String) (n : Node) : Prop :=
  n.tag? = some tag

/-! ## Addresses of elements -/

mutual

/-- The elements of a tag at or below a node, with their addresses. -/
def locate (tag : String) : Node → List (List Nat × Node)
  | text _ => []
  | element own attributes children =>
      let below := locateAll tag 0 children
      if own = tag then ([], element own attributes children) :: below else below

/-- The same for a run of siblings from an index on. -/
def locateAll (tag : String) (i : Nat) : List Node → List (List Nat × Node)
  | [] => []
  | node :: rest =>
      (locate tag node).map (fun x => (i :: x.1, x.2)) ++ locateAll tag (i + 1) rest

end

mutual

theorem map_snd_locate (tag : String) : ∀ n : Node,
    (locate tag n).map Prod.snd = n.elements tag
  | text _ => rfl
  | element own attributes children => by
      have hbelow := map_snd_locateAll tag 0 children
      rw [locate, elements]
      split
      · rw [List.map_cons, hbelow]
      · exact hbelow

theorem map_snd_locateAll (tag : String) (i : Nat) : ∀ siblings : List Node,
    (locateAll tag i siblings).map Prod.snd = elementsAll tag siblings
  | [] => rfl
  | node :: rest => by
      rw [locateAll, elementsAll, List.map_append, List.map_map,
        ← map_snd_locate tag node, ← map_snd_locateAll tag (i + 1) rest]
      rfl

end

mutual

theorem mem_locate_iff (tag : String) : ∀ (n : Node) (address : List Nat) (m : Node),
    (address, m) ∈ locate tag n ↔ n.at? address = some m ∧ m.HasTag tag
  | text content, address, m => by
      constructor
      · nofun
      · rintro ⟨hat, htag⟩
        cases address with
        | nil =>
            cases hat
            cases htag
        | cons i address => cases hat
  | element own attributes children, [], m => by
      have hbelow : ([], m) ∉ locateAll tag 0 children := by
        rw [mem_locateAll_iff]
        rintro ⟨j, child, address, -, haddress, -⟩
        cases haddress
      rw [locate]
      constructor
      · intro hmem
        split at hmem
        next hown =>
          rcases List.mem_cons.mp hmem with heq | hmem
          · cases heq
            exact ⟨rfl, congrArg some hown⟩
          · exact absurd hmem hbelow
        next => exact absurd hmem hbelow
      · rintro ⟨hat, htag⟩
        cases hat
        rw [if_pos (Option.some.inj htag)]
        exact List.mem_cons_self
  | element own attributes children, i :: address, m => by
      have hbelow : (i :: address, m) ∈ locateAll tag 0 children ↔
          (element own attributes children).at? (i :: address) = some m ∧ m.HasTag tag := by
        rw [mem_locateAll_iff, at?, Option.bind_eq_some_iff]
        constructor
        · rintro ⟨j, child, rest, hchild, haddress, hat, htag⟩
          cases haddress
          rw [Nat.zero_add]
          exact ⟨⟨child, hchild, hat⟩, htag⟩
        · rintro ⟨⟨child, hchild, hat⟩, htag⟩
          exact ⟨i, child, address, hchild, by rw [Nat.zero_add], hat, htag⟩
      rw [← hbelow, locate]
      split
      · simp
      · rfl

theorem mem_locateAll_iff (tag : String) (i : Nat) : ∀ (siblings : List Node)
    (address : List Nat) (m : Node),
    (address, m) ∈ locateAll tag i siblings ↔
      ∃ (j : Nat) (child : Node) (rest : List Nat), siblings[j]? = some child ∧
        address = (i + j) :: rest ∧ child.at? rest = some m ∧ m.HasTag tag
  | [], address, m => by
      rw [locateAll]
      simp
  | node :: siblings, address, m => by
      rw [locateAll, List.mem_append, mem_locateAll_iff tag (i + 1) siblings]
      constructor
      · rintro (hmem | ⟨j, child, rest, hchild, rfl, hrest⟩)
        · obtain ⟨⟨rest, found⟩, hlocated, heq⟩ := List.mem_map.mp hmem
          cases heq
          exact ⟨0, node, rest, rfl, rfl, (mem_locate_iff tag node rest found).mp hlocated⟩
        · exact ⟨j + 1, child, rest, hchild, by rw [Nat.add_assoc, Nat.add_comm 1], hrest⟩
      · rintro ⟨j, child, rest, hchild, rfl, hrest⟩
        cases j with
        | zero =>
            cases hchild
            exact .inl (List.mem_map.mpr ⟨(rest, m), (mem_locate_iff tag node rest m).mpr hrest,
              rfl⟩)
        | succ j => exact .inr ⟨j, child, rest, hchild, by rw [Nat.add_assoc, Nat.add_comm 1],
            hrest⟩

end

mutual

theorem pairwise_locate (tag : String) : ∀ n : Node,
    (locate tag n).Pairwise fun x y => x.1 < y.1
  | text _ => .nil
  | element own attributes children => by
      have hbelow := pairwise_locateAll tag 0 children
      rw [locate]
      split
      · refine hbelow.cons fun x hx => ?_
        obtain ⟨j, child, rest, -, haddress, -⟩ := (mem_locateAll_iff tag 0 children x.1 x.2).mp hx
        rw [haddress]
        exact List.nil_lt_cons _ _
      · exact hbelow

theorem pairwise_locateAll (tag : String) (i : Nat) : ∀ siblings : List Node,
    (locateAll tag i siblings).Pairwise fun x y => x.1 < y.1
  | [] => .nil
  | node :: siblings => by
      rw [locateAll, List.pairwise_append]
      refine ⟨?_, pairwise_locateAll tag (i + 1) siblings, ?_⟩
      · refine List.pairwise_map.mpr ((pairwise_locate tag node).imp fun hlt => ?_)
        exact List.Lex.cons hlt
      · intro x hx y hy
        obtain ⟨z, -, rfl⟩ := List.mem_map.mp hx
        obtain ⟨j, child, rest, -, haddress, -⟩ :=
          (mem_locateAll_iff tag (i + 1) siblings y.1 y.2).mp hy
        rw [haddress]
        exact List.Lex.rel (by omega)

end

/-- The search for a tag finds every element of the tag, in document order. -/
theorem inOrder_elements (tag : String) (n : Node) : n.InOrder (HasTag tag) (n.elements tag) :=
  ⟨locate tag n, ⟨pairwise_locate tag n, mem_locate_iff tag n⟩, map_snd_locate tag n⟩

theorem elements_eq_nil_iff {tag : String} {n : Node} :
    n.elements tag = [] ↔ ∀ address m, n.at? address = some m → ¬ m.HasTag tag := by
  rw [← map_snd_locate, List.map_eq_nil_iff, List.eq_nil_iff_forall_not_mem]
  constructor
  · intro hnone address m hat htag
    exact hnone (address, m) ((mem_locate_iff tag n address m).mpr ⟨hat, htag⟩)
  · rintro hnone ⟨address, m⟩ hmem
    obtain ⟨hat, htag⟩ := (mem_locate_iff tag n address m).mp hmem
    exact hnone address m hat htag

theorem elementsAll_append (tag : String) (front back : List Node) :
    elementsAll tag (front ++ back) = elementsAll tag front ++ elementsAll tag back := by
  induction front with
  | nil => rfl
  | cons node front ih => rw [List.cons_append, elementsAll, elementsAll, ih, List.append_assoc]

end ResourceAudit.Markup.Node
