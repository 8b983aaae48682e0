import Mathlib.Data.List.Forall2
import TreeTemplate.Fragment
import TreeTemplate.Proofs.Sequence

/-!
# Rows of nodes

What becomes of the members when rows are put together with spaces, or made one node at a root or in
an attribute.

The value of an attribute that is a row has its members as `Node.row`, and any other value is a row
of one.  `Fragment.toAttribute` and `Node.row` are inverse where they should be: to a row without
rows in it (`Fragment.row_toAttribute`), only that an empty row becomes the empty value.
-/

namespace TreeTemplate

namespace Fragment

@[simp]
lemma spaced_singleton (fragment : Fragment) : spaced [fragment] = fragment :=
  List.intercalate_singleton

/-- A join puts a space behind its first fragment if there is a second. -/
@[simp]
lemma spaced_cons_cons (first second : Fragment) (rest : List Fragment) :
    spaced (first :: second :: rest) = first ++ Node.space :: spaced (second :: rest) := by
  rw [spaced, List.intercalate_cons_cons, List.append_assoc, List.singleton_append]
  rfl

/-- A node of a join is a space or belongs to one of the fragments. -/
lemma mem_spaced {node : Node} {fragments : List Fragment} (member : node ∈ spaced fragments) :
    node = Node.space ∨ ∃ fragment ∈ fragments, node ∈ fragment :=
  mem_intercalate member

/-- A map that leaves spaces as they are applies to the fragments in a spaced row. -/
lemma map_spaced {f : Node → Node} (space : f Node.space = Node.space)
    (fragments : List Fragment) :
    (spaced fragments).map f = spaced (fragments.map (List.map f)) := by
  induction fragments with
  | nil => rfl
  | cons first rest ih =>
    cases rest with
    | nil => rw [spaced_singleton, List.map_singleton, spaced_singleton]
    | cons second rest =>
      rw [spaced_cons_cons, List.map_append, List.map_cons, space, ih]
      simp only [List.map_cons, spaced_cons_cons]

/-- Spaced rows are related member by member if the fragments are and two spaces are. -/
lemma forall₂_spaced {R : Node → Node → Prop} (space : R Node.space Node.space)
    {fragments others : List Fragment} (h : List.Forall₂ (List.Forall₂ R) fragments others) :
    List.Forall₂ R (spaced fragments) (spaced others) := by
  induction h with
  | nil => exact .nil
  | @cons first other rest more head tail ih =>
    cases tail with
    | nil => simpa using head
    | cons next tail =>
      rw [spaced_cons_cons, spaced_cons_cons]
      exact List.rel_append head (.cons space ih)

end Fragment

namespace Node

/-- The members of a row, and any other node alone. -/
def row : Node → Fragment
  | .concat nodes => nodes
  | node => [node]

/-- A single node, or a row of two or more: what the value of an attribute is after rendering. -/
def IsCollapsed (node : Node) : Prop :=
  ∀ nodes, node = .concat nodes → 2 ≤ nodes.length

/-- A node that is no concatenation is a row by itself. -/
lemma row_eq_singleton {node : Node} (single : ∀ nodes, node ≠ .concat nodes) :
    node.row = [node] := by
  cases node with
  | concat nodes => exact absurd rfl (single nodes)
  | _ => rfl

/-- A collapsed row has at least one member. -/
lemma IsCollapsed.row_ne_nil {node : Node} (collapsed : node.IsCollapsed) : node.row ≠ [] := by
  cases node with
  | concat nodes =>
    have many := collapsed nodes rfl
    apply List.ne_nil_of_length_pos
    show 0 < nodes.length
    omega
  | _ => exact List.cons_ne_nil _ _

/-- The row of a collapsed value makes that value again. -/
lemma IsCollapsed.toAttribute_row {node : Node} (collapsed : node.IsCollapsed) :
    Fragment.toAttribute node.row = node := by
  cases node with
  | concat nodes =>
    match nodes, collapsed nodes rfl with
    | _ :: _ :: _, _ => rfl
  | _ => rfl

end Node

namespace Fragment

variable {fragment : Fragment}

/-- Any number of nodes but one makes a group at the root. -/
lemma toRoot_of_ne_one (many : fragment.length ≠ 1) : toRoot fragment = .group fragment := by
  match fragment with
  | [] => rfl
  | [_] => exact absurd rfl many
  | _ :: _ :: _ => rfl

/-- A row without groups in it can be told from the root made of it. -/
lemma eq_of_toRoot_eq {other : Fragment} (single : ∀ node ∈ fragment, ∀ nodes, node ≠ .group nodes)
    (singleOther : ∀ node ∈ other, ∀ nodes, node ≠ .group nodes)
    (eq : toRoot fragment = toRoot other) : fragment = other := by
  by_cases one : fragment.length = 1
  · obtain ⟨node, rfl⟩ := List.length_eq_one_iff.1 one
    have alone := single node List.mem_cons_self
    by_cases oneOther : other.length = 1
    · obtain ⟨node, rfl⟩ := List.length_eq_one_iff.1 oneOther
      exact congrArg (fun node => [node]) eq
    · rw [toRoot_of_ne_one oneOther] at eq
      exact absurd eq (alone _)
  · rw [toRoot_of_ne_one one] at eq
    by_cases oneOther : other.length = 1
    · obtain ⟨node, rfl⟩ := List.length_eq_one_iff.1 oneOther
      exact absurd eq.symm (singleOther node List.mem_cons_self _)
    · rw [toRoot_of_ne_one oneOther] at eq
      exact Node.group.inj eq

/-- A row made the value of an attribute is collapsed, if it holds no row itself. -/
lemma isCollapsed_toAttribute (flat : ∀ node ∈ fragment, ∀ nodes, node ≠ .concat nodes) :
    (toAttribute fragment).IsCollapsed := by
  match fragment with
  | [] => exact nofun
  | [node] => exact fun nodes eq => absurd eq (flat node List.mem_cons_self nodes)
  | _ :: _ :: _ =>
    intro nodes eq
    cases eq
    simp

/-- A row made the value of an attribute has the same members, but that nothing becomes the empty
value. -/
lemma row_toAttribute (flat : ∀ node ∈ fragment, ∀ nodes, node ≠ .concat nodes) :
    (toAttribute fragment).row = if fragment = [] then [.literal .none] else fragment := by
  match fragment with
  | [] => rfl
  | [node] => exact Node.row_eq_singleton (flat node List.mem_cons_self)
  | _ :: _ :: _ => rfl

/-- What holds of the empty value and of each node of a row without rows in it holds of the row when
it is made the value of an attribute. -/
lemma forall_mem_row_toAttribute {P : Node → Prop}
    (flat : ∀ node ∈ fragment, ∀ nodes, node ≠ .concat nodes) (empty : P (.literal .none))
    (each : ∀ node ∈ fragment, P node) :
    ∀ node ∈ (toAttribute fragment).row, P node := by
  rw [row_toAttribute flat]
  split
  · exact List.forall_mem_singleton.2 empty
  · exact each

end Fragment

end TreeTemplate
