import TreeTemplate.Proofs.Node.Flattened

/-!
# References filled in

`Node.filled` puts a node in the place of every reference of a tree and leaves everything else as it
is.  A reference is one member of the row around it, and if what takes its place is one too, the rows
and the values of attributes come out in the same shape: to fill a tree and to flatten it are
independent of each other (`Node.flattened_filled`).
-/

namespace TreeTemplate.Node

mutual

/-- Replaces references, given what stands for an escaped one and for a raw one. -/
def filled (escaped unescaped : Path → Node) : Node → Node
  | .element tag attrs children =>
    let attrs := match attrs with
      | none => none
      | some attrs => some (filledAttrs escaped unescaped attrs)
    .element tag attrs (filledEach escaped unescaped children)
  | .var path => escaped path
  | .raw path => unescaped path
  | .block helper arg body => .block helper arg (filledEach escaped unescaped body)
  | .join children => .join (filledEach escaped unescaped children)
  | .concat children => .concat (filledEach escaped unescaped children)
  | .group children => .group (filledEach escaped unescaped children)
  | .literal value => .literal value
  | .unescaped value => .unescaped value
termination_by structural node => node

/-- Replaces the references in each node of a row. -/
def filledEach (escaped unescaped : Path → Node) : List Node → List Node
  | [] => []
  | node :: rest => node.filled escaped unescaped :: filledEach escaped unescaped rest
termination_by structural nodes => nodes

/-- Replaces the references in the values of attributes. -/
def filledAttrs (escaped unescaped : Path → Node) : List (String × Node) → List (String × Node)
  | [] => []
  | (name, node) :: rest =>
    (name, node.filled escaped unescaped) :: filledAttrs escaped unescaped rest
termination_by structural attrs => attrs

end

variable {escaped unescaped : Path → Node}

/-- A list of nodes is filled in node by node. -/
lemma filledEach_eq_map (nodes : List Node) :
    filledEach escaped unescaped nodes = nodes.map (filled escaped unescaped) := by
  induction nodes with
  | nil => rfl
  | cons node rest ih => rw [filledEach, ih, List.map_cons]

/-- Attributes keep their names, and their values are filled in. -/
lemma filledAttrs_eq_map (attrs : List (String × Node)) :
    filledAttrs escaped unescaped attrs =
      attrs.map fun attr => (attr.1, attr.2.filled escaped unescaped) := by
  induction attrs with
  | nil => rfl
  | cons attr rest ih => rw [filledAttrs, ih, List.map_cons]

lemma filled_element (tag : String) (attrs : Option (List (String × Node)))
    (children : List Node) :
    (element tag attrs children).filled escaped unescaped =
      .element tag (attrs.map (filledAttrs escaped unescaped))
        (children.map (filled escaped unescaped)) := by
  rw [← filledEach_eq_map]
  cases attrs with
  | none => rfl
  | some attrs => rfl

lemma filled_block (helper : String) (arg : Path) (body : List Node) :
    (block helper arg body).filled escaped unescaped =
      .block helper arg (body.map (filled escaped unescaped)) := by
  rw [filled, filledEach_eq_map]

lemma filled_join (nodes : List Node) :
    (join nodes).filled escaped unescaped = .join (nodes.map (filled escaped unescaped)) := by
  rw [filled, filledEach_eq_map]

lemma filled_concat (nodes : List Node) :
    (concat nodes).filled escaped unescaped = .concat (nodes.map (filled escaped unescaped)) := by
  rw [filled, filledEach_eq_map]

lemma filled_group (nodes : List Node) :
    (group nodes).filled escaped unescaped = .group (nodes.map (filled escaped unescaped)) := by
  rw [filled, filledEach_eq_map]

/-- An attribute value made of a fragment is filled in node by node. -/
lemma filled_toAttribute (fragment : Fragment) :
    (Fragment.toAttribute fragment).filled escaped unescaped =
      Fragment.toAttribute (fragment.map (filled escaped unescaped)) := by
  match fragment with
  | [] => rfl
  | [node] => rfl
  | first :: second :: rest => exact filled_concat _

/-- A root made of a fragment is filled in node by node. -/
lemma filled_toRoot (fragment : Fragment) :
    (Fragment.toRoot fragment).filled escaped unescaped =
      Fragment.toRoot (fragment.map (filled escaped unescaped)) := by
  match fragment with
  | [] => rfl
  | [node] => rfl
  | first :: second :: rest => exact filled_group _

/-- A tree without placeholders is left as it is. -/
lemma filled_eq_self {node : Node} (noVar : node.Without var) (noRaw : node.Without raw) :
    node.filled escaped unescaped = node := by
  induction node with
  | element tag attrs children ihAttrs ihChildren =>
    obtain ⟨attrsVar, childrenVar⟩ := forall_mem_parts_element.1 noVar.part
    obtain ⟨attrsRaw, childrenRaw⟩ := forall_mem_parts_element.1 noRaw.part
    have sameChildren : children.map (filled escaped unescaped) = children :=
      map_eq_self fun child among =>
        ihChildren child among (childrenVar child among) (childrenRaw child among)
    rw [filled_element, sameChildren]
    cases attrs with
    | none => rfl
    | some attrs =>
      have sameAttrs : ∀ attr ∈ attrs, (attr.1, attr.2.filled escaped unescaped) = attr :=
        fun attr among => congrArg (Prod.mk attr.1)
          (ihAttrs attr among (attrsVar attr among) (attrsRaw attr among))
      rw [Option.map_some, filledAttrs_eq_map, map_eq_self sameAttrs]
  | var path => exact absurd .self (noVar path)
  | raw path => exact absurd .self (noRaw path)
  | block helper arg body ih =>
    have same : body.map (filled escaped unescaped) = body :=
      map_eq_self fun node among => ih node among (noVar.part node among) (noRaw.part node among)
    rw [filled_block, same]
  | join nodes ih | concat nodes ih | group nodes ih =>
    have same : nodes.map (filled escaped unescaped) = nodes :=
      map_eq_self fun node among => ih node among (noVar.part node among) (noRaw.part node among)
    simp only [filled_join, filled_concat, filled_group, same]
  | literal value | unescaped value => rfl

section

variable {nodes : List Node}
  (each : ∀ node ∈ nodes,
    (node.filled escaped unescaped).flattened = node.flattened.map (filled escaped unescaped))

include each

/-- A row is filled before or after it is flattened, if its nodes may be. -/
lemma flatMap_flattened_filled :
    (nodes.map (filled escaped unescaped)).flatMap flattened =
      (nodes.flatMap flattened).map (filled escaped unescaped) := by
  rw [List.flatMap_map, List.map_flatMap]
  exact List.flatMap_congr each

/-- Joined nodes are filled before or after they are flattened, if each of them may be; the spaces
between them hold nothing to fill. -/
lemma spaced_flattened_filled :
    Fragment.spaced ((nodes.map (filled escaped unescaped)).map flattened) =
      (Fragment.spaced (nodes.map flattened)).map (filled escaped unescaped) := by
  rw [Fragment.map_spaced rfl, List.map_map, List.map_map]
  exact congrArg Fragment.spaced (List.map_congr_left each)

end

/-- To fill the references of a tree and to flatten it are independent of each other, if what stands
for a reference is one member of a row. -/
lemma flattened_filled (one : ∀ path, (escaped path).flattened = [escaped path])
    (oneRaw : ∀ path, (unescaped path).flattened = [unescaped path]) (node : Node) :
    (node.filled escaped unescaped).flattened = node.flattened.map (filled escaped unescaped) := by
  induction node with
  | element tag attrs children ihAttrs ihChildren =>
    have sameAttrs : (attrs.map (filledAttrs escaped unescaped)).map flattenedAttrs =
        (attrs.map flattenedAttrs).map (filledAttrs escaped unescaped) := by
      cases attrs with
      | none => rfl
      | some attrs =>
        refine congrArg some ?_
        rw [filledAttrs_eq_map, flattenedAttrs_eq_map, flattenedAttrs_eq_map, filledAttrs_eq_map,
          List.map_map, List.map_map]
        refine List.map_congr_left fun attr among => congrArg (Prod.mk attr.1) ?_
        rw [filled_toAttribute, ← ihAttrs attr among]
    rw [filled_element, flattened_element, flattened_element, List.map_singleton, filled_element,
      sameAttrs, flatMap_flattened_filled ihChildren]
  | var path => exact one path
  | raw path => exact oneRaw path
  | block helper arg body ih =>
    rw [filled_block, flattened_block, flattened_block, List.map_singleton, filled_block,
      flatMap_flattened_filled ih]
  | join nodes ih => rw [filled_join, flattened_join, flattened_join, spaced_flattened_filled ih]
  | concat nodes ih =>
    rw [filled_concat, flattened_concat, flattened_concat, flatMap_flattened_filled ih]
  | group nodes ih =>
    rw [filled_group, flattened_group, flattened_group, flatMap_flattened_filled ih]
  | literal value | unescaped value => rfl

end TreeTemplate.Node
