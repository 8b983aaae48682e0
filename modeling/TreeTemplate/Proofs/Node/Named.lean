import TreeTemplate.Proofs.Form.Checks
import TreeTemplate.Proofs.Fragment
import TreeTemplate.Proofs.Node.Place
import TreeTemplate.Proofs.Path.Characters

/-!
# Names and paths in trees

In a named tree all tags, names of attributes and helpers are valid, and every path is the one that
its text is read as.  Nothing is said of the order of attributes, nor of the values in the tree.

A property that a tree has as soon as its own names are valid and its parts have the property is
shown for whatever builds trees in one way, be it that all names are valid or that those of places
around blocks are (`Node.Inherited`).

Names hold no character that has a meaning in markup or in placeholder tokens, and neither do paths
but for dots and slashes (`Node.NamedHere.chars`).
-/

namespace TreeTemplate

/-- Whether a character is white space, a bracket, a quote, or another sign that ends a name or
begins something else in markup and in placeholder tokens. -/
def breaksMarkup (c : Char) : Bool :=
  [' ', '\t', '\n', '\x0b', '\x0c', '\r', '<', '>', '\x22', '\x27', '=', '&', '{', '}'].contains c

/-- No character that breaks markup may stand in a tag. -/
lemma isTagPart_of_breaksMarkup {c : Char} (breaks : breaksMarkup c) : isTagPart c = false := by
  have foreign : ∀ c ∈ [' ', '\t', '\n', '\x0b', '\x0c', '\r', '<', '>', '\x22', '\x27', '=', '&',
      '{', '}'], (!isTagPart c) = true := List.all_eq_true.1 rfl
  have outside := foreign c (List.contains_iff_mem.1 breaks)
  rwa [Bool.not_eq_true'] at outside

/-- A part of a tag name has no meaning in markup, and it is neither a slash nor a dot. -/
lemma breaksMarkup_of_isTagPart {c : Char} (part : isTagPart c) :
    breaksMarkup c = false ∧ c ≠ '/' ∧ c ≠ '.' := by
  refine ⟨?_, ne_of_isTagPart part rfl, ne_of_isTagPart part rfl⟩
  by_contra breaks
  rw [Bool.not_eq_false] at breaks
  rw [isTagPart_of_breaksMarkup breaks] at part
  cases part

/-- A character of names may stand in tags. -/
lemma isTagPart_of_isNamePart {c : Char} (part : isNamePart c) : isTagPart c := by
  unfold isNamePart at part
  unfold isTagPart isTagContinue
  obtain start | more := Bool.or_eq_true_iff.1 part
  · rw [start, Bool.true_or]
  · rw [more, Bool.true_or, Bool.true_or, Bool.or_true]

/-- No character of a path breaks markup. -/
lemma breaksMarkup_of_isPathPart {c : Char} (part : isPathPart c) : breaksMarkup c = false := by
  unfold isPathPart at part
  rw [Bool.or_eq_true, Bool.or_eq_true, beq_iff_eq, beq_iff_eq] at part
  obtain (name | rfl) | rfl := part
  · exact (breaksMarkup_of_isTagPart (isTagPart_of_isNamePart name)).1
  · rfl
  · rfl

namespace Node

/-- The names that a node holds itself are valid, and its path is the one that its text is read as.
-/
def NamedHere : Node → Prop
  | .element tag attrs _ => isTagName tag ∧ ∀ attr ∈ attrs.getD [], isTagName attr.1
  | .var path | .raw path => Path.parse path.text = .ok path
  | .block helper arg _ => isIdentifier helper ∧ Path.parse arg.text = .ok arg
  | .join _ | .concat _ | .group _ | .literal _ | .unescaped _ => True

/-- At every place of a tree the names are valid and paths are those that their texts are read as.
-/
def Named (node : Node) : Prop :=
  node.Everywhere NamedHere

/-- A tree has the property if its own names are valid and its parts have the property. -/
def Inherited (P : Node → Prop) : Prop :=
  ∀ node : Node, node.NamedHere → (∀ part ∈ node.parts, P part) → P node

/-- A tree is named if its own names are valid and its parts are named. -/
lemma inherited_named : Inherited Named :=
  fun _ here parts => everywhere_iff.2 ⟨here, parts⟩

/-- The names of a named tree itself are valid. -/
lemma Named.here {node : Node} (named : node.Named) : node.NamedHere :=
  named node .self

/-- The parts of a named tree are named. -/
lemma Named.part {node : Node} (named : node.Named) : ∀ part ∈ node.parts, part.Named :=
  (everywhere_iff.1 named).2

/-- Well-formed trees are named: their names are among the things that are checked. -/
lemma WellFormed.named {node : Node} (wf : node.WellFormed) : node.Named := by
  induction node using parts_induction with
  | step node ih =>
    refine inherited_named node ?_ fun part member => ih part member (wf.part part member)
    cases node with
    | element tag attrs children =>
      obtain ⟨tagName, -, inAttrs, -⟩ := element_iff.1 wf
      exact ⟨tagName, fun attr member => (inAttrs attr member).1⟩
    | var | raw => exact Path.parse_eq_ok wf
    | block helper arg body =>
      obtain ⟨name, found, -⟩ := block_iff.1 wf
      exact ⟨name, Path.parse_eq_ok found⟩
    | join | concat | group | literal | unescaped => trivial

/-- The places around the blocks of a tree are named if its own names are valid and this is so in
its parts. -/
lemma inherited_placesNamed : Inherited PlacesNamed := by
  intro node here parts
  refine .of_parts (fun label own => ?_) parts
  cases node with
  | element tag attrs children =>
    cases own
    exact here.1
  | block helper arg body =>
    cases own
    trivial
  | var | raw | join | concat | group | literal | unescaped => cases own

namespace Inherited

variable {P : Node → Prop}

/-- Whatever is inherited holds of trees with valid names. -/
lemma of_named (inherited : Inherited P) {node : Node} (named : node.Named) : P node := by
  induction node using parts_induction with
  | step node ih =>
    exact inherited node named.here fun part member => ih part member (named.part part member)

/-- A literal has no part and no name, so it has every inherited property. -/
lemma literal (inherited : Inherited P) (value : Value) : P (.literal value) :=
  inherited _ trivial (List.forall_mem_nil _)

lemma unescaped (inherited : Inherited P) (value : Value) : P (.unescaped value) :=
  inherited _ trivial (List.forall_mem_nil _)

/-- A join has a property that its members hand on. -/
lemma join (inherited : Inherited P) {nodes : List Node} (each : ∀ node ∈ nodes, P node) :
    P (.join nodes) :=
  inherited _ trivial each

lemma concat (inherited : Inherited P) {nodes : List Node} (each : ∀ node ∈ nodes, P node) :
    P (.concat nodes) :=
  inherited _ trivial each

lemma group (inherited : Inherited P) {nodes : List Node} (each : ∀ node ∈ nodes, P node) :
    P (.group nodes) :=
  inherited _ trivial each

/-- An element with valid names has a property that its attribute values and children hand on. -/
lemma element (inherited : Inherited P) {tag : String} {attrs : Option (List (String × Node))}
    {children : List Node} (name : isTagName tag)
    (inAttrs : ∀ attr ∈ attrs.getD [], isTagName attr.1 ∧ P attr.2)
    (inChildren : ∀ child ∈ children, P child) : P (.element tag attrs children) := by
  refine inherited _ ⟨name, fun attr among => (inAttrs attr among).1⟩ ?_
  exact forall_mem_parts_element.2 ⟨fun attr among => (inAttrs attr among).2, inChildren⟩

/-- The root of a fragment has a property that its nodes hand on. -/
lemma toRoot (inherited : Inherited P) {fragment : Fragment} (each : ∀ node ∈ fragment, P node) :
    P (Fragment.toRoot fragment) := by
  match fragment with
  | [] => exact inherited.group each
  | [node] => exact each node List.mem_cons_self
  | _ :: _ :: _ => exact inherited.group each

/-- An attribute value made of a fragment has a property that its nodes hand on. -/
lemma toAttribute (inherited : Inherited P) {fragment : Fragment}
    (each : ∀ node ∈ fragment, P node) : P (Fragment.toAttribute fragment) := by
  match fragment with
  | [] => exact inherited.literal .none
  | [node] => exact each node List.mem_cons_self
  | _ :: _ :: _ => exact inherited.concat each

/-- The fragments of a join hand a property on to all nodes of it, the spaces included. -/
lemma spaced (inherited : Inherited P) {fragments : List Fragment}
    (each : ∀ fragment ∈ fragments, ∀ node ∈ fragment, P node) :
    ∀ node ∈ Fragment.spaced fragments, P node := by
  intro node member
  obtain rfl | ⟨fragment, among, inside⟩ := Fragment.mem_spaced member
  · exact inherited.literal _
  · exact each fragment among node inside

end Inherited

/-- The names that a node holds itself: tag, names of attributes, helper. -/
def names : Node → List String
  | .element tag attrs _ => tag :: (attrs.getD []).map Prod.fst
  | .block helper _ _ => [helper]
  | .var _ | .raw _ | .join _ | .concat _ | .group _ | .literal _ | .unescaped _ => []

/-- All names that a node holds itself are tag names: those of helpers are identifiers, which are
tag names too. -/
lemma NamedHere.isTagName {node : Node} (here : node.NamedHere) :
    ∀ name ∈ node.names, isTagName name := by
  cases node with
  | element tag attrs children =>
    refine List.forall_mem_cons.2 ⟨here.1, List.forall_mem_map.2 here.2⟩
  | block helper arg body => exact List.forall_mem_singleton.2 (isTagName_of_isIdentifier here.1)
  | var | raw | join | concat | group | literal | unescaped => exact List.forall_mem_nil _

/-- The path that a node holds itself is read back from its text. -/
lemma NamedHere.parse_path {node : Node} (here : node.NamedHere) :
    ∀ path ∈ node.path?, Path.parse path.text = .ok path := by
  intro path own
  cases node with
  | var | raw =>
    cases own
    exact here
  | block helper arg body =>
    cases own
    exact here.2
  | element | join | concat | group | literal | unescaped => cases own

/-- Valid names hold nothing that has a meaning in markup or in paths, and paths hold nothing that
has a meaning in markup. -/
lemma NamedHere.chars {node : Node} (here : node.NamedHere) :
    (∀ name ∈ node.names, ∀ c ∈ name.toList, breaksMarkup c = false ∧ c ≠ '/' ∧ c ≠ '.')
      ∧ ∀ path ∈ node.path?, ∀ c ∈ path.text.toList, breaksMarkup c = false := by
  constructor
  · intro name own c member
    exact breaksMarkup_of_isTagPart (chars_of_isTagName (here.isTagName name own) c member)
  · intro path own c member
    have found := (Path.parse_ends path.text).of_ok (here.parse_path path own)
    obtain ⟨first, rest, chars, -, parts⟩ := Path.chars_of_ofText? (Option.isSome_of_eq_some found)
    rw [chars] at member
    exact breaksMarkup_of_isPathPart (parts c member)

end Node

end TreeTemplate
