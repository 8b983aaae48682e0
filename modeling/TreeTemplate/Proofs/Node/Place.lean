import TreeTemplate.Error
import TreeTemplate.Proofs.Node.WellFormed

/-!
# Places in trees

Elements and blocks are places that the trail of an error names.  `Node.OccursUnder` says which
places lie between the root of a tree and a node in it, outermost first, and `Error.under` puts
places around an error, as many at once as there are.

Blocks are told from elements by their text alone, for no name of an element starts as an opening
token does (`Label.opensBlock_text`).
-/

namespace TreeTemplate

/-- Whether a place is a block. -/
def Label.isBlock : Label → Bool
  | .block _ _ => true
  | _ => false

/-- How many of the places are blocks. -/
def blockCount (labels : List Label) : Nat :=
  labels.countP Label.isBlock

/-- The blocks on a longer trail are those on both ends of it. -/
lemma blockCount_append (labels others : List Label) :
    blockCount (labels ++ others) = blockCount labels + blockCount others :=
  List.countP_append

/-- A block in front of a trail counts once. -/
lemma blockCount_block (helper : String) (arg : Path) (labels : List Label) :
    blockCount (.block helper arg :: labels) = blockCount labels + 1 :=
  List.countP_cons_of_pos rfl

/-- No block is counted among places that are none. -/
lemma blockCount_eq_zero {labels : List Label} :
    blockCount labels = 0 ↔ ∀ label ∈ labels, label.isBlock = false := by
  simp [blockCount]

/-- Whether a text starts as an opening token does. -/
def opensBlock (text : String) : Bool :=
  ['\x7b', '\x7b', '#'].isPrefixOf text.toList

/-- The tag of a place is a valid one, if the place is an element. -/
def Label.Named : Label → Prop
  | .element tag => isTagName tag
  | _ => True

/-- The blocks among places with valid names are those whose text opens a block. -/
lemma Label.opensBlock_text {label : Label} (named : label.Named) :
    opensBlock label.text = label.isBlock := by
  match label with
  | .element tag =>
    change isTagName tag at named
    unfold isTagName at named
    unfold opensBlock text
    cases chars : tag.toList with
    | nil => rfl
    | cons first rest =>
      rw [chars] at named
      obtain ⟨start, -⟩ := Bool.and_eq_true_iff.1 named
      have brace : isNameStart '\x7b' = false := rfl
      have other : '\x7b' ≠ first := by
        rintro rfl
        rw [brace] at start
        cases start
      rw [List.isPrefixOf_cons_cons, beq_false_of_ne other, Bool.false_and]
      rfl
  | .block helper arg => simp [opensBlock, text, Token.text, isBlock]
  | .attribute name =>
    unfold opensBlock text
    rw [String.toList_append]
    rfl

/-- Puts places around an error, the first of them outermost. -/
def Error.under (labels : List Label) (error : Error) : Error :=
  { error with trail := labels ++ error.trail }

/-- To put an error under labels twice is to put it under all of them. -/
lemma Error.under_under (labels others : List Label) (error : Error) :
    (error.under others).under labels = error.under (labels ++ others) := by
  rw [under, under, under, List.append_assoc]

namespace Node

/-- The place that a node is for what is inside it. -/
def label? : Node → Option Label
  | .element tag _ _ => some (.element tag)
  | .block helper arg _ => some (.block helper arg)
  | _ => none

/-- A node occurs in a tree, with these places around it. -/
inductive OccursUnder (inner : Node) : List Label → Node → Prop where
  | self : OccursUnder inner [] inner
  | part {node part : Node} {labels : List Label} :
    part ∈ node.parts → OccursUnder inner labels part →
    OccursUnder inner (node.label?.toList ++ labels) node

/-- What occurs in a node that occurs in a tree has the places around both around it. -/
lemma OccursUnder.trans {inner node root : Node} {labels outer : List Label}
    (h : inner.OccursUnder labels node) (h' : node.OccursUnder outer root) :
    inner.OccursUnder (outer ++ labels) root := by
  induction h' with
  | self => exact h
  | part member _ ih =>
    rw [List.append_assoc]
    exact .part member ih

/-- What occurs under labels occurs. -/
lemma OccursUnder.occursIn {inner node : Node} {labels : List Label}
    (h : inner.OccursUnder labels node) : inner.OccursIn node := by
  induction h with
  | self => exact .self
  | part member _ ih => exact .part member ih

/-- All elements around blocks of a tree have valid tags. -/
def PlacesNamed (node : Node) : Prop :=
  ∀ helper arg body labels, (block helper arg body).OccursUnder labels node →
    ∀ label ∈ labels, label.Named

/-- The places in a tree have valid names if its own and those in its parts have. -/
lemma PlacesNamed.of_parts {node : Node} (here : ∀ label ∈ node.label?, label.Named)
    (parts : ∀ part ∈ node.parts, part.PlacesNamed) : node.PlacesNamed := by
  intro helper arg body labels occurs
  cases occurs with
  | self => exact List.forall_mem_nil _
  | part member occurs =>
    rw [List.forall_mem_append]
    refine ⟨fun label among => here label (Option.mem_toList.1 among), ?_⟩
    exact parts _ member helper arg body _ occurs

/-- A node that leaves no label has its places named if its parts have. -/
lemma PlacesNamed.of_bare {node : Node} (bare : node.label? = none)
    (parts : ∀ part ∈ node.parts, part.PlacesNamed) : node.PlacesNamed := by
  refine .of_parts (fun label own => ?_) parts
  rw [bare] at own
  cases own

/-- The places in a part of a node are places in the node, so they are named if those are. -/
lemma PlacesNamed.part {node : Node} (named : node.PlacesNamed) :
    ∀ part ∈ node.parts, part.PlacesNamed := by
  intro part member helper arg body labels occurs label among
  exact named helper arg body _ (.part member occurs) label (List.mem_append_right _ among)

/-- The places below a position are named if all places of the node are. -/
lemma PlacesNamed.of_occursUnder {node inner : Node} {labels : List Label}
    (named : node.PlacesNamed) (occurs : inner.OccursUnder labels node) : inner.PlacesNamed := by
  induction occurs with
  | self => exact named
  | part member _ ih => exact ih (named.part _ member)

/-- Where there is no block, the places are elements and attributes only. -/
lemma BlockFree.placesNamed {node : Node} (free : node.BlockFree) : node.PlacesNamed :=
  fun helper arg body _ occurs => absurd occurs.occursIn (free helper arg body)

/-- The places of a well-formed tree are named: each block has an identifier and a path. -/
lemma WellFormed.placesNamed {node : Node} (wf : node.WellFormed) : node.PlacesNamed := by
  induction node using parts_induction with
  | step node ih =>
    refine .of_parts (fun label own => ?_) fun part member => ih part member (wf.part part member)
    cases node with
    | element tag attrs children =>
      cases own
      exact (element_iff.1 wf).1
    | block helper arg body =>
      cases own
      trivial
    | var | raw | join | concat | group | literal | unescaped => cases own

end Node

end TreeTemplate
