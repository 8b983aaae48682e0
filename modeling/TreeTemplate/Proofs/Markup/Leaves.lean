import TreeTemplate.Proofs.Expansion.Normal
import TreeTemplate.Proofs.Markup.Text
import TreeTemplate.Proofs.Value.Plain

/-!
# Where writing a tree fails

A tree is written in document order: the attributes of an element in front of its children.  The
leaves of a tree are its placeholders and values in that order, each with the elements and attributes
around it (`Node.leaves`).  A placeholder has no text, and neither has a value with a map in it.  The
first leaf without text is where writing ends, and the places around it are the trail of the error
(`Node.findSome?_pieces`); if there is none the tree has a text.
-/

namespace TreeTemplate

namespace Value

mutual

/-- Whether a map is in a value, at any depth of lists. -/
def hasMap : Value → Bool
  | .map _ => true
  | .list items => anyHasMap items
  | .none | .bool _ | .integer _ | .float _ | .string _ => false
termination_by structural value => value

/-- Whether a map is in one of the values. -/
def anyHasMap : List Value → Bool
  | [] => false
  | item :: rest => item.hasMap || anyHasMap rest
termination_by structural items => items

end

/-- A list has a map in it if one of its items has. -/
lemma hasMap_list (items : List Value) : (list items).hasMap = items.any hasMap := by
  have each : anyHasMap items = items.any hasMap := by
    induction items with
    | nil => rfl
    | cons item rest ih => rw [anyHasMap, ih, List.any_cons]
  exact each

/-- A value is without a map exactly if no part of it is one. -/
lemma hasMap_eq_false_iff {value : Value} : value.hasMap = false ↔ value.MapFree := by
  induction value with
  | none => exact iff_of_true rfl .none
  | bool b => exact iff_of_true rfl (.bool b)
  | integer n => exact iff_of_true rfl (.integer n)
  | float x => exact iff_of_true rfl (.float x)
  | string text => exact iff_of_true rfl (.string text)
  | list items ih =>
    rw [hasMap_list, List.any_eq_false]
    constructor
    · intro none
      exact .list fun item among => (ih item among).1 (Bool.eq_false_iff.2 (none item among))
    · intro free item among
      cases free with
      | list each => exact Bool.eq_false_iff.1 ((ih item among).2 (each item among))
  | map entries => exact iff_of_false Bool.noConfusion (by intro free; cases free)

end Value

/-- The error that a piece is instead of a text. -/
def Piece.error? : Piece → Option Error
  | .ok _ => none
  | .error error => some error

/-- The text of pieces fails with the first error among them, and only so. -/
lemma textOf_eq_error_iff {pieces : List Piece} {error : Error} :
    textOf pieces = .error error ↔ pieces.findSome? Piece.error? = some error := by
  induction pieces with
  | nil => exact iff_of_false (by intro same; cases same) (by intro same; cases same)
  | cons piece rest ih =>
    rw [textOf, List.findSome?_cons, bind_eq_error_iff]
    cases piece with
    | error first => simp [Piece.error?]
    | ok text => simp [Piece.error?, bind_eq_error_iff, ih]

namespace Value

variable {treat : String → String}

/-- The first error of a value is that it has a map in it, if it has one. -/
lemma findSome?_pieces (value : Value) :
    (value.pieces treat).findSome? Piece.error? =
      if value.hasMap then some ⟨.unformattable .map, [], .none⟩ else .none := by
  induction value with
  | none | bool | integer | float | string | map => rfl
  | list items ih =>
    rw [pieces, piecesEach_eq_map, ← List.flatMap_def, findSome?_flatMap, findSome?_congr ih,
      hasMap_list]
    clear ih
    induction items with
    | nil => rfl
    | cons item rest ih =>
      rw [List.findSome?_cons, ih, List.any_cons]
      cases item.hasMap with
      | false => rfl
      | true => rfl

end Value

namespace Node

/-- A placeholder or a value in a tree, with the elements and attributes around it, outermost first. -/
structure Leaf where
  labels : List Label
  node : Node

/-- The leaf with one more place around it. -/
def Leaf.inside (label : Label) (leaf : Leaf) : Leaf :=
  { leaf with labels := label :: leaf.labels }

mutual

/-- The placeholders and values of a tree in document order.  The body of a block is not looked at. -/
def leaves : Node → List Leaf
  | .element tag attrs children =>
    let attrs := match attrs with
      | none => []
      | some attrs => leavesAttrs attrs
    (attrs ++ leavesEach children).map (Leaf.inside (.element tag))
  | .join children => leavesEach children
  | .concat children => leavesEach children
  | .group children => leavesEach children
  | .var path => [⟨[], .var path⟩]
  | .raw path => [⟨[], .raw path⟩]
  | .block helper arg body => [⟨[], .block helper arg body⟩]
  | .literal value => [⟨[], .literal value⟩]
  | .unescaped value => [⟨[], .unescaped value⟩]
termination_by structural node => node

/-- The leaves of trees in a row. -/
def leavesEach : List Node → List Leaf
  | [] => []
  | node :: rest => node.leaves ++ leavesEach rest
termination_by structural nodes => nodes

/-- The leaves of the values of attributes. -/
def leavesAttrs : List (String × Node) → List Leaf
  | [] => []
  | (name, node) :: rest => node.leaves.map (Leaf.inside (.attribute name)) ++ leavesAttrs rest
termination_by structural attrs => attrs

end

/-- The leaves of the value of an attribute. -/
def attributeLeaves (attr : String × Node) : List Leaf :=
  attr.2.leaves.map (Leaf.inside (.attribute attr.1))

/-- The leaves of a list of nodes are those of each, in order. -/
lemma leavesEach_eq_flatMap (nodes : List Node) : leavesEach nodes = nodes.flatMap leaves := by
  induction nodes with
  | nil => rfl
  | cons node rest ih => rw [leavesEach, ih, List.flatMap_cons]

/-- The leaves of attributes are those of each value under its name, in order. -/
lemma leavesAttrs_eq_flatMap (attrs : List (String × Node)) :
    leavesAttrs attrs = attrs.flatMap attributeLeaves := by
  induction attrs with
  | nil => rfl
  | cons attr rest ih =>
    rw [leavesAttrs, ih, List.flatMap_cons]
    rfl

/-- The leaves of an element are those of its attributes, then of its children, inside its tag. -/
lemma leaves_element (tag : String) (attrs : Option (List (String × Node)))
    (children : List Node) :
    (element tag attrs children).leaves = List.map (Leaf.inside (.element tag))
      ((attrs.getD []).flatMap attributeLeaves ++ children.flatMap leaves) := by
  rw [← leavesEach_eq_flatMap, ← leavesAttrs_eq_flatMap]
  cases attrs with
  | none => rfl
  | some attrs => rfl

/-- Why a node has no text, whatever is around it. -/
def offence? : Node → Option Cause
  | .var path => some (.unexpanded (.var path))
  | .raw path => some (.unexpanded (.raw path))
  | .block helper arg _ => some (.unexpanded (.opening helper arg))
  | .literal value | .unescaped value => if value.hasMap then some (.unformattable .map) else none
  | .element _ _ _ | .join _ | .concat _ | .group _ => none

/-- The error of a leaf that has no text. -/
def Leaf.error? (leaf : Leaf) : Option Error :=
  leaf.node.offence?.map fun cause => ⟨cause, leaf.labels, none⟩

/-- A place around pieces is put around their first error. -/
lemma findSome?_map_within (label : Label) (pieces : List Piece) :
    (pieces.map (within label)).findSome? Piece.error? =
      (pieces.findSome? Piece.error?).map (Error.within label) := by
  rw [List.findSome?_map, List.map_findSome?]
  refine findSome?_congr fun piece _ => ?_
  cases piece with
  | error error => rfl
  | ok text => rfl

/-- A place around leaves is put around the first of their errors. -/
lemma findSome?_map_inside (label : Label) (leaves : List Leaf) :
    (leaves.map (Leaf.inside label)).findSome? Leaf.error? =
      (leaves.findSome? Leaf.error?).map (Error.within label) := by
  rw [List.findSome?_map, List.map_findSome?]
  refine findSome?_congr fun leaf _ => ?_
  rw [Function.comp_apply, Function.comp_apply, Leaf.error?, Leaf.error?, Leaf.inside,
    Option.map_map]
  rfl

/-- An attribute that is not in quotes has nothing in its value that cannot be written. -/
lemma findSome?_leaves_of_not_quoted {node : Node} (form : node.attributeForm ≠ .quoted) :
    node.leaves.findSome? Leaf.error? = none := by
  unfold attributeForm at form
  split at form
  · rfl
  · rfl
  · rfl
  · rfl
  · rfl
  · rfl
  · exact absurd rfl form

/-- The first error of an attribute is that of its first bad leaf, if this is so of its value. -/
lemma findSome?_attributePieces {attr : String × Node}
    (value : attr.2.pieces.findSome? Piece.error? = attr.2.leaves.findSome? Leaf.error?) :
    (attributePieces attr).findSome? Piece.error? =
      (attributeLeaves attr).findSome? Leaf.error? := by
  rw [attributeLeaves, findSome?_map_inside, attributePieces]
  cases form : attr.2.attributeForm with
  | absent | bare =>
    rw [findSome?_leaves_of_not_quoted (by rw [form]; decide)]
    rfl
  | quoted =>
    dsimp only
    rw [List.findSome?_append, List.findSome?_cons, findSome?_map_within, value]
    exact Option.or_none

/-- Writing a tree fails at the first leaf that has no text. -/
theorem findSome?_pieces (node : Node) :
    node.pieces.findSome? Piece.error? = node.leaves.findSome? Leaf.error? := by
  induction node with
  | element tag attrs children ihAttrs ihChildren =>
    have attributes : ((attrs.getD []).flatMap attributePieces).findSome? Piece.error? =
        ((attrs.getD []).flatMap attributeLeaves).findSome? Leaf.error? := by
      rw [findSome?_flatMap, findSome?_flatMap]
      exact findSome?_congr fun attr among => findSome?_attributePieces (ihAttrs attr among)
    have row : (children.flatMap pieces).findSome? Piece.error? =
        (children.flatMap leaves).findSome? Leaf.error? := by
      rw [findSome?_flatMap, findSome?_flatMap]
      exact findSome?_congr ihChildren
    rw [pieces_element, leaves_element, findSome?_map_within, findSome?_map_inside]
    refine congrArg (Option.map (Error.within (.element tag))) ?_
    -- the brackets and the tags are texts, so only the attributes and the children count
    simp only [List.findSome?_append, List.findSome?_cons, List.findSome?_nil, Piece.error?,
      List.cons_append, Option.or_none, attributes, row]
  | join nodes ih =>
    cases nodes with
    | nil => rfl
    | cons first rest =>
      obtain ⟨head, tail⟩ := List.forall_mem_cons.1 ih
      rw [pieces_join_cons, leaves, leavesEach_eq_flatMap, List.flatMap_cons,
        List.findSome?_append, List.findSome?_append, head, findSome?_flatMap, findSome?_flatMap]
      exact congrArg _ (findSome?_congr tail)
  | concat nodes ih =>
    rw [pieces_concat, leaves, leavesEach_eq_flatMap, findSome?_flatMap, findSome?_flatMap]
    exact findSome?_congr ih
  | group nodes ih =>
    rw [pieces_group, leaves, leavesEach_eq_flatMap, findSome?_flatMap, findSome?_flatMap]
    exact findSome?_congr ih
  | literal value | unescaped value =>
    rw [pieces, Value.findSome?_pieces, leaves, List.findSome?_cons, Leaf.error?, offence?]
    cases value.hasMap with
    | false => rfl
    | true => rfl
  | var | raw | block => rfl

/-- A tree has a text, or writing it fails with the error of its first leaf that has none. -/
lemma toText_eq_error_iff {node : Node} {error : Error} :
    node.toText = .error error ↔ node.leaves.findSome? Leaf.error? = some error := by
  rw [toText_eq_textOf, textOf_eq_error_iff, findSome?_pieces]

/-- Every leaf is at some place of the tree. -/
lemma occursIn_of_mem_leaves {node : Node} {leaf : Leaf} (member : leaf ∈ node.leaves) :
    leaf.node.OccursIn node := by
  induction node generalizing leaf with
  | element tag attrs children ihAttrs ihChildren =>
    rw [leaves_element] at member
    obtain ⟨inner, inParts, rfl⟩ := List.mem_map.1 member
    obtain inAttrs | inChildren := List.mem_append.1 inParts
    · obtain ⟨attr, among, inAttr⟩ := List.mem_flatMap.1 inAttrs
      obtain ⟨innermost, inValue, rfl⟩ := List.mem_map.1 inAttr
      have occurs := ihAttrs attr among inValue
      exact .part (List.mem_append_left _ (List.mem_map_of_mem among)) occurs
    · obtain ⟨child, among, inChild⟩ := List.mem_flatMap.1 inChildren
      have occurs := ihChildren child among inChild
      exact .part (List.mem_append_right _ among) occurs
  | join nodes ih | concat nodes ih | group nodes ih =>
    rw [leaves, leavesEach_eq_flatMap] at member
    obtain ⟨node, among, inNode⟩ := List.mem_flatMap.1 member
    exact .part among (ih node among inNode)
  | var | raw | block | literal | unescaped =>
    cases List.mem_singleton.1 member
    exact .self

/-- All leaves have a text if nothing at any place of the tree has none. -/
lemma offence?_leaves_eq_none_iff {node : Node} :
    (∀ leaf ∈ node.leaves, leaf.node.offence? = none) ↔
      node.Everywhere fun inner => inner.offence? = none := by
  induction node with
  | element tag attrs children ihAttrs ihChildren =>
    have here : (element tag attrs children).offence? = none := rfl
    have attributes : (∀ attr ∈ attrs.getD [], ∀ leaf ∈ attributeLeaves attr,
        leaf.node.offence? = none) ↔
          ∀ attr ∈ attrs.getD [], attr.2.Everywhere fun inner => inner.offence? = none :=
      forall₂_congr fun attr among => List.forall_mem_map.trans (ihAttrs attr among)
    have row := forall₂_congr ihChildren
    rw [everywhere_iff, forall_mem_parts_element, leaves_element, List.forall_mem_map,
      List.forall_mem_append, List.forall_mem_flatMap, List.forall_mem_flatMap, ← attributes, ← row]
    exact (and_iff_right here).symm
  | join nodes ih | concat nodes ih | group nodes ih =>
    rw [everywhere_iff, leaves, leavesEach_eq_flatMap, List.forall_mem_flatMap]
    exact (forall₂_congr ih).trans (and_iff_right rfl).symm
  | block helper arg body =>
    -- a block offends itself, so that its body does not matter
    rw [everywhere_iff, leaves, List.forall_mem_singleton]
    refine iff_of_false (by intro none; cases none) ?_
    rintro ⟨none, -⟩
    cases none
  | var | raw | literal | unescaped =>
    rw [everywhere_iff, leaves, List.forall_mem_singleton]
    exact (and_iff_left (List.forall_mem_nil _)).symm

/-- What has no text is a placeholder or a value with a map in it. -/
lemma everywhere_offence?_iff {node : Node} :
    (node.Everywhere fun inner => inner.offence? = none) ↔
      node.Without var ∧ node.Without raw ∧ node.BlockFree
        ∧ ∀ value, (literal value).OccursIn node ∨ (unescaped value).OccursIn node →
          value.MapFree := by
  constructor
  · intro h
    refine ⟨fun path occurs => ?_, fun path occurs => ?_, fun helper arg body occurs => ?_,
      fun value occurs => ?_⟩
    · cases h _ occurs
    · cases h _ occurs
    · cases h _ occurs
    · have here : (if value.hasMap then some (Cause.unformattable .map) else none) = none :=
        occurs.elim (h _) (h _)
      rw [← Value.hasMap_eq_false_iff, ← Bool.not_eq_true]
      intro map
      rw [if_pos map] at here
      cases here
  · rintro ⟨noVar, noRaw, free, values⟩ inner occurs
    cases inner with
    | var path => exact absurd occurs (noVar path)
    | raw path => exact absurd occurs (noRaw path)
    | block helper arg body => exact absurd occurs (free helper arg body)
    | literal value =>
      rw [offence?, Value.hasMap_eq_false_iff.2 (values value (.inl occurs))]
      rfl
    | unescaped value =>
      rw [offence?, Value.hasMap_eq_false_iff.2 (values value (.inr occurs))]
      rfl
    | element | join | concat | group => rfl

/-- A tree has a text exactly if no node at any position in it is an offence. -/
lemma exists_toText_eq_ok_iff {node : Node} :
    (∃ text, node.toText = .ok text) ↔ node.Everywhere fun inner => inner.offence? = none := by
  have first : (∃ text, node.toText = .ok text) ↔ node.leaves.findSome? Leaf.error? = none := by
    cases ends : node.toText with
    | ok text =>
      refine iff_of_true ⟨text, rfl⟩ (Option.eq_none_iff_forall_ne_some.2 fun error found => ?_)
      rw [toText_eq_error_iff.2 found] at ends
      cases ends
    | error error =>
      rw [toText_eq_error_iff.1 ends]
      exact iff_of_false (by rintro ⟨text, same⟩; cases same) (by intro same; cases same)
  rw [first, List.findSome?_eq_none_iff, ← offence?_leaves_eq_none_iff]
  exact forall₂_congr fun leaf _ => Option.map_eq_none_iff

/-- Whatever cannot be written is an error of formatting. -/
lemma kind_of_offence? {node : Node} {cause : Cause} (offends : node.offence? = some cause) :
    cause.kind = .format := by
  cases node with
  | var | raw | block =>
    cases offends
    rfl
  | literal value | unescaped value =>
    rw [offence?] at offends
    split at offends
    · cases offends
      rfl
    · cases offends
  | element | join | concat | group => cases offends

/-- An error of a value is that there is a map in it. -/
lemma offence?_of_not_placeholder {node : Node} {cause : Cause}
    (other : node.isPlaceholder = false) (offends : node.offence? = some cause) :
    cause = .unformattable .map
      ∧ ∃ value, (node = literal value ∨ node = unescaped value) ∧ ¬ value.MapFree := by
  have map : ∀ value : Value,
      (if value.hasMap then some (Cause.unformattable .map) else none) = some cause →
        cause = .unformattable .map ∧ ¬ value.MapFree := by
    intro value offends
    rw [← Value.hasMap_eq_false_iff, Bool.not_eq_false]
    split at offends
    · cases offends
      exact ⟨rfl, ‹_›⟩
    · cases offends
  cases node with
  | literal value =>
    obtain ⟨same, map⟩ := map value offends
    exact ⟨same, value, .inl rfl, map⟩
  | unescaped value =>
    obtain ⟨same, map⟩ := map value offends
    exact ⟨same, value, .inr rfl, map⟩
  | var | raw | block => cases other
  | element | join | concat | group => cases offends

/-- Writing a tree fails at the first leaf that has no text, and the places around this leaf are the
trail. -/
lemma toText_eq_error_iff_exists {node : Node} {error : Error} :
    node.toText = .error error ↔
      ∃ before leaf after cause, node.leaves = before ++ leaf :: after
        ∧ (∀ earlier ∈ before, earlier.node.offence? = none)
        ∧ leaf.node.offence? = some cause ∧ error = ⟨cause, leaf.labels, none⟩ := by
  rw [toText_eq_error_iff, List.findSome?_eq_some_iff]
  constructor
  · rintro ⟨before, leaf, after, split, here, earlier⟩
    obtain ⟨cause, offends, rfl⟩ := Option.map_eq_some_iff.1 here
    exact ⟨before, leaf, after, cause, split,
      fun other among => Option.map_eq_none_iff.1 (earlier other among), offends, rfl⟩
  · rintro ⟨before, leaf, after, cause, split, earlier, offends, rfl⟩
    exact ⟨before, leaf, after, split, Option.map_eq_some_iff.2 ⟨cause, offends, rfl⟩,
      fun other among => Option.map_eq_none_iff.2 (earlier other among)⟩

/-- Writing a tree without placeholders fails at a value with a map in it. -/
lemma cause_of_toText_eq_error {node : Node}
    (resolved : node.Everywhere fun inner => inner.isPlaceholder = false) {error : Error}
    (fails : node.toText = .error error) :
    error.cause = .unformattable .map
      ∧ ∃ value, ((literal value).OccursIn node ∨ (unescaped value).OccursIn node)
        ∧ ¬ value.MapFree := by
  obtain ⟨before, leaf, after, cause, split, -, offends, rfl⟩ := toText_eq_error_iff_exists.1 fails
  have member : leaf ∈ node.leaves := by
    rw [split]
    exact List.mem_append_right before List.mem_cons_self
  have occurs := occursIn_of_mem_leaves member
  obtain ⟨same, value, inLeaf, map⟩ := offence?_of_not_placeholder (resolved _ occurs) offends
  refine ⟨same, value, ?_, map⟩
  obtain same | same := inLeaf
  · rw [same] at occurs
    exact .inl occurs
  · rw [same] at occurs
    exact .inr occurs

/-- No placeholder is left in an expanded tree. -/
lemma not_placeholder_of_expandFrom {engine : Engine} {source : Source} {context : Value}
    {node : Node} (expands : engine.expandFrom source context = .ok node) :
    node.Everywhere fun inner => inner.isPlaceholder = false := by
  obtain ⟨root, expands⟩ := Engine.exists_expand_of_expandFrom expands
  obtain ⟨fragment, runs, rfl⟩ := map_eq_ok_iff.1 expands
  have normal := normal_toRoot (Expansion.run_settled _ runs)
  exact fun inner occurs => (normal.everywhere_isExpanded inner occurs).1

/-- A tree has a text if and only if no placeholder is at any place of it and no map is in a value at
any place.  Otherwise writing it fails at the first leaf in document order that is a placeholder or
has a map in its value, and the trail names the elements and attributes around this leaf.  An expanded
tree has no placeholders, so it has a text unless there is a map in a value. -/
theorem toText_of_leaves (node : Node) :
    ((∃ text, node.toText = .ok text) ↔
        node.Without var ∧ node.Without raw ∧ node.BlockFree
          ∧ ∀ value, (literal value).OccursIn node ∨ (unescaped value).OccursIn node →
            value.MapFree)
      ∧ (∀ error, node.toText = .error error ↔
        ∃ before leaf after cause, node.leaves = before ++ leaf :: after
          ∧ (∀ earlier ∈ before, earlier.node.offence? = none)
          ∧ leaf.node.offence? = some cause ∧ error = ⟨cause, leaf.labels, none⟩)
      ∧ (∀ error, node.toText = .error error → error.kind = .format)
      ∧ ∀ (engine : Engine) (source : Source),
        ((∃ context, engine.expandFrom source context = .ok node)
          ∨ ∃ data, engine.expand source data = .ok node) →
        ∀ error, node.toText = .error error →
          error.cause = .unformattable .map
            ∧ ∃ value, ((literal value).OccursIn node ∨ (unescaped value).OccursIn node)
              ∧ ¬ value.MapFree := by
  refine ⟨exists_toText_eq_ok_iff.trans everywhere_offence?_iff,
    fun error => toText_eq_error_iff_exists, fun error fails => ?_, ?_⟩
  · obtain ⟨-, leaf, -, cause, -, -, offends, rfl⟩ := toText_eq_error_iff_exists.1 fails
    exact kind_of_offence? offends
  · rintro engine source (⟨context, expands⟩ | ⟨data, expands⟩) error fails
    · exact cause_of_toText_eq_error (not_placeholder_of_expandFrom expands) fails
    · obtain ⟨context, -, expands⟩ := bind_eq_ok_iff.1 expands
      exact cause_of_toText_eq_error (not_placeholder_of_expandFrom expands) fails

/-- Of two offenders the one in the attribute is reported, as it is written first, and an expansion
that puts a map into an attribute has no text for that reason alone. -/
theorem toText_of_leaves_of_map_in_attribute :
    let data : Value := .map [("url", .map [])]
    let title : Node := .concat [.literal (.string "a"), .element "b" none [.raw (.current ["url"])]]
    let node : Node :=
      .element "p" none [.element "a" (some [("title", title)]) [.literal data], .var .this]
    let link : Node := .element "a" (some [("href", .var (.current ["url"]))]) []
    let expanded : Node := .element "a" (some [("href", .literal (.map []))]) []
    let error : Error :=
      ⟨.unexpanded (.raw (.current ["url"])),
        [.element "p", .element "a", .attribute "title", .element "b"], none⟩
    let expandedError : Error :=
      ⟨.unformattable .map, [.element "a", .attribute "href"], none⟩
    node.toText = .error error ∧ error.kind = .format
      ∧ Engine.new.expandFrom (.tree link) data = .ok expanded
      ∧ expanded.toText = .error expandedError
      ∧ ∃ value, ((literal value).OccursIn expanded ∨ (unescaped value).OccursIn expanded)
        ∧ ¬ value.MapFree := by
  intro data title node link expanded error expandedError
  obtain ⟨-, fails, kind, -⟩ := toText_of_leaves node
  obtain ⟨-, failsExpanded, -, onlyMaps⟩ := toText_of_leaves expanded
  have first : node.toText = .error error := by
    refine (fails error).2 ⟨[⟨[.element "p", .element "a", .attribute "title"],
      .literal (.string "a")⟩], ⟨error.trail, .raw (.current ["url"])⟩, _, _, rfl, ?_, rfl, rfl⟩
    exact List.forall_mem_singleton.2 rfl
  have only : expanded.toText = .error expandedError :=
    (failsExpanded expandedError).2 ⟨[], ⟨expandedError.trail, .literal (.map [])⟩, [], _, rfl,
      List.forall_mem_nil _, rfl, rfl⟩
  have expands : Engine.new.expandFrom (.tree link) data = .ok expanded := rfl
  obtain ⟨-, map⟩ := onlyMaps .new (.tree link) (.inl ⟨data, expands⟩) expandedError only
  exact ⟨first, kind error first, expands, only, map⟩

end Node

end TreeTemplate
