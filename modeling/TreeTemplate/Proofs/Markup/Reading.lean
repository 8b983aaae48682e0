import TreeTemplate.Proofs.Markup.Scanner
import TreeTemplate.Proofs.Node.WellFormed
import TreeTemplate.Proofs.Value.Plain

/-!
# Markup determines the tree

`Node.contents` is what a tree says: its texts as they are before they are escaped, its elements, and
of an attribute nothing, its name, or its name and the text of its value, by a rule of its own
(`Node.attributeContent`).  Merging the texts gives the normal form of the tree (`Node.normalForm`).
The markup of a tree is that of its normal form (`Node.Readable.toText_eq`), and so it is read back
to just this: `Node.scan_toText`.

This is said of trees that are expanded and escaped throughout.  An unescaped value may hold any
markup, and an element inside the value of an attribute is written with quotes of its own.
-/

namespace TreeTemplate

namespace Content

/-- A text as it is. -/
def plain : Content → String
  | .text plain => plain
  | .element _ _ _ => ""

/-- The texts of a row as one. -/
def plainText (row : List Content) : String :=
  String.join (row.map plain)

end Content

namespace Node

/-- What an attribute says, given the text of its value.  One that is directly empty or `false` says
nothing, one that is directly `true` says its name, and any other its name and the text. -/
def attributeContent (name text : String) : Node → List (String × Option String)
  | .literal .none | .literal (.bool false) => []
  | .literal (.bool true) => [(name, none)]
  | _ => [(name, some text)]

mutual

/-- What a tree says, its texts not merged at the root. -/
def contents : Node → List Content
  | .element tag attrs children =>
    let attrs := match attrs with
      | none => []
      | some attrs => contentsOfAttrs attrs
    [.element tag attrs (Content.merged (contentsOfEach children).flatten)]
  | .join children => [.text " "].intercalate (contentsOfEach children)
  | .concat children => (contentsOfEach children).flatten
  | .group children => (contentsOfEach children).flatten
  | .literal value => [.text value.plain]
  | .unescaped value => [.text value.plain]
  | .var _ | .raw _ | .block _ _ _ => []
termination_by structural node => node

/-- What each tree of a row says. -/
def contentsOfEach : List Node → List (List Content)
  | [] => []
  | node :: rest => node.contents :: contentsOfEach rest
termination_by structural nodes => nodes

/-- What attributes say, in their order. -/
def contentsOfAttrs : List (String × Node) → List (String × Option String)
  | [] => []
  | (name, node) :: rest =>
    node.attributeContent name (Content.plainText node.contents) ++ contentsOfAttrs rest
termination_by structural attrs => attrs

end

/-- What a tree says, with the texts of each row merged. -/
def normalForm (node : Node) : List Content :=
  Content.merged node.contents

/-- Well-formed trees of elements and escaped values without maps, where attributes have texts. -/
structure Readable (node : Node) : Prop where
  wellFormed : node.WellFormed
  noVar : node.Without var
  noRaw : node.Without raw
  noBlock : node.BlockFree
  noUnescaped : node.Without unescaped
  noMap : ∀ value, (literal value).OccursIn node → value.MapFree
  textAttrs : ∀ tag attrs children, (element tag attrs children).OccursIn node →
    ∀ attr ∈ attrs.getD [], attr.2.ElementFree

/-- The parts of a tree that can be read back can be read back. -/
lemma Readable.part {node : Node} (readable : node.Readable) :
    ∀ part ∈ node.parts, part.Readable := by
  intro part member
  refine ⟨readable.wellFormed.part part member, readable.noVar.part part member,
    readable.noRaw.part part member, readable.noBlock.part part member,
    readable.noUnescaped.part part member, fun value occurs => ?_,
    fun tag attrs children occurs => ?_⟩
  · exact readable.noMap value (.part member occurs)
  · exact readable.textAttrs tag attrs children (.part member occurs)

/-- The contents of a list of nodes are those of each, in order. -/
lemma contentsOfEach_eq_map (nodes : List Node) : contentsOfEach nodes = nodes.map contents := by
  induction nodes with
  | nil => rfl
  | cons node rest ih => rw [contentsOfEach, ih, List.map_cons]

/-- What one attribute says. -/
def contentsOfAttr (attr : String × Node) : List (String × Option String) :=
  attr.2.attributeContent attr.1 (Content.plainText attr.2.contents)

/-- What an attribute says is what its written form has room for, unless its value is unescaped. -/
lemma attributeContent_eq {node : Node} (escaped : ∀ value, node ≠ .unescaped value)
    (name text : String) :
    node.attributeContent name text =
      match node.attributeForm with
      | .absent => []
      | .bare => [(name, none)]
      | .quoted => [(name, some text)] := by
  cases node with
  | literal value =>
    cases value with
    | bool b =>
      cases b with
      | true => rfl
      | false => rfl
    | none | integer | float | string | list | map => rfl
  | unescaped value => exact absurd rfl (escaped value)
  | element | var | raw | block | join | concat | group => rfl

/-- All that an attribute says is under its name. -/
lemma eq_of_mem_attributeContent {node : Node} {name text : String}
    {content : String × Option String} (member : content ∈ node.attributeContent name text) :
    content.1 = name := by
  unfold attributeContent at member
  split at member
  · cases member
  · cases member
  · rw [List.mem_singleton.1 member]
  · rw [List.mem_singleton.1 member]

/-- Attributes have the contents of each, in order. -/
lemma contentsOfAttrs_eq_flatMap (attrs : List (String × Node)) :
    contentsOfAttrs attrs = attrs.flatMap contentsOfAttr := by
  induction attrs with
  | nil => rfl
  | cons attr rest ih => rw [contentsOfAttrs, ih, List.flatMap_cons, contentsOfAttr]

/-- An element has one content: its tag with the attributes that are there, and what stands inside
it with neighbouring texts merged. -/
lemma contents_element (tag : String) (attrs : Option (List (String × Node)))
    (children : List Node) :
    (element tag attrs children).contents =
      [.element tag ((attrs.getD []).flatMap contentsOfAttr)
        (Content.merged (children.flatMap contents))] := by
  have row : children.flatMap contents = (contentsOfEach children).flatten := by
    rw [contentsOfEach_eq_map, List.flatMap_def]
  rw [row, ← contentsOfAttrs_eq_flatMap]
  cases attrs with
  | none => rfl
  | some attrs => rfl

/-- A join has the contents of its members with a space as text between each two. -/
lemma contents_join (nodes : List Node) :
    (join nodes).contents = [Content.text " "].intercalate (nodes.map contents) := by
  rw [contents, contentsOfEach_eq_map]

lemma contents_concat (nodes : List Node) : (concat nodes).contents = nodes.flatMap contents := by
  rw [contents, contentsOfEach_eq_map, List.flatMap_def]

lemma contents_group (nodes : List Node) : (group nodes).contents = nodes.flatMap contents := by
  rw [contents, contentsOfEach_eq_map, List.flatMap_def]

section

variable {P : Content → Prop} {nodes : List Node}
  (each : ∀ node ∈ nodes, ∀ content ∈ node.contents, P content)

include each

/-- What holds of all that the nodes of a row say holds of what the row says. -/
lemma forall_mem_flatMap_contents : ∀ content ∈ nodes.flatMap contents, P content := by
  intro content member
  obtain ⟨node, among, member⟩ := List.mem_flatMap.1 member
  exact each node among content member

/-- What holds of all that joined nodes say and of a space holds of what they say together. -/
lemma forall_mem_contents_join (space : P (.text " ")) :
    ∀ content ∈ (join nodes).contents, P content := by
  rw [contents_join]
  intro content member
  rcases mem_intercalate member with rfl | ⟨row, among, member⟩
  · exact space
  · obtain ⟨node, inRow, rfl⟩ := List.mem_map.1 among
    exact each node inRow content member

end

/-- Contents have valid names if the tree has, and rows in which texts are merged. -/
lemma WellFormed.contents_sound {node : Node} (wf : node.WellFormed) :
    ∀ content ∈ node.contents, content.Sound := by
  induction node with
  | element tag attrs children _ ihChildren =>
    obtain ⟨name, -, inAttrs, inChildren⟩ := element_iff.1 wf
    rw [contents_element]
    refine List.forall_mem_singleton.2 ⟨name, ?_, Content.row_merged ?_⟩
    · intro content member
      obtain ⟨attr, among, member⟩ := List.mem_flatMap.1 member
      rw [eq_of_mem_attributeContent member]
      exact (inAttrs attr among).1
    · exact forall_mem_flatMap_contents fun child among =>
        ihChildren child among (inChildren child among)
  | join nodes ih =>
    exact forall_mem_contents_join (fun node among => ih node among (wf.part node among)) trivial
  | concat nodes ih =>
    rw [contents_concat]
    exact forall_mem_flatMap_contents fun node among => ih node among (wf.part node among)
  | group nodes ih =>
    rw [contents_group]
    exact forall_mem_flatMap_contents fun node among => ih node among (wf.part node among)
  | literal | unescaped => exact List.forall_mem_singleton.2 trivial
  | var | raw | block => exact List.forall_mem_nil _

/-- A tree without elements says texts only. -/
lemma ElementFree.contents_text {node : Node} (free : node.ElementFree) :
    ∀ content ∈ node.contents, ∃ plain, content = .text plain := by
  induction node with
  | element tag attrs children => exact absurd .self (free tag attrs children)
  | join nodes ih =>
    exact forall_mem_contents_join (fun node among => ih node among (free.part node among))
      ⟨" ", rfl⟩
  | concat nodes ih =>
    rw [contents_concat]
    exact forall_mem_flatMap_contents fun node among => ih node among (free.part node among)
  | group nodes ih =>
    rw [contents_group]
    exact forall_mem_flatMap_contents fun node among => ih node among (free.part node among)
  | literal | unescaped => exact List.forall_mem_singleton.2 ⟨_, rfl⟩
  | var | raw | block => exact List.forall_mem_nil _

end Node

namespace Content

/-- The markup of a row of texts is their plain text, escaped. -/
lemma rowMarkup_of_text {row : List Content} (texts : ∀ content ∈ row, ∃ plain, content = .text plain) :
    rowMarkup row = Markup.escape (plainText row) := by
  induction row with
  | nil => rfl
  | cons content rest ih =>
    obtain ⟨⟨text, rfl⟩, tail⟩ := List.forall_mem_cons.1 texts
    have cons : plainText (.text text :: rest) = text ++ plainText rest := by
      rw [plainText, List.map_cons, String.join_cons]
      rfl
    rw [rowMarkup, markup, ih tail, cons, Markup.escape_append]

/-- Rows with a text between each two are written with that text between each two. -/
lemma rowMarkup_intercalate (separator : String) (rows : List (List Content)) :
    rowMarkup ([Content.text separator].intercalate rows) =
      (Markup.escape separator).intercalate (rows.map rowMarkup) := by
  induction rows with
  | nil => rfl
  | cons row rest ih =>
    cases rest with
    | nil => rw [List.intercalate_singleton, List.map_singleton, String.intercalate_singleton]
    | cons next rest =>
      have single : rowMarkup [text separator] = Markup.escape separator := by
        rw [rowMarkup, rowMarkup, String.append_empty, markup]
      rw [List.intercalate_cons_cons, rowMarkup_append, rowMarkup_append, ih, single, List.map_cons,
        List.map_cons, List.map_cons, String.intercalate_cons_cons]

/-- The markup of a list of rows is that of each row, joined. -/
lemma rowMarkup_flatMap {α : Type} (row : α → List Content) (as : List α) :
    rowMarkup (as.flatMap row) = String.join (as.map fun a => rowMarkup (row a)) := by
  induction as with
  | nil => rfl
  | cons a as ih =>
    rw [List.flatMap_cons, rowMarkup_append, ih, List.map_cons, String.join_cons]

end Content

namespace Node

open Content (rowMarkup attrMarkup)

/-- An attribute is written as what it says, if its value is. -/
lemma attributeText_eq {attr : String × Node} (free : attr.2.ElementFree)
    (escaped : attr.2.Without unescaped)
    (value : attr.2.toText = .ok (rowMarkup attr.2.contents)) :
    attributeText attr = .ok (String.join ((contentsOfAttr attr).map attrMarkup)) := by
  have direct : ∀ value, attr.2 ≠ .unescaped value := by
    intro value same
    exact escaped value (same ▸ .self)
  rw [attributeText, contentsOfAttr, attributeContent_eq direct]
  cases attr.2.attributeForm with
  | absent => rfl
  | bare => exact congrArg Except.ok (join_singleton _).symm
  | quoted =>
    -- between the quotes there are only texts, and these say what their one text says
    rw [value, Content.rowMarkup_of_text free.contents_text]
    exact congrArg Except.ok (join_singleton _).symm

/-- Nodes that are written as the markup of their contents are so as a list. -/
lemma join_mapM_toText {nodes : List Node}
    (each : ∀ node ∈ nodes, node.toText = .ok (rowMarkup node.contents)) :
    String.join <$> nodes.mapM toText = .ok (rowMarkup (nodes.flatMap contents)) := by
  rw [mapM_eq_ok_map each, Content.rowMarkup_flatMap]
  rfl

/-- Attributes that are written as the markup of their contents are so as a list. -/
lemma join_mapM_attributeText {attrs : List (String × Node)}
    (each : ∀ attr ∈ attrs,
      attributeText attr = .ok (String.join ((contentsOfAttr attr).map attrMarkup))) :
    String.join <$> attrs.mapM attributeText =
      .ok (String.join ((attrs.flatMap contentsOfAttr).map attrMarkup)) := by
  rw [mapM_eq_ok_map each]
  refine congrArg Except.ok ?_
  clear each
  induction attrs with
  | nil => rfl
  | cons attr rest ih =>
    rw [List.map_cons, String.join_cons, ih, List.flatMap_cons, List.map_append, String.join_append]

/-- A tree that can be read back is written as the markup of its contents. -/
lemma Readable.toText_contents {node : Node} (readable : node.Readable) :
    node.toText = .ok (rowMarkup node.contents) := by
  induction node with
  | element tag attrs children ihAttrs ihChildren =>
    obtain ⟨inAttrs, inChildren⟩ := forall_mem_parts_element.1 readable.part
    have texts : ∀ attr ∈ attrs.getD [],
        attributeText attr = .ok (String.join ((contentsOfAttr attr).map attrMarkup)) :=
      fun attr among => attributeText_eq (readable.textAttrs tag attrs children .self attr among)
        (inAttrs attr among).noUnescaped (ihAttrs attr among (inAttrs attr among))
    have row := join_mapM_toText fun child among =>
      ihChildren child among (inChildren child among)
    rw [toText_element, join_mapM_attributeText texts, row, contents_element, rowMarkup, rowMarkup,
      Content.markup, Content.rowMarkup_merged, String.append_empty]
    rfl
  | join nodes ih =>
    rw [toText_join, mapM_eq_ok_map fun node among => ih node among (readable.part node among),
      contents_join, Content.rowMarkup_intercalate, List.map_map]
    rfl
  | concat nodes ih =>
    rw [toText_concat, contents_concat]
    exact join_mapM_toText fun node among => ih node among (readable.part node among)
  | group nodes ih =>
    rw [toText_group, contents_group]
    exact join_mapM_toText fun node among => ih node among (readable.part node among)
  | literal value =>
    -- the text of a value without maps is its plain text, escaped
    obtain ⟨-, escaped⟩ := (readable.noMap value .self).toText
    rw [toText_literal, escaped, contents, rowMarkup, rowMarkup, String.append_empty, Content.markup]
  | var path => exact absurd .self (readable.noVar path)
  | raw path => exact absurd .self (readable.noRaw path)
  | block helper arg body => exact absurd .self (readable.noBlock helper arg body)
  | unescaped value => exact absurd .self (readable.noUnescaped value)

/-- A tree that can be read back is written as the markup of its normal form. -/
lemma Readable.toText_eq {node : Node} (readable : node.Readable) :
    node.toText = .ok (rowMarkup node.normalForm) := by
  rw [readable.toText_contents, normalForm, Content.rowMarkup_merged]

/-- Reading the markup of a tree gives its normal form, so that trees with the same markup have the
same normal form. -/
theorem scan_toText {node : Node} (readable : node.Readable) :
    (∃ text, node.toText = .ok text ∧ Markup.scan text = some node.normalForm)
      ∧ ∀ other : Node, other.Readable → other.toText = node.toText →
        other.normalForm = node.normalForm := by
  have reads : ∀ node : Node, node.Readable →
      Markup.scan (rowMarkup node.normalForm) = some node.normalForm :=
    fun node readable =>
      Markup.scan_rowMarkup (Content.row_merged readable.wellFormed.contents_sound)
  refine ⟨⟨_, readable.toText_eq, reads node readable⟩, fun other readable' same => ?_⟩
  rw [readable'.toText_eq, readable.toText_eq] at same
  have markup : rowMarkup other.normalForm = rowMarkup node.normalForm := Except.ok.inj same
  have both := reads other readable'
  rw [markup, reads node readable] at both
  exact (Option.some.inj both).symm

/-- A bare name, attributes that are left out, and escaped characters are told apart. -/
theorem scan_toText_of_escaped_title :
    let node : Node :=
      .element "p"
        (some [("checked", .literal (.bool false)), ("hidden", .literal (.bool true)),
          ("lang", .literal .none),
          ("title", .join [.literal (.string "a<b"), .literal (.string "\x22")])])
        [.join [.literal (.list [.integer 1, .string " & "]), .element "br" none [], .concat []]]
    let text := "<p hidden title=\x22a&lt;b &quot;\x22>1 &amp;  <br></br> </p>"
    let contents : List Content :=
      [.element "p" [("hidden", none), ("title", some "a<b \x22")]
        [.text "1 &  ", .element "br" [] [], .text " "]]
    node.Readable ∧ node.toText = .ok text ∧ Markup.scan text = some contents
      ∧ ∀ other : Node, other.Readable → other.toText = .ok text → other.normalForm = contents := by
  intro node text contents
  have readable : node.Readable := by
    refine ⟨?_, ?_, ?_, ?_, ?_, ?_, ?_⟩
    · simp only [node, WellFormed, AllWellFormed, AttrsWellFormed, Value.WellFormed,
        Value.AllWellFormed, Entries.Sorted]
      decide
    · simp [Without, node]
    · simp [Without, node]
    · simp [BlockFree, node]
    · simp [Without, node]
    · intro value occurs
      have literals : (value = .bool false ∨ value = .bool true ∨ value = .none
          ∨ value = .string "a<b" ∨ value = .string "\x22")
          ∨ value = .list [.integer 1, .string " & "] := by
        simpa [node] using occurs
      rcases literals with (rfl | rfl | rfl | rfl | rfl) | rfl
      · exact .bool false
      · exact .bool true
      · exact .none
      · exact .string _
      · exact .string _
      · exact .list (List.forall_mem_cons.2 ⟨.integer 1, List.forall_mem_singleton.2 (.string _)⟩)
    · intro tag attrs children occurs
      simp only [node, occursIn_element, occursIn_join, occursIn_concat, occursIn_literal,
        element.injEq, Option.getD_some, Option.getD_none, List.mem_cons, List.not_mem_nil,
        or_false, exists_eq_or_imp, exists_eq_left, false_and, exists_false, reduceCtorEq,
        false_or] at occurs
      rcases occurs with ⟨-, rfl, -⟩ | ⟨-, rfl, -⟩
      · simp [ElementFree]
      · exact List.forall_mem_nil _
  have written : node.toText = .ok text := rfl
  have form : node.normalForm = contents := rfl
  obtain ⟨⟨text', written', reads⟩, unique⟩ := scan_toText readable
  rw [written] at written'
  cases written'
  rw [form] at reads unique
  rw [written] at unique
  exact ⟨readable, written, reads, unique⟩

end Node

end TreeTemplate
