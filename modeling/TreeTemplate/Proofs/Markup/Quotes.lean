import TreeTemplate.Proofs.Node.Named
import TreeTemplate.Proofs.Value.Plain

/-!
# Quotes inside attributes

The value of an attribute is written between quotes, in the same way as it would be written among
the children.  Names and escaped values have no quotes, so a value has one in its text only if there
is an element in it that has an attribute in quotes itself (`Node.quote_mem_toText_iff`).  Such an
element inside an attribute is not escaped, and its quotes end the attribute for a reader.

The text of an element is one stretch of the text of the tree around it
(`Node.OccursIn.exists_infix`), so this tells for each attribute at each position whether a quote is
between its own two (`Node.quote_mem_attribute_iff`).
-/

namespace TreeTemplate

/-- Another character is in texts with spaces between them if it is in one of the texts. -/
lemma mem_toList_intercalate_space {c : Char} (other : c ≠ ' ') {texts : List String} :
    c ∈ (String.intercalate " " texts).toList ↔ ∃ text ∈ texts, c ∈ text.toList := by
  rw [String.toList_intercalate]
  constructor
  · intro member
    obtain rfl | ⟨list, among, inside⟩ := mem_intercalate member
    · exact absurd rfl other
    · obtain ⟨text, inTexts, rfl⟩ := List.mem_map.1 among
      exact ⟨text, inTexts, inside⟩
  · rintro ⟨text, among, inside⟩
    exact (infix_intercalate (List.mem_map_of_mem among)).subset inside

/-- A character of joined texts is one of a text among them. -/
lemma mem_toList_join {c : Char} {texts : List String} :
    c ∈ (String.join texts).toList ↔ ∃ text ∈ texts, c ∈ text.toList := by
  rw [String.toList_join, List.mem_flatMap]

/-- Each of the texts is a stretch of what they are put together to. -/
lemma infix_join {text : String} {texts : List String} (among : text ∈ texts) :
    text.toList <:+: (String.join texts).toList := by
  rw [String.toList_join, List.flatMap_def]
  exact List.infix_of_mem_flatten (List.mem_map_of_mem among)

/-- A name has no quotes. -/
lemma quote_notMem_of_isTagName {name : String} (valid : isTagName name) :
    '\x22' ∉ name.toList :=
  fun member => ne_of_isTagPart (chars_of_isTagName valid _ member) rfl rfl

namespace Node

/-- There is an element in a tree that has an attribute in quotes. -/
def HasQuoted (node : Node) : Prop :=
  ∃ tag attrs children, (element tag attrs children).OccursIn node ∧
    ∃ attr ∈ attrs.getD [], attr.2.attributeForm = .quoted

/-- A quoted attribute in a part is one in the node. -/
lemma HasQuoted.of_part {node part : Node} (member : part ∈ node.parts) (quoted : part.HasQuoted) :
    node.HasQuoted := by
  obtain ⟨tag, attrs, children, occurs, attr⟩ := quoted
  exact ⟨tag, attrs, children, .part member occurs, attr⟩

/-- A tree that is no element has an attribute in quotes if one of its parts has. -/
lemma hasQuoted_iff {node : Node} (other : ∀ tag attrs children, element tag attrs children ≠ node) :
    node.HasQuoted ↔ ∃ part ∈ node.parts, part.HasQuoted := by
  constructor
  · rintro ⟨tag, attrs, children, occurs, attr⟩
    obtain same | ⟨part, member, occurs⟩ := occursIn_iff.1 occurs
    · exact absurd same (other tag attrs children)
    · exact ⟨part, member, tag, attrs, children, occurs, attr⟩
  · rintro ⟨part, member, quoted⟩
    exact quoted.of_part member

/-- An attribute with an element inside is written in quotes. -/
lemma OccursIn.attributeForm {tag : String} {attrs : Option (List (String × Node))}
    {children : List Node} {node : Node} (occurs : (element tag attrs children).OccursIn node) :
    node.attributeForm = .quoted := by
  cases node with
  | literal value => cases occursIn_literal.1 occurs
  | unescaped value => cases occursIn_unescaped.1 occurs
  | element | var | raw | block | join | concat | group => rfl

/-- The attributes inside the attributes of an element add nothing to whether one is in quotes. -/
lemma hasQuoted_element {tag : String} {attrs : Option (List (String × Node))}
    {children : List Node} :
    (element tag attrs children).HasQuoted ↔
      (∃ attr ∈ attrs.getD [], attr.2.attributeForm = .quoted)
        ∨ ∃ child ∈ children, child.HasQuoted := by
  constructor
  · rintro ⟨innerTag, innerAttrs, innerChildren, occurs, attr, among, quoted⟩
    obtain same | ⟨outer, amongAttrs, occurs⟩ | ⟨child, amongChildren, occurs⟩ :=
      occursIn_element.1 occurs
    · cases same
      exact .inl ⟨attr, among, quoted⟩
    · -- the attribute with the element inside is in quotes itself
      exact .inl ⟨outer, amongAttrs, occurs.attributeForm⟩
    · exact .inr ⟨child, amongChildren, _, _, _, occurs, attr, among, quoted⟩
  · rintro (⟨attr, among, quoted⟩ | ⟨child, among, quoted⟩)
    · exact ⟨tag, attrs, children, .self, attr, among, quoted⟩
    · exact quoted.of_part (List.mem_append_right _ among)

/-- There is a quote in the text of an attribute if it is written in quotes. -/
lemma quote_mem_attributeText_iff {attr : String × Node} (valid : isTagName attr.1) {text : String}
    (written : attributeText attr = .ok text) :
    '\x22' ∈ text.toList ↔ attr.2.attributeForm = .quoted := by
  rw [attributeText] at written
  cases form : attr.2.attributeForm with
  | absent =>
    rw [form] at written
    cases written
    exact iff_of_false List.not_mem_nil (by decide)
  | bare =>
    rw [form] at written
    cases written
    have none : '\x22' ∉ (" " ++ attr.1).toList := by
      rw [String.toList_append, List.mem_append, not_or]
      exact ⟨by decide, quote_notMem_of_isTagName valid⟩
    exact iff_of_false none (by decide)
  | quoted =>
    rw [form] at written
    obtain ⟨inner, -, whole⟩ := bind_eq_ok_iff.1 written
    cases whole
    rw [String.toList_append, List.mem_append]
    exact iff_of_true (.inr List.mem_cons_self) rfl

/-- A tree without unescaped values has a quote in its text if it has an attribute in quotes. -/
theorem quote_mem_toText_iff {node : Node} (wf : node.WellFormed)
    (escaped : node.Without unescaped) {text : String} (written : node.toText = .ok text) :
    '\x22' ∈ text.toList ↔ node.HasQuoted := by
  induction node generalizing text with
  -- what is inside the attributes does not count, for those with an element bring quotes themselves
  | element tag attrs children _ ih =>
    obtain ⟨name, -, inAttrs, inChildren⟩ := WellFormed.element_iff.1 wf
    obtain ⟨attrTexts, childTexts, attrWalk, childWalk, rfl⟩ := toText_element_eq_ok written
    have attributes := exists_iff_of_mapM attrWalk fun attr among text =>
      quote_mem_attributeText_iff (inAttrs attr among).1
    have row := exists_iff_of_mapM childWalk fun child among text =>
      ih child among (inChildren child among)
        (escaped.part child (List.mem_append_right _ among))
    have plain := quote_notMem_of_isTagName name
    rw [hasQuoted_element, ← attributes, ← row, ← mem_toList_join, ← mem_toList_join]
    simp [plain]
  | join nodes ih =>
    rw [toText_join] at written
    obtain ⟨texts, walk, rfl⟩ := map_eq_ok_iff.1 written
    rw [mem_toList_intercalate_space (by decide), hasQuoted_iff (by rintro tag attrs children ⟨⟩)]
    exact exists_iff_of_mapM walk fun part among text =>
      ih part among (wf.part part among) (escaped.part part among)
  | concat nodes ih =>
    rw [toText_concat] at written
    obtain ⟨texts, walk, rfl⟩ := map_eq_ok_iff.1 written
    rw [mem_toList_join, hasQuoted_iff (by rintro tag attrs children ⟨⟩)]
    exact exists_iff_of_mapM walk fun part among text =>
      ih part among (wf.part part among) (escaped.part part among)
  | group nodes ih =>
    rw [toText_group] at written
    obtain ⟨texts, walk, rfl⟩ := map_eq_ok_iff.1 written
    rw [mem_toList_join, hasQuoted_iff (by rintro tag attrs children ⟨⟩)]
    exact exists_iff_of_mapM walk fun part among text =>
      ih part among (wf.part part among) (escaped.part part among)
  | literal value =>
    have none : '\x22' ∉ text.toList := fun member =>
      Bool.noConfusion (Value.notDelimiter_of_mem_toText written _ member)
    have leaf : ¬ (literal value).HasQuoted := by
      rw [hasQuoted_iff (by rintro tag attrs children ⟨⟩)]
      rintro ⟨part, member, -⟩
      cases member
    exact iff_of_false none leaf
  | unescaped value => exact absurd .self (escaped value)
  | var | raw | block => cases written

/-- What an attribute in quotes has between them is the text of its value, and it is written inside
the text of the element. -/
lemma exists_infix_of_attribute {tag : String} {attrs : Option (List (String × Node))}
    {children : List Node} {text : String}
    (written : (element tag attrs children).toText = .ok text) {attr : String × Node}
    (among : attr ∈ attrs.getD []) (quoted : attr.2.attributeForm = .quoted) :
    ∃ inner, attr.2.toText = .ok inner
      ∧ (" " ++ attr.1 ++ "=\x22" ++ inner ++ "\x22").toList <:+: text.toList := by
  obtain ⟨attrTexts, childTexts, walk, -, rfl⟩ := toText_element_eq_ok written
  obtain ⟨attrText, inTexts, result⟩ := exists_mem_of_mapM walk attr among
  rw [attributeText, quoted] at result
  obtain ⟨inner, value, whole⟩ := bind_eq_ok_iff.1 result
  cases whole
  refine ⟨inner, within_eq_ok_iff.1 value, (infix_join inTexts).trans ?_⟩
  refine ⟨("<" ++ tag).toList,
    (">" ++ String.join childTexts ++ ("</" ++ tag ++ ">")).toList, ?_⟩
  simp only [String.toList_append, List.append_assoc]

/-- The text of a part is a stretch of the text of the node, unless the part is the value of an
attribute that is not in quotes. -/
lemma exists_infix_of_part {node part : Node} (member : part ∈ node.parts)
    (quoted : part.attributeForm = .quoted) {text : String} (written : node.toText = .ok text) :
    ∃ inner, part.toText = .ok inner ∧ inner.toList <:+: text.toList := by
  cases node with
  | element tag attrs children =>
    obtain inAttrs | inChildren := List.mem_append.1 member
    · obtain ⟨attr, among, rfl⟩ := List.mem_map.1 inAttrs
      obtain ⟨inner, value, stretch⟩ := exists_infix_of_attribute written among quoted
      refine ⟨inner, value, List.IsInfix.trans ?_ stretch⟩
      exact ⟨(" " ++ attr.1 ++ "=\x22").toList, ['\x22'], by simp only [String.toList_append]; rfl⟩
    · obtain ⟨attrTexts, childTexts, -, walk, rfl⟩ := toText_element_eq_ok written
      obtain ⟨inner, inTexts, result⟩ := exists_mem_of_mapM walk part inChildren
      refine ⟨inner, result, (infix_join inTexts).trans ?_⟩
      refine ⟨("<" ++ tag ++ String.join attrTexts ++ ">").toList, ("</" ++ tag ++ ">").toList, ?_⟩
      simp only [String.toList_append]
  | join nodes =>
    rw [toText_join] at written
    obtain ⟨texts, walk, rfl⟩ := map_eq_ok_iff.1 written
    obtain ⟨inner, inTexts, result⟩ := exists_mem_of_mapM walk part member
    rw [String.toList_intercalate]
    exact ⟨inner, result, infix_intercalate (List.mem_map_of_mem inTexts)⟩
  | concat nodes =>
    rw [toText_concat] at written
    obtain ⟨texts, walk, rfl⟩ := map_eq_ok_iff.1 written
    obtain ⟨inner, inTexts, result⟩ := exists_mem_of_mapM walk part member
    exact ⟨inner, result, infix_join inTexts⟩
  | group nodes =>
    rw [toText_group] at written
    obtain ⟨texts, walk, rfl⟩ := map_eq_ok_iff.1 written
    obtain ⟨inner, inTexts, result⟩ := exists_mem_of_mapM walk part member
    exact ⟨inner, result, infix_join inTexts⟩
  | block => cases written
  | var | raw | literal | unescaped => cases member

/-- The text of an element that is somewhere in a tree is a stretch of the text of the tree. -/
lemma OccursIn.exists_infix {tag : String} {attrs : Option (List (String × Node))}
    {children : List Node} {node : Node} (occurs : (element tag attrs children).OccursIn node)
    {text : String} (written : node.toText = .ok text) :
    ∃ inner, (element tag attrs children).toText = .ok inner ∧ inner.toList <:+: text.toList := by
  induction occurs generalizing text with
  | self => exact ⟨text, written, List.infix_rfl⟩
  | part member inPart ih =>
    obtain ⟨outer, result, stretch⟩ := exists_infix_of_part member inPart.attributeForm written
    obtain ⟨inner, innermost, within⟩ := ih result
    exact ⟨inner, innermost, within.trans stretch⟩

/-- Each attribute in quotes, wherever its element is in a tree without unescaped values, is written
as its name and the text of its value between quotes.  There is a quote in this text if and only if
there is an element with an attribute in quotes in the value. -/
theorem quote_mem_attribute_iff {node : Node} (wf : node.WellFormed)
    (escaped : node.Without unescaped) {text : String} (written : node.toText = .ok text)
    {tag : String} {attrs : Option (List (String × Node))} {children : List Node}
    (occurs : (element tag attrs children).OccursIn node) {attr : String × Node}
    (among : attr ∈ attrs.getD []) (quoted : attr.2.attributeForm = .quoted) :
    ∃ inner, attr.2.toText = .ok inner
      ∧ (" " ++ attr.1 ++ "=\x22" ++ inner ++ "\x22").toList <:+: text.toList
      ∧ ('\x22' ∈ inner.toList ↔ attr.2.HasQuoted) := by
  have value : attr.2 ∈ (element tag attrs children).parts :=
    List.mem_append_left _ (List.mem_map_of_mem among)
  obtain ⟨wfElement, escapedElement⟩ := everywhere_of_parts
    (P := fun node => node.WellFormed ∧ node.Without unescaped)
    (fun _ both part member => ⟨both.1.part part member, both.2.part part member⟩)
    ⟨wf, escaped⟩ _ occurs
  obtain ⟨whole, result, inText⟩ := occurs.exists_infix written
  obtain ⟨inner, writtenValue, inWhole⟩ := exists_infix_of_attribute result among quoted
  refine ⟨inner, writtenValue, inWhole.trans inText, ?_⟩
  exact quote_mem_toText_iff (wfElement.part _ value) (escapedElement.part _ value) writtenValue

/-- A quote in a value is escaped, and one around the attribute of an element in a value is not. -/
theorem quote_mem_attribute_iff_of_link :
    let plain : Node := .literal (.string "\x22hi\x22")
    let inner : Node := .element "b" (some [("class", .literal (.string "x"))]) []
    let attrs : List (String × Node) := [("alt", plain), ("title", .concat [plain, inner])]
    let node : Node := .group [.element "a" (some attrs) []]
    node.WellFormed ∧ node.Without unescaped
      ∧ node.toText = .ok ("<a alt=\x22&quot;hi&quot;\x22"
          ++ " title=\x22&quot;hi&quot;<b class=\x22x\x22></b>\x22></a>")
      ∧ (∃ value, plain.toText = .ok value ∧ '\x22' ∉ value.toList)
      ∧ ∃ value, (concat [plain, inner]).toText = .ok value ∧ '\x22' ∈ value.toList := by
  intro plain inner attrs node
  have wf : node.WellFormed := by
    simp only [node, attrs, plain, inner, WellFormed, AllWellFormed, AttrsWellFormed,
      Value.WellFormed, Entries.Sorted]
    decide
  have escaped : node.Without unescaped := by
    intro value
    simp [node, attrs, plain, inner]
  have written : node.toText = .ok ("<a alt=\x22&quot;hi&quot;\x22"
      ++ " title=\x22&quot;hi&quot;<b class=\x22x\x22></b>\x22></a>") := rfl
  have occurs : (element "a" (some attrs) []).OccursIn node := .part List.mem_cons_self .self
  have alt : ("alt", plain) ∈ (some attrs).getD [] := List.mem_cons_self
  have title : ("title", concat [plain, inner]) ∈ (some attrs).getD [] :=
    List.mem_cons_of_mem _ List.mem_cons_self
  refine ⟨wf, escaped, written, ?_, ?_⟩
  · obtain ⟨value, result, -, quote⟩ := quote_mem_attribute_iff wf escaped written occurs alt rfl
    have none : ¬ plain.HasQuoted := by simp [plain, HasQuoted]
    exact ⟨value, result, fun member => none (quote.1 member)⟩
  · obtain ⟨value, result, -, quote⟩ := quote_mem_attribute_iff wf escaped written occurs title rfl
    have quoted : (concat [plain, inner]).HasQuoted :=
      ⟨"b", _, [], .part (List.mem_cons_of_mem _ List.mem_cons_self) .self, _,
        List.mem_cons_self, rfl⟩
    exact ⟨value, result, quote.2 quoted⟩

/-- An element inside an attribute brings its own quotes with it. -/
theorem quote_mem_attribute_of_element :
    let inner : Node := .element "b" (some [("class", .literal (.string "x"))]) []
    let node : Node := .element "a" (some [("title", inner)]) []
    node.WellFormed ∧ node.Without unescaped ∧ inner.attributeForm = .quoted
      ∧ node.toText = .ok "<a title=\x22<b class=\x22x\x22></b>\x22></a>"
      ∧ inner.toText = .ok "<b class=\x22x\x22></b>"
      ∧ '\x22' ∈ "<b class=\x22x\x22></b>".toList := by
  intro inner node
  have wf : node.WellFormed := by
    simp only [node, inner, WellFormed, AllWellFormed, AttrsWellFormed, Value.WellFormed,
      Entries.Sorted]
    decide
  have escaped : node.Without unescaped := by
    intro value
    simp [node, inner]
  exact ⟨wf, escaped, rfl, rfl, rfl, by decide⟩

end Node

end TreeTemplate
