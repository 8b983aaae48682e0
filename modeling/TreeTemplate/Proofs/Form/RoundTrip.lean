import TreeTemplate.Proofs.Form.Decoding
import TreeTemplate.Proofs.Node.WellFormed

/-!
# Data form and back

The data form has no field that tells the kind of a node, so it does not always lead back: a literal
list may have the shape of another node, and a literal map right after a tag is taken for
attributes.  `Node.Unambiguous` excludes these two, and `Node.ofValue_toValue_iff` says that nothing
else goes wrong: reading the data form of a well-formed tree gives the tree back exactly if it is
unambiguous.

Each node is read back from its data form if its parts are, and in one more step if the node itself
is none of the two exceptions, which is `Node.StandsForItself`.
-/

namespace TreeTemplate.Node

/-- The data form of the node has the shape of that node.  It is not so for a literal list that
starts as the form of another node, and for an element that lacks attributes and starts with a map.
-/
def StandsForItself (node : Node) : Prop :=
  (∀ first rest, node = .literal (.list (first :: rest)) → first.leadsForm = false)
    ∧ ∀ tag entries rest, node ≠ .element tag none (.literal (.map entries) :: rest)

/-- An element without attributes stands for itself if its first child is no map. -/
lemma standsForItself_element_iff {tag : String} {children : List Node} :
    (element tag none children).StandsForItself ↔
      ¬∃ entries rest, children = .literal (.map entries) :: rest := by
  constructor
  · rintro ⟨-, bare⟩ ⟨entries, rest, rfl⟩
    exact bare tag entries rest rfl
  · intro bare
    refine ⟨nofun, fun other entries rest eq => bare ⟨entries, rest, ?_⟩⟩
    cases eq
    rfl

/-- Every node of the tree, values of attributes and bodies of blocks included, has the data form of
a node like it. -/
def Unambiguous (node : Node) : Prop :=
  node.Everywhere StandsForItself

/-- The forms of a list of trees are decoded to it exactly if the form of each tree is. -/
lemma ofValues_toValues_iff {nodes : List Node} :
    ofValues (toValues nodes) = .ok nodes ↔ ∀ node ∈ nodes, ofValue node.toValue = .ok node := by
  rw [ofValues_eq_mapM, toValues_eq_map, mapM_eq_ok_iff, List.forall₂_map_left_iff,
    List.forall₂_same]

/-- Attributes with valid names are decoded from their form exactly if each value is. -/
lemma attrsOfEntries_attrsToEntries_iff {attrs : List (String × Node)}
    (names : ∀ attr ∈ attrs, isTagName attr.1) :
    attrsOfEntries (attrsToEntries attrs) = .ok attrs ↔
      ∀ attr ∈ attrs, ofValue attr.2.toValue = .ok attr.2 := by
  rw [attrsOfEntries_eq_mapM, attrsToEntries_eq_map, mapM_eq_ok_iff, List.forall₂_map_left_iff,
    List.forall₂_same]
  refine forall₂_congr fun attr among => ?_
  simp only [attrOfEntry_eq_ok_iff, names attr among, true_and]

/-- What follows a marker is never read as a literal. -/
lemma ofMarked_ne_literal {marker : Marker} {rest : List Value} {value : Value} :
    ofMarked marker rest ≠ .ok (.literal value) := by
  intro h
  cases marker with
  | block =>
    obtain ⟨helper, arg, body, rfl, eq⟩ | ⟨-, error, -, eq⟩ := ofMarked_block_cases rest
    · rw [eq] at h
      obtain ⟨nodes, -, built⟩ := bind_eq_ok_iff.1 h
      obtain ⟨-, path, -, eq⟩ := (blockOf_ends helper arg nodes).of_ok built
      cases eq
    · rw [eq] at h
      cases h
  | var | raw | join | concat | group | unescaped =>
    obtain ⟨_, -, eq⟩ := map_eq_ok_iff.1 h
    cases eq

/-- No element is decoded to a literal. -/
lemma ofTagged_ne_literal {tag : String} {rest : List Value} {value : Value} :
    ofTagged tag rest ≠ .ok (.literal value) := by
  intro h
  have inside := within_eq_ok_iff.1 h
  split at inside
  · obtain ⟨_, -, read⟩ := bind_eq_ok_iff.1 inside
    obtain ⟨_, -, eq⟩ := bind_eq_ok_iff.1 read
    cases eq
  · obtain ⟨_, -, eq⟩ := map_eq_ok_iff.1 inside
    cases eq

/-- A list that starts as the form of another node is not read as a literal. -/
lemma ofValue_ne_literal {first : Value} {rest : List Value} {value : Value}
    (leads : first.leadsForm) : ofValue (.list (first :: rest)) ≠ .ok (.literal value) := by
  cases first with
  | list items =>
    intro h
    rw [ofValue_lists] at h
    obtain ⟨_, -, eq⟩ := map_eq_ok_iff.1 h
    cases eq
  | string head =>
    cases found : Marker.ofText? head with
    | none =>
      have tag : isTagName head := by simpa [Value.leadsForm, found] using leads
      rw [ofValue_tag tag]
      exact ofTagged_ne_literal
    | some marker =>
      rw [ofValue_marker found]
      exact ofMarked_ne_literal
  | none | bool _ | integer _ | float _ | map _ => cases leads

/-- A literal is read back if its list does not start as the form of another node. -/
lemma ofValue_literal_iff {value : Value} :
    ofValue value = .ok (.literal value) ↔ StandsForItself (.literal value) := by
  cases value with
  | list items =>
    cases items with
    | nil => simp [ofValue, StandsForItself]
    | cons first rest =>
      cases leads : first.leadsForm with
      | false => simp [ofValue_literal leads, StandsForItself, leads]
      | true => simp [ofValue_ne_literal leads, StandsForItself, leads]
  | _ => simp [ofValue, StandsForItself]

/-- An element with attributes is read back if the values of its attributes and its children are. -/
lemma ofValue_element_attrs_iff {tag : String} {attrs : List (String × Node)} {children : List Node}
    (name : isTagName tag) (names : ∀ attr ∈ attrs, isTagName attr.1) :
    ofValue (element tag (some attrs) children).toValue = .ok (.element tag (some attrs) children) ↔
      (∀ attr ∈ attrs, ofValue attr.2.toValue = .ok attr.2)
        ∧ ∀ child ∈ children, ofValue child.toValue = .ok child := by
  rw [toValue, ofValue_tag name, ofTagged, within_eq_ok_iff,
    ← attrsOfEntries_attrsToEntries_iff names, ← ofValues_toValues_iff]
  simp only [bind_eq_ok_iff, pure_eq_ok, Except.ok.injEq, element.injEq, Option.some.injEq,
    true_and]
  constructor
  · rintro ⟨_, readAttrs, _, readChildren, rfl, rfl⟩
    exact ⟨readAttrs, readChildren⟩
  · rintro ⟨readAttrs, readChildren⟩
    exact ⟨_, readAttrs, _, readChildren, rfl, rfl⟩

/-- Only a literal map has a map as its data form. -/
lemma toValue_eq_map_iff {node : Node} {entries : List (String × Value)} :
    node.toValue = .map entries ↔ node = .literal (.map entries) := by
  cases node with
  | element tag attrs children => cases attrs <;> simp [toValue]
  | _ => simp [toValue, Marker.lead]

/-- Only a row that starts with a literal map has a map in front of its data forms. -/
lemma toValues_eq_map_cons_iff {nodes : List Node} :
    (∃ entries more, toValues nodes = .map entries :: more) ↔
      ∃ entries rest, nodes = .literal (.map entries) :: rest := by
  cases nodes with
  | nil => simp [toValues]
  | cons node rest => simp [toValues, toValue_eq_map_iff]

/-- An element without attributes is read back if its children are and the first is no map. -/
lemma ofValue_element_iff {tag : String} {children : List Node} (name : isTagName tag) :
    ofValue (element tag none children).toValue = .ok (.element tag none children) ↔
      (¬∃ entries rest, children = .literal (.map entries) :: rest)
        ∧ ∀ child ∈ children, ofValue child.toValue = .ok child := by
  rw [← ofValues_toValues_iff, ← toValues_eq_map_cons_iff, toValue]
  by_cases map : ∃ entries more, toValues children = .map entries :: more
  · -- the map is taken for attributes, which the element does not have
    obtain ⟨entries, more, eq⟩ := map
    rw [eq, ofValue_tag name, ofTagged, within_eq_ok_iff]
    simp [bind_eq_ok_iff]
  · have bare : ∀ entries more, toValues children ≠ .map entries :: more :=
      fun entries more eq => map ⟨entries, more, eq⟩
    rw [ofValue_tag name, ofTagged_bare tag bare, within_eq_ok_iff, map_eq_ok_iff]
    simp [map]

/-- A node is read back from its data form if it stands for itself and its parts are read back. -/
lemma ofValue_toValue_step {node : Node} (wf : node.WellFormed) :
    ofValue node.toValue = .ok node ↔
      node.StandsForItself ∧ ∀ part ∈ node.parts, ofValue part.toValue = .ok part := by
  cases node with
  | element tag attrs children =>
    obtain ⟨name, -, attr, -⟩ := WellFormed.element_iff.1 wf
    cases attrs with
    | none =>
      rw [ofValue_element_iff name, standsForItself_element_iff, forall_mem_parts_element]
      simp
    | some attrs =>
      have names : ∀ attr ∈ attrs, isTagName attr.1 := fun a member => (attr a member).1
      rw [ofValue_element_attrs_iff name names, forall_mem_parts_element]
      simp [StandsForItself]
  | var path =>
    rw [WellFormed] at wf
    rw [toValue, Marker.lead, ofValue_marker (Marker.ofText?_eq_some_iff.2 rfl)]
    simp [ofMarked, StandsForItself, parts, Form.referencePath, Path.parse_eq_ok wf]
  | raw path =>
    rw [WellFormed] at wf
    rw [toValue, Marker.lead, ofValue_marker (Marker.ofText?_eq_some_iff.2 rfl)]
    simp [ofMarked, StandsForItself, parts, Form.referencePath, Path.parse_eq_ok wf]
  | block helper arg body =>
    obtain ⟨name, valid, -⟩ := WellFormed.block_iff.1 wf
    rw [toValue, Marker.lead, ofValue_marker (Marker.ofText?_eq_some_iff.2 rfl), ofMarked,
      bind_eq_ok_iff]
    simp [blockOf_eq_ok name valid, StandsForItself, parts, ofValues_toValues_iff]
  | join children | concat children | group children =>
    rw [toValue, Marker.lead, ofValue_marker (Marker.ofText?_eq_some_iff.2 rfl), ofMarked,
      map_eq_ok_iff]
    simp [StandsForItself, parts, ofValues_toValues_iff]
  | literal value =>
    rw [toValue, ofValue_literal_iff]
    simp [parts]
  | unescaped value =>
    rw [toValue, Marker.lead, ofValue_marker (Marker.ofText?_eq_some_iff.2 rfl)]
    simp [ofMarked, StandsForItself, parts, Form.unescapedValue]

/-- The data form of a well-formed tree leads back to the tree exactly if the tree is unambiguous.
-/
theorem ofValue_toValue_iff {node : Node} (wf : node.WellFormed) :
    ofValue node.toValue = .ok node ↔ node.Unambiguous := by
  induction node using parts_induction with
  | step node ih =>
    -- the parts are read back on their own, and what is left is the shape of the node itself
    rw [ofValue_toValue_step wf, Unambiguous, everywhere_iff]
    exact and_congr_right fun _ => forall₂_congr fun part member =>
      ih part member (wf.part _ member)

/-- A menu that repeats its items, with a class made of a placeholder and a text, is decoded from
its own form. -/
theorem ofValue_toValue_menu :
    let menu : Node :=
      .element "ul" (some [("class", .join [.var (.current ["kind"]), .literal (.string "wide")])])
        [.block "each" (.parent ["items"]) [.element "li" none [.literal (.list [.integer 1])]]]
    menu.WellFormed ∧ ofValue menu.toValue = .ok menu ∧ menu.Unambiguous := by
  intro menu
  have wf : menu.WellFormed := by
    simp only [menu, WellFormed, AllWellFormed, AttrsWellFormed, Value.WellFormed,
      Value.AllWellFormed, Entries.Sorted]
    decide
  have reads : ofValue menu.toValue = .ok menu := rfl
  exact ⟨wf, reads, (ofValue_toValue_iff wf).1 reads⟩

end TreeTemplate.Node
