import TreeTemplate.Proofs.Form.Decoding

/-!
# Shapes and what is read

The head of a list tells the kind of node that the list is read as, if it is read at all
(`Node.kind_of_ofValue`).  The predicates on shapes look at the same head on their own, and each
holds of the values of one kind.  No marker is a tag name, so no two of them hold of one value
(`Node.ofValue_kind`).
-/

namespace TreeTemplate

/-- The kinds of nodes. -/
inductive Node.Kind where
  | element
  | var
  | raw
  | block
  | join
  | concat
  | group
  | literal
  | unescaped
deriving DecidableEq, Repr

/-- The kind of a node. -/
def Node.kind : Node → Node.Kind
  | .element _ _ _ => .element
  | .var _ => .var
  | .raw _ => .raw
  | .block _ _ _ => .block
  | .join _ => .join
  | .concat _ => .concat
  | .group _ => .group
  | .literal _ => .literal
  | .unescaped _ => .unescaped

/-- The kind of the nodes that a marker leads. -/
def Marker.nodeKind : Marker → Node.Kind
  | .var => .var
  | .raw => .raw
  | .block => .block
  | .join => .join
  | .concat => .concat
  | .group => .group
  | .unescaped => .unescaped

/-- Different markers stand for different kinds of nodes. -/
lemma Marker.nodeKind_inj {marker other : Marker} :
    marker.nodeKind = other.nodeKind ↔ marker = other := by
  cases marker <;> cases other <;> decide

/-- No marker leads elements or literals. -/
lemma Marker.nodeKind_ne (marker : Marker) :
    marker.nodeKind ≠ .element ∧ marker.nodeKind ≠ .literal := by
  cases marker <;> decide

namespace Value

/-- The kind of node that a value is read as, told from its head. -/
def nodeKind : Value → Node.Kind
  | .list (.string head :: _) =>
    match Marker.ofText? head with
    | some marker => marker.nodeKind
    | .none => if isTagName head then .element else .literal
  | .list (.list _ :: _) => .concat
  | _ => .literal

/-- The predicates on shapes. -/
def shapes : List (Value → Bool) :=
  [isVar, isRaw, isBlock, isJoin, isConcat, isGroup, isElement]

/-- A value has one of four shapes. -/
lemma shape_cases (value : Value) :
    (∃ marker rest, value = Marker.lead marker rest)
      ∨ (∃ tag rest, isTagName tag ∧ value = .list (.string tag :: rest))
      ∨ (∃ items rest, value = .list (.list items :: rest))
      ∨ ∀ first rest, value = .list (first :: rest) → first.leadsForm = false := by
  cases value using form_cases with
  | plain value plain => exact .inr (.inr (.inr plain))
  | marked marker rest => exact .inl ⟨marker, rest, rfl⟩
  | bare tag rest name => exact .inr (.inl ⟨tag, rest, name, rfl⟩)
  | attributed tag entries rest name => exact .inr (.inl ⟨tag, .map entries :: rest, name, rfl⟩)
  | lists items rest => exact .inr (.inr (.inl ⟨items, rest, rfl⟩))

section

variable {tag : String} {rest : List Value} {value : Value}

/-- The marker of a list that starts with one is that marker. -/
lemma marker?_lead (marker : Marker) (rest : List Value) :
    (marker.lead rest).marker? = some marker :=
  Marker.ofText?_eq_some_iff.2 rfl

/-- A list that starts with a marker is of the kind that the marker stands for. -/
lemma nodeKind_lead (marker : Marker) (rest : List Value) :
    (marker.lead rest).nodeKind = marker.nodeKind := by
  simp only [Marker.lead, nodeKind, Marker.ofText?_eq_some_iff.2 rfl]

/-- A list that starts with a marker is no element. -/
lemma isElement_lead (marker : Marker) (rest : List Value) :
    (marker.lead rest).isElement = false := by
  cases marker with
  | var | raw | block | join | concat | group | unescaped => rfl

/-- A list that starts with a tag has no marker. -/
lemma marker?_tag (name : isTagName tag) : (list (.string tag :: rest)).marker? = .none :=
  Marker.ofText?_of_isTagName name

/-- A list that starts with a tag is an element. -/
lemma nodeKind_tag (name : isTagName tag) :
    (list (.string tag :: rest)).nodeKind = .element := by
  simp only [nodeKind, Marker.ofText?_of_isTagName name, if_pos name]

/-- A value of no other shape is no form: it has no marker, is no element, and stands for itself. -/
lemma plain_shape (plain : ∀ first rest, value = .list (first :: rest) → first.leadsForm = false) :
    value.marker? = .none ∧ value.isElement = false ∧ value.nodeKind = .literal := by
  cases value with
  | list items =>
    cases items with
    | nil => exact ⟨rfl, rfl, rfl⟩
    | cons first rest =>
      have form := plain first rest rfl
      cases first with
      | list items => cases form
      | string head =>
        simp only [leadsForm, Bool.or_eq_false_iff, Option.isSome_eq_false_iff,
          Option.isNone_iff_eq_none] at form
        simp only [marker?, isElement, nodeKind, form, Bool.false_eq_true, if_false, and_self]
      | none | bool | integer | float | map => exact ⟨rfl, rfl, rfl⟩
  | none | bool | integer | float | string | map => exact ⟨rfl, rfl, rfl⟩

/-- No value that a marker leads has the shape of an element. -/
lemma isElement_of_marker? {marker : Marker} (leads : value.marker? = some marker) :
    value.isElement = false := by
  obtain ⟨marker, rest, rfl⟩ | ⟨tag, rest, name, rfl⟩ | ⟨items, rest, rfl⟩ | plain :=
    value.shape_cases
  · exact isElement_lead marker rest
  · rw [marker?_tag name] at leads
    cases leads
  · rfl
  · exact (plain_shape plain).2.1

/-- Each marker but that of rows leads the values that are read as its kind, and no others. -/
lemma marker?_eq_some_iff {marker : Marker} (other : marker ≠ .concat) :
    value.marker? = some marker ↔ value.nodeKind = marker.nodeKind := by
  obtain ⟨marker, rest, rfl⟩ | ⟨tag, rest, name, rfl⟩ | ⟨items, rest, rfl⟩ | plain :=
    value.shape_cases
  · rw [marker?_lead, nodeKind_lead, Option.some_inj, Marker.nodeKind_inj]
  · rw [marker?_tag name, nodeKind_tag name]
    exact iff_of_false nofun marker.nodeKind_ne.1.symm
  · refine iff_of_false nofun fun same => other ?_
    have concat : marker.nodeKind = Marker.concat.nodeKind := same.symm
    exact Marker.nodeKind_inj.1 concat
  · obtain ⟨none, -, literal⟩ := plain_shape plain
    rw [none, literal]
    exact iff_of_false nofun marker.nodeKind_ne.2.symm

/-- Rows are led by their marker or by a list. -/
lemma nodeKind_eq_concat_iff :
    value.nodeKind = .concat ↔
      value.isConcat ∨ ∃ items rest, value = .list (.list items :: rest) := by
  obtain ⟨marker, rest, rfl⟩ | ⟨tag, rest, name, rfl⟩ | ⟨items, rest, rfl⟩ | plain :=
    value.shape_cases
  · have noList : ¬∃ items more, marker.lead rest = list (.list items :: more) := nofun
    have same : marker.nodeKind = .concat ↔ marker = .concat := by
      rw [← Marker.nodeKind_inj]
      rfl
    rw [nodeKind_lead, same, isConcat, marker?_lead, beq_iff_eq, Option.some_inj,
      or_iff_left noList]
  · have noList : ¬∃ items more, list (.string tag :: rest) = list (.list items :: more) := nofun
    rw [nodeKind_tag name, isConcat, marker?_tag name, or_iff_left noList]
    exact iff_of_false nofun nofun
  · exact iff_of_true rfl (.inr ⟨items, rest, rfl⟩)
  · obtain ⟨none, -, literal⟩ := plain_shape plain
    rw [isConcat, none, literal]
    refine iff_of_false nofun ?_
    rintro (concat | ⟨items, rest, rfl⟩)
    · cases concat
    · cases plain _ rest rfl

/-- The values of the shape of an element are those that are read as one. -/
lemma isElement_iff : value.isElement ↔ value.nodeKind = .element := by
  obtain ⟨marker, rest, rfl⟩ | ⟨tag, rest, name, rfl⟩ | ⟨items, rest, rfl⟩ | plain :=
    value.shape_cases
  · rw [isElement_lead, nodeKind_lead]
    exact iff_of_false nofun marker.nodeKind_ne.1
  · rw [nodeKind_tag name]
    exact iff_of_true name rfl
  · exact iff_of_false nofun nofun
  · obtain ⟨-, none, literal⟩ := plain_shape plain
    rw [none, literal]
    exact iff_of_false nofun nofun

/-- At most one of the predicates holds of a value, and none of them where the marker of unescaped
values leads. -/
lemma shapes_exclusive (value : Value) :
    (shapes.countP fun shape => shape value) ≤ 1
      ∧ (value.marker? = some .unescaped → ∀ shape ∈ shapes, shape value = false) := by
  cases leads : value.marker? with
  | none =>
    refine ⟨?_, nofun⟩
    simp only [shapes, List.countP_cons, List.countP_nil, isVar, isRaw, isBlock, isJoin, isConcat,
      isGroup, leads]
    cases value.isElement with
    | true => decide
    | false => decide
  | some marker =>
    -- the tag of an element is no marker
    have element := isElement_of_marker? leads
    simp only [shapes, List.countP_cons, List.countP_nil, List.forall_mem_cons, List.not_mem_nil,
      false_imp_iff, implies_true, isVar, isRaw, isBlock, isJoin, isConcat, isGroup, leads, element]
    cases marker with
    | var | raw | block | join | concat | group | unescaped => decide

end

end Value

namespace Node

/-- What is decoded behind a marker is of the kind that the marker stands for. -/
lemma kind_of_ofMarked {marker : Marker} {rest : List Value} {node : Node}
    (read : ofMarked marker rest = .ok node) : node.kind = marker.nodeKind := by
  cases marker with
  | block =>
    obtain ⟨helper, arg, body, rfl, eq⟩ | ⟨-, error, -, eq⟩ := ofMarked_block_cases rest
    · rw [eq] at read
      obtain ⟨nodes, -, built⟩ := bind_eq_ok_iff.1 read
      obtain ⟨-, path, -, rfl⟩ := (blockOf_ends helper arg nodes).of_ok built
      rfl
    · rw [eq] at read
      cases read
  | var | raw | join | concat | group | unescaped =>
    obtain ⟨_, -, rfl⟩ := map_eq_ok_iff.1 read
    rfl

/-- What is decoded behind a tag is an element. -/
lemma kind_of_ofTagged {tag : String} {rest : List Value} {node : Node}
    (read : ofTagged tag rest = .ok node) : node.kind = .element := by
  have inside := within_eq_ok_iff.1 read
  split at inside
  · obtain ⟨_, -, children⟩ := bind_eq_ok_iff.1 inside
    obtain ⟨_, -, same⟩ := bind_eq_ok_iff.1 children
    cases same
    rfl
  · obtain ⟨_, -, rfl⟩ := map_eq_ok_iff.1 inside
    rfl

/-- A value is read as a node of the kind that its head tells, and as a literal of itself if the
head tells nothing. -/
theorem kind_of_ofValue {value : Value} {node : Node} (read : ofValue value = .ok node) :
    node.kind = value.nodeKind ∧ (value.nodeKind = .literal → node = .literal value) := by
  obtain ⟨marker, rest, rfl⟩ | ⟨tag, rest, name, rfl⟩ | ⟨items, rest, rfl⟩ | plain :=
    value.shape_cases
  · rw [ofValue_lead] at read
    rw [Value.nodeKind_lead]
    exact ⟨kind_of_ofMarked read, fun literal => absurd literal marker.nodeKind_ne.2⟩
  · rw [ofValue_tag name] at read
    rw [Value.nodeKind_tag name]
    exact ⟨kind_of_ofTagged read, nofun⟩
  · rw [ofValue_lists] at read
    obtain ⟨_, -, rfl⟩ := map_eq_ok_iff.1 read
    exact ⟨rfl, nofun⟩
  · rw [ofValue_plain plain] at read
    cases read
    exact ⟨(Value.plain_shape plain).2.2.symm, fun _ => rfl⟩

/-- The predicates on shapes agree with the reader.  No two of them hold of one value, and none
where the marker of unescaped values leads.  A value that is read is a node of the kind that they
tell, or of that marker, or a row where a list leads, and in all other cases a literal of the value
itself. -/
theorem ofValue_kind (value : Value) :
    (Value.shapes.countP fun shape => shape value) ≤ 1
      ∧ (value.marker? = some .unescaped → ∀ shape ∈ Value.shapes, shape value = false)
      ∧ ∀ node, ofValue value = .ok node →
        (node.kind = .var ↔ value.isVar)
          ∧ (node.kind = .raw ↔ value.isRaw)
          ∧ (node.kind = .block ↔ value.isBlock)
          ∧ (node.kind = .join ↔ value.isJoin)
          ∧ (node.kind = .group ↔ value.isGroup)
          ∧ (node.kind = .element ↔ value.isElement)
          ∧ (node.kind = .unescaped ↔ value.marker? = some .unescaped)
          ∧ (node.kind = .concat ↔
              value.isConcat ∨ ∃ items rest, value = .list (.list items :: rest))
          ∧ ((∀ shape ∈ Value.shapes, shape value = false) → value.marker? ≠ some .unescaped →
              (∀ items rest, value ≠ .list (.list items :: rest)) → node = .literal value) := by
  obtain ⟨once, unescaped⟩ := value.shapes_exclusive
  refine ⟨once, unescaped, fun node read => ?_⟩
  obtain ⟨same, itself⟩ := kind_of_ofValue read
  have led (marker : Marker) (other : marker ≠ .concat) :
      node.kind = marker.nodeKind ↔ value.marker? = some marker := by
    rw [same, Value.marker?_eq_some_iff other]
  have element : node.kind = .element ↔ value.isElement := by rw [same, Value.isElement_iff]
  have concat : value.nodeKind = .concat ↔ _ := Value.nodeKind_eq_concat_iff
  rw [← same] at concat itself
  have var : node.kind = .var ↔ value.isVar := (led .var (by decide)).trans beq_iff_eq.symm
  have raw : node.kind = .raw ↔ value.isRaw := (led .raw (by decide)).trans beq_iff_eq.symm
  have block : node.kind = .block ↔ value.isBlock := (led .block (by decide)).trans beq_iff_eq.symm
  have join : node.kind = .join ↔ value.isJoin := (led .join (by decide)).trans beq_iff_eq.symm
  have group : node.kind = .group ↔ value.isGroup := (led .group (by decide)).trans beq_iff_eq.symm
  have verbatim : node.kind = .unescaped ↔ value.marker? = some .unescaped :=
    led .unescaped (by decide)
  refine ⟨var, raw, block, join, group, element, verbatim, concat, ?_⟩
  intro noShape noMarker noList
  simp only [Value.shapes, List.forall_mem_cons, Bool.eq_false_iff, ne_eq] at noShape
  obtain ⟨noVar, noRaw, noBlock, noJoin, noConcat, noGroup, noElement, -⟩ := noShape
  refine itself ?_
  -- any other kind would be told by one of the predicates, or by what is excluded beside them
  cases kind : node.kind with
  | literal => rfl
  | var => exact absurd (var.1 kind) noVar
  | raw => exact absurd (raw.1 kind) noRaw
  | block => exact absurd (block.1 kind) noBlock
  | join => exact absurd (join.1 kind) noJoin
  | group => exact absurd (group.1 kind) noGroup
  | element => exact absurd (element.1 kind) noElement
  | unescaped => exact absurd (verbatim.1 kind) noMarker
  | concat =>
    obtain shape | ⟨items, rest, eq⟩ := concat.1 kind
    · exact absurd shape noConcat
    · exact absurd eq (noList items rest)

/-- A list in front is read as the first part of a row, though the predicate on rows asks for their
marker.  A value with that marker is a row of the same parts.  A text in front that is no tag name
and no marker gives a literal, and the value has no shape then. -/
theorem ofValue_kind_of_leading_list :
    let parts : List Value := [.list [.string "li"], .string "::var"]
    let row : Node := .concat [.element "li" none [], .literal (.string "::var")]
    let words : Value := .list [.string "two words", .integer 1]
    ofValue (.list parts) = .ok row ∧ (Value.list parts).isConcat = false
      ∧ (row.kind = .concat ↔ (Value.list parts).isConcat
          ∨ ∃ items rest, Value.list parts = .list (.list items :: rest))
      ∧ ofValue (Marker.concat.lead parts) = .ok row
      ∧ (∀ shape ∈ Value.shapes, shape words = false) ∧ ofValue words = .ok (.literal words) := by
  intro parts row words
  have read : ofValue (.list parts) = .ok row := rfl
  obtain ⟨-, -, -, -, -, -, -, concat, -⟩ := (ofValue_kind (.list parts)).2.2 row read
  have noShape : ∀ shape ∈ Value.shapes, shape words = false := by
    simp only [Value.shapes, List.forall_mem_cons]
    exact ⟨rfl, rfl, rfl, rfl, rfl, rfl, rfl, List.forall_mem_nil _⟩
  have noMarker : words.marker? ≠ some .unescaped := by
    intro marker
    cases marker
  have noList : ∀ items rest, words ≠ .list (.list items :: rest) := by
    intro items rest same
    obtain ⟨head, -⟩ := List.cons.inj (Value.list.inj same)
    cases head
  obtain ⟨node, readWords⟩ : ∃ node, ofValue words = .ok node := ⟨_, rfl⟩
  obtain ⟨-, -, -, -, -, -, -, -, literal⟩ := (ofValue_kind words).2.2 node readWords
  obtain rfl := literal noShape noMarker noList
  exact ⟨read, rfl, concat, rfl, noShape, readWords⟩

end Node

end TreeTemplate
