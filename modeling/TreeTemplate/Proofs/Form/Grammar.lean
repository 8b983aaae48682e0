import TreeTemplate.Proofs.Form.Decoding
import TreeTemplate.Proofs.Node.Place

/-!
# The grammar of the data form

`Value.IsForm` is the set of values that stand for trees, and `Value.StandsIn` says at which places
of a value other values are read as trees, with the tags of the elements around them.  A value at
such a place offends if it has the shape of a node and is malformed itself.

The reader takes the values of the grammar and no others, and when it fails, its error leads to a
value that offends (`Node.ofValue_isForm`).  So a value is of the grammar exactly if nothing in it
offends (`Node.isForm_iff_forall_not_offends`).
-/

namespace TreeTemplate

namespace Marker

/-- Whether a list with the marker is a reference. -/
def isReference : Marker → Bool
  | .var | .raw => true
  | _ => false

/-- Whether a list with the marker has any number of nodes behind it, and nothing else. -/
def isRow : Marker → Bool
  | .join | .concat | .group => true
  | _ => false

end Marker

namespace Value

/-- The values that stand for trees. -/
inductive IsForm : Value → Prop where
  | scalar {value : Value} : value.kind ≠ .list → IsForm value
  | empty : IsForm (.list [])
  | reference {marker : Marker} {text : String} :
    marker.isReference → (Path.ofText? text).isSome → IsForm (marker.lead [.string text])
  | unescaped {value : Value} : IsForm (Marker.unescaped.lead [value])
  | block {helper arg : String} {body : List Value} :
    isIdentifier helper → (Path.ofText? arg).isSome → (∀ item ∈ body, IsForm item) →
    IsForm (Marker.block.lead (.string helper :: .string arg :: body))
  | row {marker : Marker} {items : List Value} :
    marker.isRow → (∀ item ∈ items, IsForm item) → IsForm (marker.lead items)
  | bare {tag : String} {items : List Value} :
    isTagName tag → (∀ entries more, items ≠ .map entries :: more) →
    (∀ item ∈ items, IsForm item) → IsForm (.list (.string tag :: items))
  | attributed {tag : String} {entries : List (String × Value)} {items : List Value} :
    isTagName tag → (∀ entry ∈ entries, isTagName entry.1) → (∀ entry ∈ entries, IsForm entry.2) →
    (∀ item ∈ items, IsForm item) → IsForm (.list (.string tag :: .map entries :: items))
  | lists {items rest : List Value} :
    (∀ item ∈ .list items :: rest, IsForm item) → IsForm (.list (.list items :: rest))
  /-- What leads the list is no list, no marker and no tag, and what follows may be anything. -/
  | other {first : Value} {rest : List Value} :
    first.leadsForm = false → IsForm (.list (first :: rest))

/-- A value is read as a tree in another, with the tags of the elements around it, outermost first.
-/
inductive StandsIn (inner : Value) : List String → Value → Prop where
  | self : StandsIn inner [] inner
  | block {helper arg : String} {body : List Value} {item : Value} {tags : List String} :
    item ∈ body → StandsIn inner tags item →
    StandsIn inner tags (Marker.block.lead (.string helper :: .string arg :: body))
  | row {marker : Marker} {items : List Value} {item : Value} {tags : List String} :
    marker.isRow → item ∈ items → StandsIn inner tags item → StandsIn inner tags (marker.lead items)
  | bare {tag : String} {items : List Value} {item : Value} {tags : List String} :
    isTagName tag → (∀ entries more, items ≠ .map entries :: more) →
    item ∈ items → StandsIn inner tags item →
    StandsIn inner (tag :: tags) (.list (.string tag :: items))
  | entry {tag : String} {entries : List (String × Value)} {items : List Value}
      {entry : String × Value} {tags : List String} :
    isTagName tag → entry ∈ entries → StandsIn inner tags entry.2 →
    StandsIn inner (tag :: tags) (.list (.string tag :: .map entries :: items))
  | child {tag : String} {entries : List (String × Value)} {items : List Value} {item : Value}
      {tags : List String} :
    isTagName tag → item ∈ items → StandsIn inner tags item →
    StandsIn inner (tag :: tags) (.list (.string tag :: .map entries :: items))
  | lists {items rest : List Value} {item : Value} {tags : List String} :
    item ∈ .list items :: rest → StandsIn inner tags item →
    StandsIn inner tags (.list (.list items :: rest))

/-- What is read in a value that is read in another has the tags around both around it. -/
lemma StandsIn.trans {inner part value : Value} {tags outer : List String}
    (h : inner.StandsIn tags part) (h' : part.StandsIn outer value) :
    inner.StandsIn (outer ++ tags) value := by
  induction h' with
  | self => exact h
  | block among _ ih => exact .block among ih
  | row row among _ ih => exact .row row among ih
  | bare name bare among _ ih => exact .bare name bare among ih
  | entry name among _ ih => exact .entry name among ih
  | child name among _ ih => exact .child name among ih
  | lists among _ ih => exact .lists among ih

/-- A value has the shape of a node and is malformed, whatever stands in it.  A name of an attribute
offends inside its element, whose tag is the only one here. -/
inductive Offends : Value → List String → Prop where
  | reference {marker : Marker} {rest : List Value} :
    marker.isReference → (∀ text, rest = [.string text] → Path.ofText? text = .none) →
    Offends (marker.lead rest) []
  | unescaped {rest : List Value} : rest.length ≠ 1 → Offends (Marker.unescaped.lead rest) []
  | block {rest : List Value} :
    (∀ helper arg body, rest = .string helper :: .string arg :: body →
      isIdentifier helper → Path.ofText? arg = .none) →
    Offends (Marker.block.lead rest) []
  | name {tag : String} {entries : List (String × Value)} {items : List Value}
      {entry : String × Value} :
    isTagName tag → entry ∈ entries → ¬isTagName entry.1 →
    Offends (.list (.string tag :: .map entries :: items)) [tag]

/-- A value that has not the shape of another node is of the grammar. -/
lemma IsForm.of_plain {value : Value}
    (plain : ∀ first rest, value = .list (first :: rest) → first.leadsForm = false) :
    value.IsForm := by
  cases value with
  | list items =>
    cases items with
    | nil => exact .empty
    | cons first rest => exact .other (plain first rest rfl)
  | none | bool | integer | float | string | map => exact .scalar nofun

end Value

/-- An error that says of a value that something in it offends.  The trail has the elements around
what offends, and nothing else. -/
structure Error.OfForm (error : Error) (value : Value) : Prop where
  kind : error.kind = .invalidArgument
  place : ∃ (inner : Value) (tags own : List String),
    inner.StandsIn tags value ∧ inner.Offends own ∧ error.trail = (tags ++ own).map .element

namespace Error.OfForm

variable {error : Error} {part value : Value}

/-- The value itself offends. -/
lemma here (check : error.OfCheck) (offends : value.Offends []) : error.OfForm value :=
  ⟨check.kind, value, [], [], .self, offends, check.trail⟩

/-- What offends in a part offends in the whole, with the tags around the part around it. -/
lemma under {outer : List String} (located : error.OfForm part)
    (stands : part.StandsIn outer value) : (error.under (outer.map .element)).OfForm value := by
  obtain ⟨kind, inner, tags, own, place, offends, trail⟩ := located
  refine ⟨kind, inner, outer ++ tags, own, place.trans stands, offends, ?_⟩
  rw [Error.under, trail, ← List.map_append, List.append_assoc]

/-- The name of an attribute offends. -/
lemma ofName {tag : String} (check : error.OfCheck) (offends : value.Offends [tag]) :
    (error.within (.element tag)).OfForm value :=
  ⟨check.kind, value, [], [tag], .self, offends, congrArg (Label.element tag :: ·) check.trail⟩

end Error.OfForm

/-- Reading from a value ends as the grammar says of that value. -/
abbrev Judged {α : Type} (value : Value) (result : Except Error α) : Prop :=
  Ends (fun _ => value.IsForm) (fun error => error.OfForm value) result

namespace Judged

/-- Values in a row are judged in the whole, with the tags that are put around them. -/
lemma ofValues {value : Value} {items : List Value} {outer : List String}
    (each : ∀ item ∈ items, Judged item (Node.ofValue item))
    (stands : ∀ item ∈ items, item.StandsIn outer value) :
    Ends (fun _ => ∀ item ∈ items, item.IsForm)
      (fun error => (error.under (outer.map .element)).OfForm value) (Node.ofValues items) := by
  rw [Node.ofValues_eq_mapM]
  refine .mapM_items fun item among => (each item among).mono fun error located => ?_
  exact located.under (stands item among)

/-- The attributes of an element are judged in the element, name by name and value by value. -/
lemma ofEntries {tag : String} {entries : List (String × Value)} {items : List Value}
    (name : isTagName tag)
    (each : ∀ entry ∈ entries, Judged entry.2 (Node.ofValue entry.2)) :
    Ends (fun _ => ∀ entry ∈ entries, isTagName entry.1 ∧ entry.2.IsForm)
      (fun error => (error.within (.element tag)).OfForm
        (.list (.string tag :: .map entries :: items)))
      (Node.attrsOfEntries entries) := by
  rw [Node.attrsOfEntries_eq_mapM]
  refine .mapM_items fun entry among => ?_
  refine Ends.bind ((checkAttributeName_ends entry.1).mono fun error failed => ?_) fun _ valid => ?_
  · exact .ofName failed.1 (.name name among failed.2)
  · refine Ends.bind ((each entry among).mono fun error located => ?_) fun node form => ?_
    · exact located.under (.entry name among .self)
    · exact .ok ⟨valid, form⟩

end Judged

namespace Node

/-- What follows a marker is judged with the marker in front. -/
lemma ofMarked_judged (marker : Marker) {rest : List Value}
    (each : ∀ item ∈ rest, Judged item (ofValue item)) :
    Judged (marker.lead rest) (ofMarked marker rest) := by
  cases marker with
  | var | raw =>
    refine ((Form.referencePath_ends _ rest).imp ?_).mono ?_ |>.map fun _ form => form
    · rintro path ⟨text, rfl, found⟩
      exact .reference rfl (Option.isSome_of_eq_some found)
    · rintro error ⟨check, noPath⟩
      exact .here check (.reference rfl noPath)
  | block =>
    obtain ⟨helper, arg, body, rfl, eq⟩ | ⟨malformed, error, check, eq⟩ := ofMarked_block_cases rest
    -- the helper and the argument are texts, and only the body behind them is read
    · obtain ⟨-, behind⟩ := List.forall_mem_cons.1 each
      obtain ⟨-, inBody⟩ := List.forall_mem_cons.1 behind
      rw [eq]
      refine (Judged.ofValues inBody fun item among => .block among .self).bind ?_
      intro nodes forms
      refine ((blockOf_ends helper arg nodes).imp ?_).mono ?_
      · rintro node ⟨name, path, found, -⟩
        exact .block name (Option.isSome_of_eq_some found) forms
      · rintro error ⟨check, noPath⟩
        refine .here check (.block ?_)
        rintro _ _ _ ⟨⟩
        exact noPath
    · rw [eq]
      refine .error (.here check (.block fun helper arg body strings => ?_))
      exact absurd strings (malformed helper arg body)
  | join | concat | group =>
    exact (Judged.ofValues each fun item among => .row rfl among .self).map
      fun nodes forms => .row rfl forms
  | unescaped =>
    refine ((Form.unescapedValue_ends rest).imp ?_).mono ?_ |>.map fun _ form => form
    · rintro value rfl
      exact .unescaped
    · rintro error ⟨check, count⟩
      exact .here check (.unescaped count)

/-- Reading a value ends as the grammar says. -/
lemma ofValue_judged (value : Value) : Judged value (ofValue value) := by
  induction value using Value.form_induction with
  | plain value plain =>
    rw [ofValue_plain plain]
    exact .ok (.of_plain plain)
  | marked marker rest ih =>
    rw [ofValue_lead]
    exact ofMarked_judged marker ih
  | bare tag rest name bare ih =>
    rw [ofValue_tag name, ofTagged_bare tag bare]
    refine Ends.within ?_ fun error located => located
    exact (Judged.ofValues ih fun item among => .bare name bare among .self).map
      fun nodes forms => .bare name bare forms
  | attributed tag entries rest name ihEntries ihRest =>
    rw [ofValue_tag name, ofTagged]
    refine Ends.within ?_ fun error located => located
    refine (Judged.ofEntries name ihEntries).bind fun attrs entries => ?_
    refine (Judged.ofValues ihRest fun item among => .child name among .self).map ?_
    intro nodes forms
    exact .attributed name (fun entry among => (entries entry among).1)
      (fun entry among => (entries entry among).2) forms
  | lists items rest ih =>
    rw [ofValue_lists]
    exact (Judged.ofValues ih fun item among => .lists among .self).map
      fun nodes forms => .lists forms

/-- A list of values is decoded exactly if each of them is. -/
lemma exists_ofValues_iff {items : List Value} :
    (∃ nodes, ofValues items = .ok nodes) ↔ ∀ item ∈ items, ∃ node, ofValue item = .ok node := by
  rw [ofValues_eq_mapM, exists_mapM_eq_ok_iff]

/-- Attributes are decoded exactly if all names are tag names and all values are decoded. -/
lemma exists_attrsOfEntries_iff {entries : List (String × Value)} :
    (∃ attrs, attrsOfEntries entries = .ok attrs) ↔
      ∀ entry ∈ entries, isTagName entry.1 ∧ ∃ node, ofValue entry.2 = .ok node := by
  rw [attrsOfEntries_eq_mapM, exists_mapM_eq_ok_iff]
  refine forall₂_congr fun entry _ => ?_
  simp only [Prod.exists, attrOfEntry_eq_ok_iff, exists_and_left, exists_eq_left]

/-- Every value of the grammar is read. -/
lemma exists_ofValue {value : Value} (form : value.IsForm) : ∃ node, ofValue value = .ok node := by
  induction form with
  | @scalar value scalar =>
    refine ⟨.literal value, ofValue_plain ?_⟩
    rintro first rest rfl
    exact absurd rfl scalar
  | empty => exact ⟨_, rfl⟩
  | @reference marker text kind valid =>
    obtain ⟨path, found⟩ := Option.isSome_iff_exists.1 valid
    have parsed : Form.referencePath marker [.string text] = .ok path := Path.parse_eq_ok found
    rw [ofValue_lead]
    cases marker with
    | var | raw =>
      rw [ofMarked, parsed]
      exact ⟨_, rfl⟩
    | block | join | concat | group | unescaped => cases kind
  | unescaped => exact ⟨_, rfl⟩
  | @block helper arg body name valid _ ih =>
    obtain ⟨path, found⟩ := Option.isSome_iff_exists.1 valid
    obtain ⟨nodes, read⟩ := exists_ofValues_iff.2 ih
    rw [ofValue_lead, ofMarked, read, ok_bind]
    exact ⟨_, blockOf_eq_ok name found nodes⟩
  | @row marker items kind _ ih =>
    obtain ⟨nodes, read⟩ := exists_ofValues_iff.2 ih
    rw [ofValue_lead]
    cases marker with
    | join | concat | group =>
      rw [ofMarked, read]
      exact ⟨_, rfl⟩
    | var | raw | block | unescaped => cases kind
  | @bare tag items name bare _ ih =>
    obtain ⟨nodes, read⟩ := exists_ofValues_iff.2 ih
    rw [ofValue_tag name, ofTagged_bare tag bare, read]
    exact ⟨_, rfl⟩
  | attributed name names _ _ ihEntries ihItems =>
    obtain ⟨attrs, readAttrs⟩ := exists_attrsOfEntries_iff.2 fun entry among =>
      ⟨names entry among, ihEntries entry among⟩
    obtain ⟨nodes, readItems⟩ := exists_ofValues_iff.2 ihItems
    rw [ofValue_tag name, ofTagged, readAttrs, ok_bind, readItems]
    exact ⟨_, rfl⟩
  | lists _ ih =>
    obtain ⟨nodes, read⟩ := exists_ofValues_iff.2 ih
    rw [ofValue_lists, read]
    exact ⟨_, rfl⟩
  | other plain => exact ⟨_, ofValue_literal plain⟩

/-- If a value is read, so is all that stands in it. -/
lemma exists_ofValue_of_standsIn {inner value : Value} {tags : List String}
    (stands : inner.StandsIn tags value) (read : ∃ node, ofValue value = .ok node) :
    ∃ node, ofValue inner = .ok node := by
  induction stands with
  | self => exact read
  | block among _ ih =>
    obtain ⟨node, read⟩ := read
    rw [ofValue_lead, ofMarked, bind_eq_ok_iff] at read
    obtain ⟨nodes, body, -⟩ := read
    exact ih (exists_ofValues_iff.1 ⟨nodes, body⟩ _ among)
  | @row marker items item _ kind among _ ih =>
    obtain ⟨node, read⟩ := read
    rw [ofValue_lead] at read
    cases marker with
    | join | concat | group =>
      rw [ofMarked, map_eq_ok_iff] at read
      obtain ⟨nodes, row, -⟩ := read
      exact ih (exists_ofValues_iff.1 ⟨nodes, row⟩ _ among)
    | var | raw | block | unescaped => cases kind
  | @bare tag _ _ _ name bare among _ ih =>
    obtain ⟨node, read⟩ := read
    rw [ofValue_tag name, ofTagged_bare tag bare, within_eq_ok_iff, map_eq_ok_iff] at read
    obtain ⟨nodes, children, -⟩ := read
    exact ih (exists_ofValues_iff.1 ⟨nodes, children⟩ _ among)
  | entry name among _ ih =>
    obtain ⟨node, read⟩ := read
    rw [ofValue_tag name, ofTagged, within_eq_ok_iff, bind_eq_ok_iff] at read
    obtain ⟨attrs, entries, -⟩ := read
    exact ih (exists_attrsOfEntries_iff.1 ⟨attrs, entries⟩ _ among).2
  | child name among _ ih =>
    obtain ⟨node, read⟩ := read
    rw [ofValue_tag name, ofTagged, within_eq_ok_iff, bind_eq_ok_iff] at read
    obtain ⟨attrs, -, read⟩ := read
    obtain ⟨nodes, children, -⟩ := bind_eq_ok_iff.1 read
    exact ih (exists_ofValues_iff.1 ⟨nodes, children⟩ _ among)
  | lists among _ ih =>
    obtain ⟨node, read⟩ := read
    rw [ofValue_lists, map_eq_ok_iff] at read
    obtain ⟨nodes, row, -⟩ := read
    exact ih (exists_ofValues_iff.1 ⟨nodes, row⟩ _ among)

/-- What offends is not read. -/
lemma ofValue_ne_ok_of_offends {value : Value} {own : List String} (offends : value.Offends own)
    (node : Node) : ofValue value ≠ .ok node := by
  intro read
  cases offends with
  | @reference marker rest kind noPath =>
    rw [ofValue_lead] at read
    cases marker with
    | var | raw =>
      rw [ofMarked, map_eq_ok_iff] at read
      obtain ⟨path, parsed, -⟩ := read
      obtain ⟨text, one, found⟩ := (Form.referencePath_ends _ rest).of_ok parsed
      rw [noPath text one] at found
      cases found
    | block | join | concat | group | unescaped => cases kind
  | @unescaped rest count =>
    rw [ofValue_lead, ofMarked, map_eq_ok_iff] at read
    obtain ⟨value, one, -⟩ := read
    exact count (congrArg List.length ((Form.unescapedValue_ends rest).of_ok one))
  | @block rest malformed =>
    rw [ofValue_lead] at read
    obtain ⟨helper, arg, body, rfl, eq⟩ | ⟨-, error, -, eq⟩ := ofMarked_block_cases rest
    · rw [eq] at read
      obtain ⟨nodes, -, built⟩ := bind_eq_ok_iff.1 read
      obtain ⟨name, path, found, -⟩ := (blockOf_ends helper arg nodes).of_ok built
      rw [malformed helper arg body rfl name] at found
      cases found
    · rw [eq] at read
      cases read
  | name tag among invalid =>
    rw [ofValue_tag tag, ofTagged, within_eq_ok_iff, bind_eq_ok_iff] at read
    obtain ⟨attrs, entries, -⟩ := read
    exact invalid (exists_attrsOfEntries_iff.1 ⟨attrs, entries⟩ _ among).1

/-- The values that are read are those of the grammar.  When reading fails, it is for an invalid
argument, and the trail has the tags of the elements around something that offends, outermost first.
-/
theorem ofValue_isForm (value : Value) :
    ((∃ node, ofValue value = .ok node) ↔ value.IsForm)
      ∧ ∀ error, ofValue value = .error error → error.kind = .invalidArgument
        ∧ ∃ (inner : Value) (tags own : List String), inner.StandsIn tags value
          ∧ inner.Offends own ∧ error.trail = (tags ++ own).map .element := by
  have judged := ofValue_judged value
  refine ⟨⟨?_, exists_ofValue⟩, fun error fails => ?_⟩
  · rintro ⟨node, read⟩
    exact judged.of_ok read
  · obtain ⟨kind, place⟩ := judged.of_error fails
    exact ⟨kind, place⟩

/-- A section with a link whose attribute name would open a second attribute: it is no form, and the
error says in which elements that name stands. -/
theorem ofValue_isForm_of_invalid_attribute :
    let value : Value :=
      .list [.string "section",
        .list [.string "a", .map [("x\" onclick=\"evil()", .string "1")], .string "link"]]
    let error : Error :=
      ⟨.invalidAttribute "x\" onclick=\"evil()", [.element "section", .element "a"], none⟩
    ofValue value = .error error ∧ ¬value.IsForm ∧ error.kind = .invalidArgument
      ∧ ∃ (inner : Value) (tags own : List String), inner.StandsIn tags value
        ∧ inner.Offends own ∧ error.trail = (tags ++ own).map .element := by
  intro value error
  have fails : ofValue value = .error error := rfl
  obtain ⟨accepted, rejected⟩ := ofValue_isForm value
  refine ⟨fails, fun form => ?_, rejected error fails⟩
  obtain ⟨node, read⟩ := accepted.2 form
  rw [fails] at read
  cases read

/-- A value is of the grammar exactly if nothing in it offends. -/
theorem isForm_iff_forall_not_offends {value : Value} :
    value.IsForm ↔ ∀ (inner : Value) (tags own : List String),
      inner.StandsIn tags value → ¬inner.Offends own := by
  constructor
  · intro form inner tags own stands offends
    obtain ⟨node, read⟩ := exists_ofValue_of_standsIn stands (exists_ofValue form)
    exact ofValue_ne_ok_of_offends offends node read
  · intro sound
    have judged := ofValue_judged value
    cases read : ofValue value with
    | ok node => exact judged.of_ok read
    | error error =>
      obtain ⟨-, inner, tags, own, stands, offends, -⟩ := judged.of_error read
      exact absurd offends (sound inner tags own stands)

end Node

end TreeTemplate
