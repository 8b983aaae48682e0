import TreeTemplate.Proofs.Form.Grammar
import TreeTemplate.Proofs.Path.Characters
import TreeTemplate.Proofs.Sequence

/-!
# Normal forms of data

A row may be written as a list of lists, without the marker `::concat` in front, but the data form
of a row has the marker.  `Value.normalForm` puts it in front of each list of lists that is read as
a tree, and leaves everything else as it is.

What is read from a value has the normal form of the value as its data form, and that is read as the
same tree (`Node.toValue_ofValue`).
-/

namespace TreeTemplate

namespace Value

mutual

/-- The value with a marker in front of each list that is read as a tree and is led by a list. -/
def normalForm : Value → Value
  | .list items =>
    match items with
    | .string head :: rest =>
      match Marker.ofText? head with
      | some .block =>
        match rest with
        | .string helper :: .string arg :: body =>
          Marker.block.lead (.string helper :: .string arg :: normalForms body)
        | _ => .list items
      | some marker => if marker.isRow then marker.lead (normalForms rest) else .list items
      | .none =>
        if isTagName head then
          match rest with
          | .map entries :: children =>
            .list (.string head :: .map (normalEntries entries) :: normalForms children)
          | children => .list (.string head :: normalForms children)
        else .list items
    | first :: rest =>
      if first.kind = .list then Marker.concat.lead (first.normalForm :: normalForms rest)
      else .list items
    | [] => .list []
  | value => value
termination_by structural value => value

/-- The normal forms of values in a row. -/
def normalForms : List Value → List Value
  | [] => []
  | value :: rest => value.normalForm :: normalForms rest
termination_by structural values => values

/-- The entries of a map with the normal forms of their values. -/
def normalEntries : List (String × Value) → List (String × Value)
  | [] => []
  | (name, value) :: rest => (name, value.normalForm) :: normalEntries rest
termination_by structural entries => entries

end

/-- A list of values is normalized value by value. -/
lemma normalForms_eq_map (values : List Value) : normalForms values = values.map normalForm := by
  induction values with
  | nil => rfl
  | cons value rest ih => rw [normalForms, ih, List.map_cons]

/-- An attribute map keeps its names, and its values are normalized. -/
lemma normalEntries_eq_map (entries : List (String × Value)) :
    normalEntries entries = entries.map fun entry => (entry.1, entry.2.normalForm) := by
  induction entries with
  | nil => rfl
  | cons entry rest ih => rw [normalEntries, ih, List.map_cons]

/-- A value that leads no form is its own normal form. -/
lemma normalForm_plain {value : Value}
    (plain : ∀ first rest, value = .list (first :: rest) → first.leadsForm = false) :
    value.normalForm = value := by
  cases value with
  | list items =>
    cases items with
    | nil => rfl
    | cons first rest =>
      have form := plain first rest rfl
      cases first with
      | string head =>
        simp only [leadsForm, Bool.or_eq_false_iff, Option.isSome_eq_false_iff,
          Option.isNone_iff_eq_none] at form
        rw [normalForm.eq_def]
        simp only [form, Bool.false_eq_true, if_false]
      | list nested => cases form
      | none | bool | integer | float | map => rfl
  | none | bool | integer | float | string | map => rfl

/-- A list that starts with the marker of a row keeps it, and its items are normalized. -/
lemma normalForm_row {marker : Marker} (kind : marker.isRow) (items : List Value) :
    (marker.lead items).normalForm = marker.lead (items.map normalForm) := by
  have found : Marker.ofText? marker.text = some marker := Marker.ofText?_eq_some_iff.2 rfl
  rw [← normalForms_eq_map, Marker.lead, normalForm.eq_def]
  cases marker with
  | join | concat | group => simp only [found, kind, if_true]
  | var | raw | block | unescaped => cases kind

/-- A block keeps its helper and argument, and its body is normalized. -/
lemma normalForm_block (helper arg : String) (body : List Value) :
    (Marker.block.lead (.string helper :: .string arg :: body)).normalForm =
      Marker.block.lead (.string helper :: .string arg :: body.map normalForm) := by
  rw [← normalForms_eq_map]
  rfl

/-- Nothing changes behind the other markers. -/
lemma normalForm_lead {marker : Marker} {rest : List Value} (row : marker.isRow = false)
    (malformed : marker = .block → ∀ helper arg body, rest ≠ .string helper :: .string arg :: body) :
    (marker.lead rest).normalForm = marker.lead rest := by
  have found : Marker.ofText? marker.text = some marker := Marker.ofText?_eq_some_iff.2 rfl
  rw [Marker.lead, normalForm.eq_def]
  cases marker with
  | var | raw | unescaped => simp only [found, row, Bool.false_eq_true, if_false]
  | block =>
    simp only [found]
    split
    · exact absurd rfl (malformed rfl _ _ _)
    · rfl
  | join | concat | group => cases row

/-- An element without an attribute map keeps its tag, and its children are normalized. -/
lemma normalForm_bare {tag : String} {rest : List Value} (name : isTagName tag)
    (bare : ∀ entries more, rest ≠ .map entries :: more) :
    (list (.string tag :: rest)).normalForm = .list (.string tag :: rest.map normalForm) := by
  rw [← normalForms_eq_map, normalForm.eq_def]
  dsimp only
  rw [Marker.ofText?_of_isTagName name]
  dsimp only
  rw [if_pos name]
  split
  · exact absurd rfl (bare _ _)
  · rfl

/-- An element with an attribute map keeps its tag and the names, and all values are normalized. -/
lemma normalForm_attributed {tag : String} (name : isTagName tag)
    (entries : List (String × Value)) (rest : List Value) :
    (list (.string tag :: .map entries :: rest)).normalForm =
      .list (.string tag :: .map (entries.map fun entry => (entry.1, entry.2.normalForm))
        :: rest.map normalForm) := by
  rw [← normalForms_eq_map, ← normalEntries_eq_map, normalForm.eq_def]
  simp only [Marker.ofText?_of_isTagName name, name, if_true]

/-- A list that starts with a list is written out as a concatenation. -/
lemma normalForm_lists (items rest : List Value) :
    (list (.list items :: rest)).normalForm =
      Marker.concat.lead ((.list items :: rest).map normalForm) := by
  rw [← normalForms_eq_map]
  rfl

/-- What a list led by a marker becomes, by the kind of the marker. -/
lemma normalForm_lead_cases (marker : Marker) (rest : List Value) :
    (marker.isRow ∧ (marker.lead rest).normalForm = marker.lead (rest.map normalForm))
      ∨ (∃ helper arg body, marker = .block ∧ rest = .string helper :: .string arg :: body
        ∧ (marker.lead rest).normalForm =
          Marker.block.lead (.string helper :: .string arg :: body.map normalForm))
      ∨ (marker.lead rest).normalForm = marker.lead rest := by
  by_cases row : marker.isRow
  · exact .inl ⟨row, normalForm_row row rest⟩
  · by_cases block : ∃ helper arg body, marker = .block ∧ rest = .string helper :: .string arg :: body
    · obtain ⟨helper, arg, body, rfl, rfl⟩ := block
      exact .inr (.inl ⟨helper, arg, body, rfl, rfl, normalForm_block helper arg body⟩)
    · refine .inr (.inr (normalForm_lead (Bool.eq_false_iff.2 row) ?_))
      exact fun marked helper arg body eq => block ⟨helper, arg, body, marked, eq⟩

/-- A value is a map exactly if its normal form is. -/
lemma normalForm_eq_map_iff {value : Value} {entries : List (String × Value)} :
    value.normalForm = .map entries ↔ value = .map entries := by
  cases value using form_cases with
  | plain value plain => rw [normalForm_plain plain]
  | marked marker rest =>
    obtain ⟨-, eq⟩ | ⟨helper, arg, body, rfl, rfl, eq⟩ | eq := normalForm_lead_cases marker rest
    · rw [eq]
      simp [Marker.lead]
    · rw [eq]
      simp [Marker.lead]
    · rw [eq]
  | bare tag rest name bare => simp [normalForm_bare name bare]
  | attributed tag entries rest name => simp [normalForm_attributed name]
  | lists items rest => simp [normalForm_lists, Marker.lead]

/-- No list that is led by a list is read as a tree in the value. -/
def Explicit (value : Value) : Prop :=
  ∀ items rest tags, ¬(list (.list items :: rest)).StandsIn tags value

/-- A part of a value without shorthand has none. -/
lemma Explicit.of_standsIn {part value : Value} {outer : List String} (explicit : value.Explicit)
    (stands : part.StandsIn outer value) : part.Explicit :=
  fun items rest _ inside => explicit items rest _ (inside.trans stands)

/-- A value without shorthand is its own normal form. -/
lemma Explicit.normalForm_eq {value : Value} (explicit : value.Explicit) :
    value.normalForm = value := by
  induction value using form_induction with
  | plain value plain => exact normalForm_plain plain
  | marked marker rest ih =>
    obtain ⟨row, eq⟩ | ⟨helper, arg, body, rfl, rfl, eq⟩ | eq := normalForm_lead_cases marker rest
    · rw [eq, map_eq_self fun item among =>
        ih item among (explicit.of_standsIn (.row row among .self))]
    · obtain ⟨-, behind⟩ := List.forall_mem_cons.1 ih
      obtain ⟨-, inBody⟩ := List.forall_mem_cons.1 behind
      rw [eq, map_eq_self fun item among =>
        inBody item among (explicit.of_standsIn (.block among .self))]
    · exact eq
  | bare tag rest name bare ih =>
    rw [normalForm_bare name bare, map_eq_self fun item among =>
      ih item among (explicit.of_standsIn (.bare name bare among .self))]
  | attributed tag entries rest name ihEntries ihRest =>
    have inEntries : ∀ entry ∈ entries, (entry.1, entry.2.normalForm) = entry := fun entry among =>
      congrArg (Prod.mk entry.1)
        (ihEntries entry among (explicit.of_standsIn (.entry name among .self)))
    have inRest : ∀ item ∈ rest, item.normalForm = item := fun item among =>
      ihRest item among (explicit.of_standsIn (.child name among .self))
    rw [normalForm_attributed name, map_eq_self inEntries, map_eq_self inRest]
  | lists items rest => exact absurd .self (explicit items rest [])

/-- If a list is its own normal form, so is each item. -/
lemma forall_of_map_normalForm {items : List Value} (eq : items.map normalForm = items) :
    ∀ item ∈ items, item.normalForm = item :=
  List.map_inj_left.1 (eq.trans (List.map_id items).symm)

/-- What is read as a tree in a normal form is a normal form. -/
lemma normalForm_eq_of_standsIn {inner value : Value} {tags : List String}
    (stands : inner.StandsIn tags value) (normal : value.normalForm = value) :
    inner.normalForm = inner := by
  induction stands with
  | self => exact normal
  | block among _ ih =>
    rw [normalForm_block] at normal
    simp only [Marker.lead, list.injEq, List.cons.injEq, true_and] at normal
    exact ih (forall_of_map_normalForm normal _ among)
  | row kind among _ ih =>
    rw [normalForm_row kind] at normal
    simp only [Marker.lead, list.injEq, List.cons.injEq, true_and] at normal
    exact ih (forall_of_map_normalForm normal _ among)
  | bare name bare among _ ih =>
    rw [normalForm_bare name bare] at normal
    simp only [list.injEq, List.cons.injEq, true_and] at normal
    exact ih (forall_of_map_normalForm normal _ among)
  | @entry _ entries _ entry _ name among _ ih =>
    rw [normalForm_attributed name] at normal
    simp only [list.injEq, List.cons.injEq, map.injEq, true_and] at normal
    have each := List.map_inj_left.1 (normal.1.trans (List.map_id entries).symm)
    exact ih (congrArg Prod.snd (each entry among))
  | child name among _ ih =>
    rw [normalForm_attributed name] at normal
    simp only [list.injEq, List.cons.injEq, true_and] at normal
    exact ih (forall_of_map_normalForm normal.2 _ among)
  | @lists items rest _ _ _ _ _ =>
    rw [normalForm_lists, Marker.lead] at normal
    cases normal

/-- A value is its normal form exactly if no list of lists is read as a tree in it. -/
theorem normalForm_eq_iff {value : Value} : value.normalForm = value ↔ value.Explicit := by
  refine ⟨fun normal items rest tags stands => ?_, Explicit.normalForm_eq⟩
  have same := normalForm_eq_of_standsIn stands normal
  rw [normalForm_lists, Marker.lead] at same
  cases same

end Value

/-- What was read from a value has the normal form of the value as its data form. -/
abbrev Normalizes (value : Value) (result : Except Error Node) : Prop :=
  Ends (fun node => node.toValue = value.normalForm) (fun _ => True) result

namespace Node

/-- Values that decode to trees with their normal forms do so as a list. -/
lemma ofValues_normalizes {items : List Value}
    (each : ∀ item ∈ items, Normalizes item (ofValue item)) :
    Ends (fun nodes => toValues nodes = items.map Value.normalForm) (fun _ => True)
      (ofValues items) := by
  rw [ofValues_eq_mapM]
  refine (Ends.forall₂ each).imp fun nodes related => ?_
  rw [toValues_eq_map, map_eq_map_of_forall₂ related]

/-- Attributes decode to trees with the normal forms of the entries if each value does. -/
lemma attrsOfEntries_normalizes {entries : List (String × Value)}
    (each : ∀ entry ∈ entries, Normalizes entry.2 (ofValue entry.2)) :
    Ends (fun attrs =>
        attrsToEntries attrs = entries.map fun entry => (entry.1, entry.2.normalForm))
      (fun _ => True) (attrsOfEntries entries) := by
  rw [attrsOfEntries_eq_mapM]
  have inEach : ∀ entry ∈ entries, Ends
      (fun attr => (attr.1, attr.2.toValue) = (entry.1, entry.2.normalForm)) (fun _ => True)
      (attrOfEntry entry) := by
    intro entry among
    refine ((checkAttributeName_ends entry.1).mono fun _ _ => trivial).bind fun _ _ => ?_
    exact (each entry among).bind fun node form => .ok (congrArg (Prod.mk entry.1) form)
  refine (Ends.forall₂ inEach).imp fun attrs related => ?_
  rw [attrsToEntries_eq_map, map_eq_map_of_forall₂ related]

/-- What follows a marker keeps its form, or has the forms of its nodes. -/
lemma ofMarked_normalizes (marker : Marker) {rest : List Value}
    (each : ∀ item ∈ rest, Normalizes item (ofValue item)) :
    Normalizes (marker.lead rest) (ofMarked marker rest) := by
  cases marker with
  | var | raw =>
    refine ((Form.referencePath_ends _ rest).mono fun _ _ => trivial).map ?_
    rintro path ⟨text, rfl, found⟩
    rw [toValue, Path.text_of_ofText? found]
    rfl
  | block =>
    obtain ⟨helper, arg, body, rfl, eq⟩ | ⟨-, error, -, eq⟩ := ofMarked_block_cases rest
    · obtain ⟨-, behind⟩ := List.forall_mem_cons.1 each
      obtain ⟨-, inBody⟩ := List.forall_mem_cons.1 behind
      rw [eq]
      refine (ofValues_normalizes inBody).bind fun nodes forms => ?_
      refine ((blockOf_ends helper arg nodes).mono fun _ _ => trivial).imp ?_
      rintro node ⟨-, path, found, rfl⟩
      rw [toValue, Path.text_of_ofText? found, forms, Value.normalForm_block]
    · rw [eq]
      exact .error trivial
  | join | concat | group =>
    refine (ofValues_normalizes each).map fun nodes forms => ?_
    rw [toValue, forms, Value.normalForm_row rfl]
  | unescaped =>
    refine ((Form.unescapedValue_ends rest).mono fun _ _ => trivial).map ?_
    rintro value rfl
    rfl

/-- A value that is decoded gives a tree whose form is the normal form of the value. -/
lemma ofValue_normalizes (value : Value) : Normalizes value (ofValue value) := by
  induction value using Value.form_induction with
  | plain value plain =>
    rw [ofValue_plain plain]
    exact .ok (Value.normalForm_plain plain).symm
  | marked marker rest ih =>
    rw [ofValue_lead]
    exact ofMarked_normalizes marker ih
  | bare tag rest name bare ih =>
    rw [ofValue_tag name, ofTagged_bare tag bare]
    refine Ends.within ((ofValues_normalizes ih).map fun nodes forms => ?_) fun _ _ => trivial
    rw [toValue, forms, Value.normalForm_bare name bare]
  | attributed tag entries rest name ihEntries ihRest =>
    rw [ofValue_tag name, ofTagged]
    refine Ends.within (Q := fun _ => True) ?_ fun _ _ => trivial
    refine (attrsOfEntries_normalizes ihEntries).bind fun attrs inEntries => ?_
    refine (ofValues_normalizes ihRest).map fun nodes inRest => ?_
    rw [toValue, inEntries, inRest, Value.normalForm_attributed name]
  | lists items rest ih =>
    rw [ofValue_lists]
    refine (ofValues_normalizes ih).map fun nodes forms => ?_
    rw [toValue, forms, Value.normalForm_lists]

/-- Normalizing the items of a list does not change what it is decoded to. -/
lemma ofValues_normalForm {items : List Value}
    (each : ∀ item ∈ items, ofValue item.normalForm = ofValue item) :
    ofValues (items.map Value.normalForm) = ofValues items := by
  rw [ofValues_eq_mapM, ofValues_eq_mapM, List.mapM_map]
  exact mapM_congr each

/-- Normalizing the values of an attribute map does not change what it is decoded to. -/
lemma attrsOfEntries_normalForm {entries : List (String × Value)}
    (each : ∀ entry ∈ entries, ofValue entry.2.normalForm = ofValue entry.2) :
    attrsOfEntries (entries.map fun entry => (entry.1, entry.2.normalForm)) =
      attrsOfEntries entries := by
  rw [attrsOfEntries_eq_mapM, attrsOfEntries_eq_mapM, List.mapM_map]
  refine mapM_congr fun entry among => ?_
  rw [Function.comp_apply, attrOfEntry, attrOfEntry, each entry among]

/-- A value is read as its normal form is, errors included. -/
theorem ofValue_normalForm (value : Value) : ofValue value.normalForm = ofValue value := by
  induction value using Value.form_induction with
  | plain value plain => rw [Value.normalForm_plain plain]
  | marked marker rest ih =>
    obtain ⟨row, eq⟩ | ⟨helper, arg, body, rfl, rfl, eq⟩ | eq :=
      Value.normalForm_lead_cases marker rest
    · rw [eq, ofValue_lead, ofValue_lead]
      cases marker with
      | join | concat | group => rw [ofMarked, ofMarked, ofValues_normalForm ih]
      | var | raw | block | unescaped => cases row
    · obtain ⟨-, behind⟩ := List.forall_mem_cons.1 ih
      obtain ⟨-, inBody⟩ := List.forall_mem_cons.1 behind
      rw [eq, ofValue_lead, ofValue_lead, ofMarked, ofMarked, ofValues_normalForm inBody]
    · rw [eq]
  | bare tag rest name bare ih =>
    have stillBare : ∀ entries more, rest.map Value.normalForm ≠ .map entries :: more := by
      intro entries more eq
      obtain ⟨first, others, rfl, map, -⟩ := List.map_eq_cons_iff.1 eq
      exact bare entries others (by rw [Value.normalForm_eq_map_iff.1 map])
    rw [Value.normalForm_bare name bare, ofValue_tag name, ofValue_tag name,
      ofTagged_bare tag bare, ofTagged_bare tag stillBare, ofValues_normalForm ih]
  | attributed tag entries rest name ihEntries ihRest =>
    rw [Value.normalForm_attributed name, ofValue_tag name, ofValue_tag name, ofTagged, ofTagged,
      attrsOfEntries_normalForm ihEntries, ofValues_normalForm ihRest]
  | lists items rest ih =>
    rw [Value.normalForm_lists, ofValue_lead, ofValue_lists, ofMarked, ofValues_normalForm ih]

/-- Reading a value and writing what was read normalizes the value.  It stays the same exactly if no
list of lists is read as a tree in it, and in any case the normal form is read as the same tree. -/
theorem toValue_ofValue {value : Value} {node : Node} (read : ofValue value = .ok node) :
    node.toValue = value.normalForm
      ∧ (node.toValue = value ↔ value.Explicit)
      ∧ ofValue node.toValue = .ok node := by
  have form : node.toValue = value.normalForm := (ofValue_normalizes value).of_ok read
  rw [form, ofValue_normalForm]
  exact ⟨rfl, Value.normalForm_eq_iff, read⟩

/-- A list with lists of nodes for its class and its items: it is decoded, and encoded again with
`::concat` in front of both. -/
theorem toValue_ofValue_of_nested_lists :
    let items (row : List Value → Value) : Value :=
      .list [.string "ul", .map [("class", row [.list [.string "a"], .string " b"])],
        row [.list [.string "li", .string "x"], .list [.string "::unescaped", .list [.list []]]]]
    ∃ node, ofValue (items .list) = .ok node
      ∧ node.toValue = items Marker.concat.lead
      ∧ ¬(items .list).Explicit
      ∧ ofValue node.toValue = .ok node := by
  intro items
  obtain ⟨node, read⟩ : ∃ node, ofValue (items .list) = .ok node := ⟨_, rfl⟩
  obtain ⟨form, same, again⟩ := toValue_ofValue read
  refine ⟨node, read, form, fun explicit => ?_, again⟩
  have kept := form.symm.trans (same.2 explicit)
  cases kept

end Node

end TreeTemplate
