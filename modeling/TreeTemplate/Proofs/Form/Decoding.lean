import TreeTemplate.Form.Encode
import TreeTemplate.Proofs.Form.Checks
import TreeTemplate.Proofs.Node.Parts

/-!
# Reading the data form, shape by shape

`Node.ofValue` looks at the head of a list and at the value behind it.  The lemmas here have one
equation for each kind of head, and rows are read by a walk over their items, so that what is said
of decoding elsewhere does not depend on how the cases of the reader are nested.

`Value.form_cases` are the cases that go with these shapes, and `Value.form_induction` is the
induction: what holds of a value may be shown from the values in it that are read as trees.
-/

namespace TreeTemplate

/-- No tag name is a marker. -/
lemma Marker.ofText?_of_isTagName {text : String} (tag : isTagName text) :
    Marker.ofText? text = none := by
  cases found : Marker.ofText? text with
  | none => rfl
  | some marker =>
    rw [ofText?_eq_some_iff.1 found] at tag
    revert tag
    cases marker <;> decide

/-- Whether a list that starts with this value has the shape of a node other than a literal. -/
def Value.leadsForm : Value → Bool
  | .list _ => true
  | .string head => (Marker.ofText? head).isSome || isTagName head
  | _ => false

/-- Cases of values by the shape that they have for the reader. -/
theorem Value.form_cases {motive : Value → Prop}
    (plain : ∀ value : Value,
      (∀ first rest, value = .list (first :: rest) → first.leadsForm = false) → motive value)
    (marked : ∀ marker rest, motive (Marker.lead marker rest))
    (bare : ∀ tag rest, isTagName tag → (∀ entries more, rest ≠ .map entries :: more) →
      motive (.list (.string tag :: rest)))
    (attributed : ∀ tag entries rest, isTagName tag →
      motive (.list (.string tag :: .map entries :: rest)))
    (lists : ∀ items rest, motive (.list (.list items :: rest)))
    (value : Value) : motive value := by
  by_cases form : ∃ first rest, value = .list (first :: rest) ∧ first.leadsForm
  · obtain ⟨first, rest, rfl, form⟩ := form
    cases first with
    | list nested => exact lists nested rest
    | string head =>
      cases found : Marker.ofText? head with
      | some marker =>
        rw [Marker.ofText?_eq_some_iff.1 found]
        exact marked marker rest
      | none =>
        have name : isTagName head := by simpa [leadsForm, found] using form
        by_cases map : ∃ entries more, rest = .map entries :: more
        · obtain ⟨entries, more, rfl⟩ := map
          exact attributed head entries more name
        · exact bare head rest name fun entries more eq => map ⟨entries, more, eq⟩
    | none | bool | integer | float | map => cases form
  · refine plain value fun first rest eq => Bool.eq_false_iff.2 fun leads => ?_
    exact form ⟨first, rest, eq, leads⟩

/-- Induction on values by the shape that they have for the reader. -/
theorem Value.form_induction {motive : Value → Prop}
    (plain : ∀ value : Value,
      (∀ first rest, value = .list (first :: rest) → first.leadsForm = false) → motive value)
    (marked : ∀ marker rest, (∀ item ∈ rest, motive item) → motive (Marker.lead marker rest))
    (bare : ∀ tag rest, isTagName tag → (∀ entries more, rest ≠ .map entries :: more) →
      (∀ item ∈ rest, motive item) → motive (.list (.string tag :: rest)))
    (attributed : ∀ tag entries rest, isTagName tag → (∀ entry ∈ entries, motive entry.2) →
      (∀ item ∈ rest, motive item) → motive (.list (.string tag :: .map entries :: rest)))
    (lists : ∀ items rest, (∀ item ∈ .list items :: rest, motive item) →
      motive (.list (.list items :: rest)))
    (value : Value) : motive value := by
  -- attributes stand in a map of the list, so the values in maps are carried along
  suffices motive value ∧ ∀ entries, value = .map entries → ∀ entry ∈ entries, motive entry.2 from
    this.1
  induction value with
  | none | bool | integer | float | string => exact ⟨plain _ nofun, nofun⟩
  | map entries ih =>
    refine ⟨plain _ nofun, ?_⟩
    rintro _ ⟨⟩ entry among
    exact (ih entry among).1
  | list items ih =>
    refine ⟨?_, nofun⟩
    generalize whole : Value.list items = value
    cases value using form_cases with
    | plain value shape => exact plain value shape
    | marked marker rest =>
      cases whole
      obtain ⟨-, inRest⟩ := List.forall_mem_cons.1 ih
      exact marked marker rest fun item among => (inRest item among).1
    | bare tag rest name shape =>
      cases whole
      obtain ⟨-, inRest⟩ := List.forall_mem_cons.1 ih
      exact bare tag rest name shape fun item among => (inRest item among).1
    | attributed tag entries rest name =>
      cases whole
      obtain ⟨-, inEntries, inRest⟩ := List.forall_mem_cons.1 ih |>.imp_right List.forall_mem_cons.1
      exact attributed tag entries rest name (inEntries.2 entries rfl)
        fun item among => (inRest item among).1
    | lists nested rest =>
      cases whole
      exact lists nested rest fun item among => (ih item among).1

namespace Node

/-- A list of values is decoded value by value, in order. -/
lemma ofValues_eq_mapM (values : List Value) : ofValues values = values.mapM ofValue := by
  induction values with
  | nil => rfl
  | cons value rest ih => rw [ofValues, ih, List.mapM_cons]

/-- Reads one attribute. -/
def attrOfEntry (entry : String × Value) : Except Error (String × Node) := do
  checkAttributeName entry.1
  pure (entry.1, ← ofValue entry.2)

/-- Attributes are decoded entry by entry, in order. -/
lemma attrsOfEntries_eq_mapM (entries : List (String × Value)) :
    attrsOfEntries entries = entries.mapM attrOfEntry := by
  induction entries with
  | nil => rfl
  | cons entry rest ih =>
    rw [attrsOfEntries, ih, List.mapM_cons, attrOfEntry]
    simp only [bind_assoc, pure_bind]

/-- An attribute is read if its name is valid and its value is read. -/
lemma attrOfEntry_eq_ok_iff {entry : String × Value} {attr : String × Node} :
    attrOfEntry entry = .ok attr ↔
      isTagName entry.1 ∧ attr.1 = entry.1 ∧ ofValue entry.2 = .ok attr.2 := by
  obtain ⟨name, value⟩ := entry
  obtain ⟨named, node⟩ := attr
  rw [attrOfEntry, checkAttributeName]
  split
  · rename_i valid
    rw [ok_bind, bind_eq_ok_iff]
    constructor
    · rintro ⟨_, read, ⟨⟩⟩
      exact ⟨valid, rfl, read⟩
    · rintro ⟨-, rfl, read⟩
      exact ⟨node, read, rfl⟩
  · rename_i invalid
    constructor
    · intro failed
      cases failed
    · rintro ⟨valid, -⟩
      exact absurd valid invalid

/-- Reads what follows a marker. -/
def ofMarked (marker : Marker) (rest : List Value) : Except Error Node :=
  match marker with
  | .var => Node.var <$> Form.referencePath .var rest
  | .raw => Node.raw <$> Form.referencePath .raw rest
  | .block =>
    match rest with
    | .string helper :: .string arg :: body => ofValues body >>= blockOf helper arg
    | _ :: _ :: _ => fail .blockNotStrings
    | _ => fail .blockIncomplete
  | .join => Node.join <$> ofValues rest
  | .concat => Node.concat <$> ofValues rest
  | .group => Node.group <$> ofValues rest
  | .unescaped => Node.unescaped <$> Form.unescapedValue rest

/-- A block has two strings behind its marker and is made of what follows them, or it is refused. -/
lemma ofMarked_block_cases (rest : List Value) :
    (∃ helper arg body, rest = .string helper :: .string arg :: body
        ∧ ofMarked .block rest = ofValues body >>= blockOf helper arg)
      ∨ ((∀ helper arg body, rest ≠ .string helper :: .string arg :: body)
        ∧ ∃ error : Error, error.OfCheck ∧ ofMarked .block rest = .error error) := by
  unfold ofMarked
  dsimp only
  split
  · rename_i helper arg body
    exact .inl ⟨helper, arg, body, rfl, rfl⟩
  · rename_i notStrings
    refine .inr ⟨?_, _, Error.ofCheck rfl, rfl⟩
    rintro helper arg body ⟨⟩
    exact notStrings helper arg rfl rfl
  · rename_i incomplete
    refine .inr ⟨?_, _, Error.ofCheck rfl, rfl⟩
    intro helper arg body
    exact incomplete _ _ _

/-- Reads what follows a tag, where a map right behind it holds the attributes. -/
def ofTagged (tag : String) (rest : List Value) : Except Error Node :=
  within (.element tag) <|
    match rest with
    | .map entries :: children => do
      let attrs ← attrsOfEntries entries
      pure (.element tag (some attrs) (← ofValues children))
    | children => Node.element tag none <$> ofValues children

/-- A list with a marker in front is what the marker makes of the rest. -/
lemma ofValue_marker {head : String} {marker : Marker} (found : Marker.ofText? head = some marker)
    (rest : List Value) : ofValue (.list (.string head :: rest)) = ofMarked marker rest := by
  rw [ofValue.eq_def]
  cases marker with
  | var | raw | block | join | concat | group | unescaped =>
    simp only [found]
    rfl

/-- A list that starts with a marker is decoded by the rule of the marker. -/
lemma ofValue_lead (marker : Marker) (rest : List Value) :
    ofValue (marker.lead rest) = ofMarked marker rest :=
  ofValue_marker (Marker.ofText?_eq_some_iff.2 rfl) rest

/-- A list with a tag in front is an element. -/
lemma ofValue_tag {tag : String} (name : isTagName tag) (rest : List Value) :
    ofValue (.list (.string tag :: rest)) = ofTagged tag rest := by
  rw [ofValue.eq_def]
  simp only [Marker.ofText?_of_isTagName name, name, if_true]
  rfl

/-- An element without an attribute map has all values behind its tag as children. -/
lemma ofTagged_bare (tag : String) {rest : List Value}
    (bare : ∀ entries more, rest ≠ .map entries :: more) :
    ofTagged tag rest = within (.element tag) (Node.element tag none <$> ofValues rest) := by
  cases rest with
  | nil => rfl
  | cons first rest =>
    cases first with
    | map entries => exact absurd rfl (bare entries rest)
    | none | bool | integer | float | string | list => rfl

/-- A list with a list in front is read like a row. -/
lemma ofValue_lists {items rest : List Value} :
    ofValue (.list (.list items :: rest)) = Node.concat <$> ofValues (.list items :: rest) := by
  rw [ofValue.eq_def, ofValues]
  simp only [Value.kind, if_true, map_bind, map_pure]

/-- Any other list is a literal. -/
lemma ofValue_literal {first : Value} {rest : List Value} (plain : first.leadsForm = false) :
    ofValue (.list (first :: rest)) = .ok (.literal (.list (first :: rest))) := by
  cases first with
  | list items => cases plain
  | string head =>
    simp only [Value.leadsForm, Bool.or_eq_false_iff, Option.isSome_eq_false_iff,
      Option.isNone_iff_eq_none] at plain
    rw [ofValue.eq_def]
    simp only [plain, Bool.false_eq_true, if_false]
  | none | bool _ | integer _ | float _ | map _ =>
    rw [ofValue.eq_def]
    simp only [Value.kind, reduceCtorEq, if_false]

/-- What is no list is a literal too. -/
lemma ofValue_plain {value : Value}
    (plain : ∀ first rest, value = .list (first :: rest) → first.leadsForm = false) :
    ofValue value = .ok (.literal value) := by
  cases value with
  | list items =>
    cases items with
    | nil => rfl
    | cons first rest => exact ofValue_literal (plain first rest rfl)
  | none | bool | integer | float | string | map => rfl

end Node

end TreeTemplate
