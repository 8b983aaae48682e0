import TreeTemplate.Engine
import TreeTemplate.Proofs.Node.WellFormed
import TreeTemplate.Proofs.Serial
import TreeTemplate.Proofs.Value.Members

/-!
# Values that serialize themselves

A value makes the calls of its own contents, and taking these calls as a value gives the value back
(`Value.toValue_toSerial`).  The calls of a map come in pairs of a key and a value.  Each pair adds
one entry, and entries that are added in the order of their keys stay as they are.

So whatever takes data can be given a value, a tree or a template itself, with the same outcome as
if there had been no calls in between (`Engine.toSerial_agrees`).
-/

namespace TreeTemplate

namespace Value

/-- A list is offered as its items are, in order. -/
lemma toSerials_eq_map (items : List Value) : toSerials items = items.map toSerial := by
  induction items with
  | nil => rfl
  | cons item rest ih => rw [toSerials, ih, List.map_cons]

/-- The calls of a map collect its entries. -/
lemma mapEntries_entryCalls {entries : List (String × Value)}
    (each : ∀ entry ∈ entries, entry.2.toSerial.toValue = .ok entry.2)
    (collected : Entries Value) :
    Serial.mapEntries collected .none (entryCalls entries) =
      .ok (entries.foldl (fun collected entry => Entries.insert entry.1 entry.2 collected)
        collected) := by
  induction entries generalizing collected with
  | nil => rfl
  | cons entry rest ih =>
    obtain ⟨taken, behind⟩ := List.forall_mem_cons.1 each
    rw [entryCalls, Serial.mapEntries_pair, taken, ok_bind, ih behind, List.foldl_cons]

/-- A value is taken back from the calls that it makes. -/
theorem toValue_toSerial {value : Value} (wf : value.WellFormed) :
    value.toSerial.toValue = .ok value := by
  induction value with
  | none | bool | integer | float | string => rfl
  | list items ih =>
    rw [WellFormed, allWellFormed_iff] at wf
    have taken : (items.map toSerial).mapM Serial.toValue = .ok items := by
      refine mapM_eq_ok_iff.2 (List.forall₂_map_left_iff.2 (List.forall₂_same.2 ?_))
      exact fun item among => ih item among (wf item among)
    rw [toSerial, Serial.toValue, Serial.toValues_eq_mapM, toSerials_eq_map, taken]
    rfl
  | map entries ih =>
    rw [WellFormed, entriesWellFormed_iff] at wf
    have collected := mapEntries_entryCalls
      (fun entry among => ih entry among (wf.2 entry among)) []
    have same : entries.foldl (fun collected entry => Entries.insert entry.1 entry.2 collected) [] =
        entries := Entries.ofList_of_sorted wf.1
    rw [toSerial, Serial.toValue, collected, same]
    rfl

end Value

namespace Node

/-- The forms of a list of trees are well-formed values if the form of each tree is. -/
lemma allWellFormed_toValues {nodes : List Node} (each : ∀ node ∈ nodes, node.toValue.WellFormed) :
    Value.AllWellFormed (toValues nodes) := by
  rw [Value.allWellFormed_iff, toValues_eq_map, List.forall_mem_map]
  exact each

/-- Attributes in order have data forms in order. -/
lemma wellFormed_attrsToEntries {attrs : List (String × Node)} (sorted : Entries.Sorted attrs)
    (each : ∀ attr ∈ attrs, attr.2.toValue.WellFormed) :
    (Value.map (attrsToEntries attrs)).WellFormed := by
  rw [Value.WellFormed, Value.entriesWellFormed_iff]
  constructor
  · rw [Entries.Sorted, keys_attrsToEntries]
    exact sorted
  · rw [attrsToEntries_eq_map, List.forall_mem_map]
    exact each

/-- The data form of a well-formed tree is a well-formed value. -/
lemma WellFormed.toValue {node : Node} (wf : node.WellFormed) : node.toValue.WellFormed := by
  induction node with
  | element tag attrs children ihAttrs ihChildren =>
    obtain ⟨-, sorted, inAttrs, inChildren⟩ := element_iff.1 wf
    have row := allWellFormed_toValues fun child among =>
      ihChildren child among (inChildren child among)
    cases attrs with
    | none => exact ⟨trivial, row⟩
    | some attrs =>
      have map := wellFormed_attrsToEntries sorted fun attr among =>
        ihAttrs attr among (inAttrs attr among).2
      exact ⟨trivial, map, row⟩
  | block helper arg body ih =>
    obtain ⟨-, -, inBody⟩ := block_iff.1 wf
    exact ⟨trivial, trivial, trivial,
      allWellFormed_toValues fun node among => ih node among (inBody node among)⟩
  | join children ih | concat children ih | group children ih =>
    rw [WellFormed, allWellFormed_iff] at wf
    exact ⟨trivial, allWellFormed_toValues fun child among => ih child among (wf child among)⟩
  | literal value => exact wf
  | unescaped value => exact ⟨trivial, wf, trivial⟩
  | var | raw => exact ⟨trivial, trivial, trivial⟩

end Node

namespace Engine

/-- Taking data is the same as taking a value, where the data is the value itself, or a tree or a
template that serializes itself as its data form. -/
theorem toSerial_agrees :
    (∀ value : Value, value.WellFormed → value.toSerial.toValue = .ok value)
      ∧ (∀ node : Node, node.WellFormed → node.toSerial.toValue = .ok node.toValue)
      ∧ (∀ template : Template, template.root.WellFormed →
          Template.ofSerial template.toSerial = Template.ofValue template.toValue)
      ∧ ∀ (engine : Engine) (source : Source) (context : Value), context.WellFormed →
          engine.expand source context.toSerial = engine.expandFrom source context := by
  refine ⟨fun value wf => value.toValue_toSerial wf, ?_, ?_, ?_⟩
  · intro node wf
    exact Value.toValue_toSerial wf.toValue
  · intro template wf
    have taken : template.toSerial.toValue = .ok template.toValue :=
      Value.toValue_toSerial wf.toValue
    rw [Template.ofSerial, taken, ok_bind]
  · intro engine source context wf
    rw [expand, Value.toValue_toSerial wf, ok_bind, expandFrom]

/-- A template whose data form is malformed is refused in the same place when it comes as data. -/
theorem toSerial_agrees_on_malformed_item :
    let context : Value :=
      .map [("items", .list [.none, .map []]), ("ratio", .float (0 / 0))]
    let template : Template := ⟨.element "ul" none [.literal (.list [.string "::var"])]⟩
    context.WellFormed ∧ template.root.WellFormed
      ∧ context.toSerial.toValue = .ok context
      ∧ template.root.toSerial.toValue = .ok template.root.toValue
      ∧ Template.ofSerial template.toSerial = .error ⟨.pathCount .var 0, [.element "ul"], none⟩
      ∧ Engine.new.expand (.ofTemplate template) context.toSerial = .ok template.root := by
  intro context template
  have wf : context.WellFormed := by
    simp only [context, Value.WellFormed, Value.EntriesWellFormed, Value.AllWellFormed,
      Entries.Sorted]
    decide
  have wfTemplate : template.root.WellFormed := ⟨rfl, trivial, ⟨trivial, trivial⟩, trivial⟩
  obtain ⟨values, nodes, templates, contexts⟩ := toSerial_agrees
  refine ⟨wf, wfTemplate, values context wf, nodes template.root wfTemplate, ?_, ?_⟩
  · exact (templates template wfTemplate).trans rfl
  · exact (contexts Engine.new (.ofTemplate template) context wf).trans rfl

end Engine

end TreeTemplate
