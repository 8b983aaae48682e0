import TreeTemplate.Proofs.Form.Decoding
import TreeTemplate.Proofs.Node.Named

/-!
# Trees that were built

Builders and the decoder give a tree in which all names and paths are valid, or an error of their
own.  Such an error is not about the nesting of blocks, and only elements are on its trail
(`Node.ofValue_named`).
-/

namespace TreeTemplate

/-- An error of building a tree: no limit was reached, and only elements with valid tags are on the
trail. -/
structure Error.OfBuilding (error : Error) : Prop where
  kind : error.kind ≠ .maxDepth
  elements : ∀ label ∈ error.trail, ∃ tag, isTagName tag ∧ label = .element tag

namespace Error

/-- A failed check of a name or path is an error of building. -/
lemma OfCheck.ofBuilding {error : Error} (check : error.OfCheck) : error.OfBuilding := by
  refine ⟨?_, ?_⟩
  · rw [check.kind]
    exact nofun
  · rw [check.trail]
    exact List.forall_mem_nil _

/-- An element with a valid tag around an error of building leaves it one. -/
lemma OfBuilding.within {error : Error} (h : error.OfBuilding) {tag : String}
    (name : isTagName tag) : (error.within (.element tag)).OfBuilding :=
  ⟨h.kind, List.forall_mem_cons.2 ⟨⟨tag, name, rfl⟩, h.elements⟩⟩

/-- The labels on the trail of an error of building are elements with tag names. -/
lemma OfBuilding.named {error : Error} (h : error.OfBuilding) :
    ∀ label ∈ error.trail, label.Named := by
  intro label among
  obtain ⟨tag, name, rfl⟩ := h.elements label among
  exact name

/-- No block is on the trail of an error of building. -/
lemma OfBuilding.blockCount_trail {error : Error} (h : error.OfBuilding) :
    blockCount error.trail = 0 := by
  refine blockCount_eq_zero.2 fun label among => ?_
  obtain ⟨tag, -, rfl⟩ := h.elements label among
  rfl

end Error

/-- A tree with valid names was built, or building it failed. -/
abbrev Built (result : Except Error Node) : Prop :=
  Ends Node.PlacesNamed Error.OfBuilding result

namespace Built

/-- A well-formed tree is built: its names were checked. -/
lemma of_wellFormed {node : Node} (wf : node.WellFormed) : Built (.ok node) :=
  .ok wf.placesNamed

end Built

namespace Node

/-- A block that is built has a checked name and path, so it is named if its body is. -/
lemma blockOf_named (helper arg : String) {body : List Node} (each : ∀ node ∈ body, node.Named) :
    Ends Named Error.OfBuilding (blockOf helper arg body) := by
  refine ((blockOf_ends helper arg body).mono fun error failed => failed.1.ofBuilding).imp ?_
  rintro node ⟨name, path, found, rfl⟩
  exact inherited_named _ ⟨name, Path.parse_text found⟩ each

/-- Values that decode to named trees each do so as a list. -/
lemma ofValues_named {values : List Value}
    (each : ∀ value ∈ values, Ends Named Error.OfBuilding (ofValue value)) :
    Ends (fun nodes => ∀ node ∈ nodes, node.Named) Error.OfBuilding (ofValues values) := by
  rw [ofValues_eq_mapM]
  exact .mapM each

/-- Attributes are read as their values are, each under a valid name or not at all. -/
lemma attrsOfEntries_named {entries : List (String × Value)}
    (each : ∀ entry ∈ entries, Ends Named Error.OfBuilding (ofValue entry.2)) :
    Ends (fun attrs => ∀ attr ∈ attrs, isTagName attr.1 ∧ attr.2.Named) Error.OfBuilding
      (attrsOfEntries entries) := by
  rw [attrsOfEntries_eq_mapM]
  refine .mapM fun entry among => ?_
  refine ((checkAttributeName_ends entry.1).mono fun error failed => failed.1.ofBuilding).bind ?_
  intro _ name
  exact (each entry among).bind fun node named => .ok ⟨name, named⟩

/-- What follows a marker is read as the values in it are. -/
lemma ofMarked_named (marker : Marker) {rest : List Value}
    (each : ∀ value ∈ rest, Ends Named Error.OfBuilding (ofValue value)) :
    Ends Named Error.OfBuilding (ofMarked marker rest) := by
  have row := ofValues_named each
  cases marker with
  | var | raw =>
    refine ((Form.referencePath_ends _ rest).mono fun error failed => failed.1.ofBuilding).map ?_
    rintro path ⟨text, -, found⟩
    exact inherited_named _ (Path.parse_text found) (List.forall_mem_nil _)
  | block =>
    obtain ⟨helper, arg, body, rfl, eq⟩ | ⟨-, error, check, eq⟩ := ofMarked_block_cases rest
    · obtain ⟨-, behind⟩ := List.forall_mem_cons.1 each
      obtain ⟨-, inBody⟩ := List.forall_mem_cons.1 behind
      rw [eq]
      exact (ofValues_named inBody).bind fun nodes => blockOf_named helper arg
    · rw [eq]
      exact .error check.ofBuilding
  | join => exact row.map fun nodes => inherited_named.join
  | concat => exact row.map fun nodes => inherited_named.concat
  | group => exact row.map fun nodes => inherited_named.group
  | unescaped =>
    exact ((Form.unescapedValue_ends rest).mono fun error failed => failed.1.ofBuilding).map
      fun value _ => inherited_named.unescaped value

/-- A tree that is read from data has valid names and paths, or reading it is an error of building.
-/
theorem ofValue_named (value : Value) : Ends Named Error.OfBuilding (ofValue value) := by
  induction value using Value.form_induction with
  | plain value plain =>
    rw [ofValue_plain plain]
    exact .ok (inherited_named.literal value)
  | marked marker rest ih =>
    rw [ofValue_lead]
    exact ofMarked_named marker ih
  | bare tag rest name bare ih =>
    rw [ofValue_tag name, ofTagged_bare tag bare]
    refine Ends.within (Q := Error.OfBuilding) ?_ fun error failed => failed.within name
    refine (ofValues_named ih).map fun nodes => ?_
    exact inherited_named.element name (List.forall_mem_nil _)
  | attributed tag entries rest name ihEntries ihRest =>
    rw [ofValue_tag name, ofTagged]
    refine Ends.within (Q := Error.OfBuilding) ?_ fun error failed => failed.within name
    refine (attrsOfEntries_named ihEntries).bind fun attrs inAttrs => ?_
    exact (ofValues_named ihRest).map fun nodes => inherited_named.element name inAttrs
  | lists items rest ih =>
    rw [ofValue_lists]
    exact (ofValues_named ih).map fun nodes => inherited_named.concat

end Node

end TreeTemplate
