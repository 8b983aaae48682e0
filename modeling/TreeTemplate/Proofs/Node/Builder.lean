import TreeTemplate.Markup
import TreeTemplate.Form.Encode
import TreeTemplate.Proofs.Entries

/-!
# Elements built step by step

An element is built from its tag by steps, of which one may be refused: no attribute is set under a
name that is no tag name.  Every step appends nodes to the children or sets one attribute, and it
leaves all else as it was.  So the element is known from its steps (`Element.ofTag_after`): it has
all nodes in order of the steps, and under each name what was set last, in order of the names and
not of the steps.
-/

namespace TreeTemplate.Element

/-- A step of building an element. -/
inductive Step where
  | attr (name : String) (node : Node)
  | child (node : Node)
  | children (nodes : List Node)

namespace Step

/-- The nodes that a step appends. -/
def nodes : Step → List Node
  | .attr _ _ => []
  | .child node => [node]
  | .children nodes => nodes

/-- The attribute that a step sets, if it is not refused. -/
def setting? : Step → Option (String × Node)
  | .attr name node => if isTagName name then some (name, node) else none
  | .child _ | .children _ => none

/-- Two steps change different parts of an element: one sets an attribute, and the other appends
nodes or sets another attribute. -/
def Apart : Step → Step → Prop
  | .attr name _, .attr other _ => name ≠ other
  | .attr _ _, .child _ | .attr _ _, .children _ => True
  | .child _, .attr _ _ | .children _, .attr _ _ => True
  | .child _, .child _ | .child _, .children _ => False
  | .children _, .child _ | .children _, .children _ => False

end Step

/-- An element after a step.  A step that is refused leaves it as it is. -/
def handle (element : Element) : Step → Element
  | .attr name node =>
    match element.attr name node with
    | .ok grown => grown
    | .error _ => element
  | .child node => element.child node
  | .children nodes => element.addChildren nodes

/-- An element after steps, the first of the list made first. -/
def after (element : Element) (steps : List Step) : Element :=
  steps.foldl handle element

section

variable (element : Element) (step : Step) (steps : List Step)

/-- An attribute is set if its name is valid. -/
lemma attr_eq (name : String) (node : Node) :
    element.attr name node =
      if isTagName name then .ok (element.handle (.attr name node))
      else fail (.invalidAttribute name) := by
  rw [handle, attr, checkAttributeName]
  split
  · rfl
  · rfl

/-- What a step changes: the children have its nodes at their end, and the attributes have what it
sets. -/
lemma handle_eq :
    element.handle step =
      ⟨element.tag,
        (step.setting?.map fun pair => Entries.insert pair.1 pair.2 (element.attrs.getD [])).or
          element.attrs,
        element.children ++ step.nodes⟩ := by
  cases step with
  | child | children => rfl
  | attr name node =>
    rw [handle, attr, checkAttributeName, Step.setting?, Step.nodes, List.append_nil]
    by_cases valid : isTagName name
    · rw [if_pos valid, if_pos valid]
      rfl
    · rw [if_neg valid, if_neg valid]
      rfl

/-- No step changes the tag. -/
lemma tag_after : (element.after steps).tag = element.tag := by
  induction steps generalizing element with
  | nil => rfl
  | cons step rest ih =>
    refine (ih _).trans ?_
    rw [handle_eq]

/-- The children are those that were there and those of the steps, in order. -/
lemma children_after :
    (element.after steps).children = element.children ++ steps.flatMap Step.nodes := by
  induction steps generalizing element with
  | nil => exact (List.append_nil _).symm
  | cons step rest ih =>
    refine (ih _).trans ?_
    rw [handle_eq, List.flatMap_cons, List.append_assoc]

/-- The attributes after steps are those before with all settings put to them in order. -/
lemma getD_attrs_after :
    (element.after steps).attrs.getD [] =
      (steps.filterMap Step.setting?).foldl
        (fun entries pair => Entries.insert pair.1 pair.2 entries) (element.attrs.getD []) := by
  induction steps generalizing element with
  | nil => rfl
  | cons step rest ih =>
    refine (ih _).trans ?_
    rw [handle_eq]
    cases found : step.setting? with
    | none =>
      rw [List.filterMap_cons_none found]
      rfl
    | some pair =>
      rw [List.filterMap_cons_some found]
      rfl

/-- There are no attributes after steps if there were none before and no step set one. -/
lemma attrs_after_eq_none_iff :
    (element.after steps).attrs = none ↔
      element.attrs = none ∧ steps.filterMap Step.setting? = [] := by
  induction steps generalizing element with
  | nil => exact (and_iff_left rfl).symm
  | cons step rest ih =>
    refine (ih _).trans ?_
    rw [handle_eq]
    cases found : step.setting? with
    | none =>
      rw [List.filterMap_cons_none found]
      rfl
    | some pair =>
      -- the step sets an attribute, so there are some on both sides
      rw [List.filterMap_cons_some found]
      exact iff_of_false (fun none => nomatch none.1) (fun none => nomatch none.2)

end

/-- A step keeps the names of the attributes in order. -/
lemma sorted_handle {element : Element} (sorted : Entries.Sorted (element.attrs.getD []))
    (step : Step) : Entries.Sorted ((element.handle step).attrs.getD []) := by
  rw [handle_eq]
  cases step.setting? with
  | none => exact sorted
  | some pair => exact sorted.insert

/-- Steps that change different parts of an element may be made in any order. -/
lemma handle_comm {element : Element} (sorted : Entries.Sorted (element.attrs.getD []))
    {first second : Step} (apart : first.Apart second) :
    (element.handle first).handle second = (element.handle second).handle first := by
  cases first with
  | attr name node =>
    cases second with
    | attr other thing =>
      simp only [handle_eq, Step.setting?, Step.nodes, List.append_nil]
      by_cases valid : isTagName name
      · by_cases otherValid : isTagName other
        · rw [if_pos valid, if_pos otherValid]
          have same := sorted.insert_comm apart node thing
          exact congrArg (fun attrs => (⟨element.tag, some attrs, element.children⟩ : Element)) same
        · rw [if_neg otherValid]
          rfl
      · rw [if_neg valid]
        rfl
    | child | children =>
      simp only [handle_eq, Step.setting?, Step.nodes, List.append_nil]
      rfl
  | child | children =>
    cases second with
    | attr other thing =>
      simp only [handle_eq, Step.setting?, Step.nodes, List.append_nil]
      rfl
    | child | children => cases apart

/-- Two steps in a row that change different parts of an element may change places. -/
lemma after_swap {element : Element} (sorted : Entries.Sorted (element.attrs.getD []))
    {first second : Step} (apart : first.Apart second) (before behind : List Step) :
    element.after (before ++ second :: first :: behind) =
      element.after (before ++ first :: second :: behind) := by
  induction before generalizing element with
  | nil => exact congrArg (fun grown => after grown behind) (handle_comm sorted apart).symm
  | cons step rest ih => exact ih (sorted_handle sorted step)

/-- An element is known from its tag and the steps that it was built by.  Steps are refused that set
an attribute under an invalid name, and they change nothing.  The children are all nodes in order of
the steps.  The attributes have the names that were set, in strictly increasing order, and under
each name the node that was set last, and there are none if none was set.  So of two steps in a row
either may be the first if they set different attributes, or if one sets an attribute and the other
appends nodes. -/
theorem ofTag_after {tag : String} (valid : isTagName tag) (steps : List Step) :
    ∃ start, ofTag tag = .ok start ∧
      let built := start.after steps
      let attrs := built.attrs.getD []
      let settings := steps.filterMap Step.setting?
      built.tag = tag ∧ built.children = steps.flatMap Step.nodes
        ∧ (∀ (element : Element) (name : String) (node : Node),
            element.attr name node =
                (if isTagName name then .ok (element.handle (.attr name node))
                else fail (.invalidAttribute name))
              ∧ (¬ isTagName name → element.handle (.attr name node) = element))
        ∧ attrs.Sorted
        ∧ (∀ name, name ∈ attrs.map Prod.fst ↔ name ∈ settings.map Prod.fst)
        ∧ (∀ name, attrs.lookup name = settings.reverse.lookup name)
        ∧ (built.attrs = none ↔ settings = [])
        ∧ ∀ before first second behind, steps = before ++ first :: second :: behind →
          first.Apart second →
            let swapped := start.after (before ++ second :: first :: behind)
            swapped = built ∧ swapped.toNode.toValue = built.toNode.toValue
              ∧ swapped.toNode.toText = built.toNode.toText := by
  refine ⟨⟨tag, none, []⟩, if_pos valid, ?_⟩
  intro built attrs settings
  have collected : attrs = Entries.ofList settings := getD_attrs_after _ steps
  have found (name : String) : attrs.lookup name = settings.reverse.lookup name := by
    rw [collected, Entries.lookup_ofList]
  refine ⟨tag_after _ steps, children_after _ steps, fun element name node => ⟨attr_eq .., ?_⟩, ?_,
    fun name => ?_, found, ?_, ?_⟩
  · intro invalid
    rw [handle_eq, Step.setting?, if_neg invalid, Step.nodes, List.append_nil]
    rfl
  · rw [collected]
    exact Entries.sorted_ofList settings
  · rw [← Entries.isSome_lookup_iff, found, Entries.isSome_lookup_iff, List.map_reverse,
      List.mem_reverse]
  · exact (attrs_after_eq_none_iff _ steps).trans (and_iff_right rfl)
  · intro before first second behind split apart swapped
    have bare : Entries.Sorted ((⟨tag, none, []⟩ : Element).attrs.getD []) := List.Pairwise.nil
    have same : swapped = built := (after_swap bare apart before behind).trans (by rw [← split])
    rw [same]
    exact ⟨rfl, rfl, rfl⟩

/-- A link is built with a refused step in the middle, and one of its attributes is set again.  The
attributes are in order of their names, and the child may be appended before or after. -/
theorem ofTag_after_of_refused_step :
    let href : Step := .attr "href" (.var (.current ["url"]))
    let body : Step := .child (.literal (.string "home"))
    let steps : List Step := [.attr "id" (.literal (.integer 1)), .attr "2nd" (.group []),
      .attr "id" (.literal (.integer 2)), href, body]
    ∃ start, ofTag "a" = .ok start
      ∧ start.after steps = ⟨"a", some [("href", .var (.current ["url"])),
          ("id", .literal (.integer 2))], [.literal (.string "home")]⟩
      ∧ start.after (steps.take 3 ++ [body, href]) = start.after steps := by
  intro href body steps
  have valid : isTagName "a" := rfl
  obtain ⟨start, made, built⟩ := ofTag_after valid steps
  obtain ⟨-, -, -, -, -, -, -, swaps⟩ := built
  obtain ⟨swapped, -, -⟩ := swaps (steps.take 3) href body [] rfl trivial
  obtain rfl := Except.ok.inj made
  exact ⟨_, made, rfl, swapped⟩

end TreeTemplate.Element
