import TreeTemplate.Proofs.Engine
import TreeTemplate.Proofs.Expansion.Step
import TreeTemplate.Proofs.Helper.Stock
import TreeTemplate.Proofs.Placeholders.Step

/-!
# Trees that a program can come by

A program builds trees with the builders, reads them from data, and has them evaluated by engines,
in either mode and with stock helpers.  What it has it may take apart and build on, and it may give
it to a helper to return.  `Node.Obtained` are the trees that it comes by in these ways.

In all of them names are valid and paths are those that their texts are read as.  The builders and
the reader check this (`Node.ofValue_named`).  Evaluation builds elements without a check, but only
from the tags and names of elements that it was given, and helpers return what they build or read
themselves, or put the body into it.  So the property is kept by a walk over a tree if it is kept by
blocks (`Node.expandWith_named`), and by blocks if as many may be nested in them as the run still
allows (`Expansion.run_named`).
-/

namespace TreeTemplate

namespace Node

section

variable {value : Path → Value}
  {meaning : (helper : String) → (arg : Path) → (body : List Node) → Except Error Fragment}

/-- Names stay valid in the expansion of a tree if they do in the expansions of the blocks in it. -/
lemma expandWith_named {node : Node} (named : node.Named)
    (blocks : ∀ helper arg body fragment, (block helper arg body).Named →
      meaning helper arg body = .ok fragment → ∀ member ∈ fragment, member.Named)
    {fragment : Fragment} (h : node.expandWith value meaning = .ok fragment) :
    ∀ member ∈ fragment, member.Named := by
  have rows : ∀ {nodes : List Node} {fragments : List Fragment},
      (∀ node ∈ nodes, node.Named) →
      (∀ node ∈ nodes, node.Named → ∀ {fragment}, node.expandWith value meaning = .ok fragment →
        ∀ member ∈ fragment, member.Named) →
      nodes.mapM (expandWith value meaning) = .ok fragments →
      ∀ fragment ∈ fragments, ∀ member ∈ fragment, member.Named :=
    fun each ih expands =>
      forall_of_mapM expands fun node member _ => ih node member (each node member)
  induction node generalizing fragment with
  | element tag attrs children ihAttrs ihChildren =>
    obtain ⟨tagName, attrNames⟩ := named.here
    obtain ⟨inAttrs, inChildren⟩ := forall_mem_parts_element.1 named.part
    rw [expandWith_element, within_eq_ok_iff] at h
    obtain ⟨attrs', expandedAttrs, h⟩ := bind_eq_ok_iff.1 h
    obtain ⟨row, expandedRow, h⟩ := bind_eq_ok_iff.1 h
    cases h
    rw [expandWith_concat] at expandedRow
    obtain ⟨fragments, expanded, rfl⟩ := map_eq_ok_iff.1 expandedRow
    have namedAttrs : ∀ attr ∈ attrs'.getD [], isTagName attr.1 ∧ attr.2.Named := by
      refine forall_of_expandAttrs expandedAttrs fun attr member fragment expands => ?_
      refine ⟨attrNames attr member, inherited_named.toAttribute ?_⟩
      exact ihAttrs attr member (inAttrs attr member) expands
    have namedChildren : ∀ child ∈ fragments.flatten, child.Named :=
      List.forall_mem_flatten.2 (rows inChildren ihChildren expanded)
    exact List.forall_mem_singleton.2 (inherited_named.element tagName namedAttrs namedChildren)
  | var path =>
    cases h
    exact List.forall_mem_singleton.2 (inherited_named.literal _)
  | raw path =>
    cases h
    exact List.forall_mem_singleton.2 (inherited_named.unescaped _)
  | block helper arg body => exact blocks helper arg body fragment named h
  | join children ih =>
    rw [expandWith_join] at h
    obtain ⟨fragments, expanded, rfl⟩ := map_eq_ok_iff.1 h
    exact inherited_named.spaced (rows named.part ih expanded)
  | concat children ih =>
    rw [expandWith_concat] at h
    obtain ⟨fragments, expanded, rfl⟩ := map_eq_ok_iff.1 h
    exact List.forall_mem_flatten.2 (rows named.part ih expanded)
  | group children ih =>
    rw [expandWith_group] at h
    obtain ⟨fragments, expanded, rfl⟩ := map_eq_ok_iff.1 h
    exact List.forall_mem_flatten.2 (rows named.part ih expanded)
  | literal | unescaped =>
    cases h
    exact List.forall_mem_singleton.2 named

end

/-- A token is a value in the tree, so that nothing is asked of its text. -/
lemma named_token (token : Token) : token.toNode.Named :=
  inherited_named.unescaped _

/-- Names stay valid in the placeholder syntax of a tree. -/
lemma tokenized_named {node : Node} (named : node.Named) :
    ∀ member ∈ node.tokenized, member.Named := by
  have rows : ∀ {nodes : List Node}, (∀ node ∈ nodes, node.Named) →
      (∀ node ∈ nodes, node.Named → ∀ member ∈ node.tokenized, member.Named) →
      ∀ member ∈ nodes.flatMap tokenized, member.Named :=
    fun each ih => List.forall_mem_flatMap.2 fun node member => ih node member (each node member)
  induction node with
  | element tag attrs children ihAttrs ihChildren =>
    obtain ⟨tagName, attrNames⟩ := named.here
    obtain ⟨inAttrs, inChildren⟩ := forall_mem_parts_element.1 named.part
    have namedAttrs : ∀ attr ∈ (attrs.map tokenizedAttrs).getD [],
        isTagName attr.1 ∧ attr.2.Named := by
      cases attrs with
      | none => exact List.forall_mem_nil _
      | some attrs =>
        rw [Option.map_some, Option.getD_some, tokenizedAttrs_eq_map, List.forall_mem_map]
        intro attr member
        refine ⟨attrNames attr member, inherited_named.toAttribute ?_⟩
        exact ihAttrs attr member (inAttrs attr member)
    rw [tokenized_element]
    refine List.forall_mem_singleton.2 (inherited_named.element tagName namedAttrs ?_)
    exact rows inChildren ihChildren
  | var | raw => exact List.forall_mem_singleton.2 (named_token _)
  | block helper arg body ih =>
    rw [tokenized_block]
    refine List.forall_mem_cons.2 ⟨named_token _, List.forall_mem_append.2 ⟨?_, ?_⟩⟩
    · exact rows named.part ih
    · exact List.forall_mem_singleton.2 (named_token _)
  | join nodes ih =>
    rw [tokenized_join]
    refine inherited_named.spaced (List.forall_mem_map.2 fun node member => ?_)
    exact ih node member (named.part node member)
  | concat nodes ih =>
    rw [tokenized_concat]
    exact rows named.part ih
  | group nodes ih =>
    rw [tokenized_group]
    exact rows named.part ih
  | literal | unescaped => exact List.forall_mem_singleton.2 named

end Node

namespace Expansion

variable {expansion : Expansion} {stock? : String → Option Stock}

/-- Names stay valid in what a run gives, if they are in the trees that helpers always return. -/
theorem run_named (registers : ∀ name, expansion.helper? name = (stock? name).map Stock.helper)
    (constants : ∀ name result built, stock? name = some (.constant result built) →
      ∀ node, result = .ok node → node.Named)
    {left : Nat} {current : Value} {node : Node} (named : node.Named) {fragment : Fragment}
    (h : expansion.run left current node = .ok fragment) : ∀ member ∈ fragment, member.Named := by
  -- a helper renders the body one level further in, and what it returns is expanded there, too
  induction left generalizing current node fragment with
  | zero =>
    rw [run_eq_expandWith] at h
    refine Node.expandWith_named named (fun helper arg body fragment _ expands => ?_) h
    cases expands
  | succ left ih =>
    rw [run_eq_expandWith] at h
    refine Node.expandWith_named named (fun helper arg body fragment namedBlock expands => ?_) h
    rw [run_block_succ, within_eq_ok_iff, registers] at expands
    cases found : stock? helper with
    | none =>
      rw [found] at expands
      cases expands
    | some stock =>
      rw [found] at expands
      obtain ⟨result, returns, expands⟩ := bind_eq_ok_iff.1 expands
      have renders : ∀ context, Ends Node.Named (fun _ => True)
          (Node.concat <$> expansion.run left context (.concat body)) := by
        intro context
        cases runs : expansion.run left context (.concat body) with
        | error error => exact .error trivial
        | ok fragment =>
          have row : (Node.concat body).Named := Node.inherited_named.concat namedBlock.part
          exact .ok (Node.inherited_named.concat (ih row runs))
      have always : ∀ result built, stock = .constant result built →
          Ends Node.Named (fun _ => True) result := by
        rintro result built rfl
        cases result with
        | error error => exact .error trivial
        | ok node => exact .ok (constants helper _ built found node rfl)
      have calls := stock.helper_ends Node.inherited_named (fun _ _ => trivial) always
        (expansion.value current arg) ⟨body, current, expansion.limit.toNat - left, _⟩
        namedBlock.part renders
      exact ih (calls.of_ok returns) expands

end Expansion

namespace Element

variable {element : Element}

/-- An element is named exactly if its tag and its attribute names are tag names, and all its
attribute values and children are named. -/
lemma named_iff : element.toNode.Named ↔
    isTagName element.tag ∧ (∀ attr ∈ element.attrs.getD [], isTagName attr.1 ∧ attr.2.Named)
      ∧ ∀ child ∈ element.children, child.Named := by
  constructor
  · intro named
    obtain ⟨tagName, attrNames⟩ := named.here
    obtain ⟨inAttrs, inChildren⟩ := Node.forall_mem_parts_element.1 named.part
    exact ⟨tagName, fun attr member => ⟨attrNames attr member, inAttrs attr member⟩, inChildren⟩
  · rintro ⟨tagName, inAttrs, inChildren⟩
    exact Node.inherited_named.element tagName inAttrs inChildren

/-- An element that was built from a tag is named: the tag was checked. -/
lemma named_ofTag {tag : String} (builds : ofTag tag = .ok element) : element.toNode.Named := by
  unfold ofTag at builds
  split at builds
  · rename_i name
    cases builds
    exact named_iff.2 ⟨name, List.forall_mem_nil _, List.forall_mem_nil _⟩
  · cases builds

/-- An element stays named with another attribute: its name was checked. -/
lemma named_attr {name : String} {value : Node} {result : Element} (named : element.toNode.Named)
    (namedValue : value.Named) (builds : element.attr name value = .ok result) :
    result.toNode.Named := by
  obtain ⟨tagName, inAttrs, inChildren⟩ := named_iff.1 named
  obtain ⟨_, checked, builds⟩ := bind_eq_ok_iff.1 builds
  cases builds
  refine named_iff.2 ⟨tagName, fun attr member => ?_, inChildren⟩
  obtain rfl | earlier := Entries.mem_of_mem_insert member
  · exact ⟨(checkAttributeName_ends name).of_ok checked, namedValue⟩
  · exact inAttrs attr earlier

/-- An element stays named with more children that are named. -/
lemma named_addChildren {nodes : List Node} (named : element.toNode.Named)
    (each : ∀ node ∈ nodes, node.Named) : (element.addChildren nodes).toNode.Named := by
  obtain ⟨tagName, inAttrs, inChildren⟩ := named_iff.1 named
  exact named_iff.2 ⟨tagName, inAttrs, List.forall_mem_append.2 ⟨inChildren, each⟩⟩

end Element

namespace Node

/-- The trees that a program can come by. -/
inductive Obtained : Node → Prop where
  | literal (value : Value) : Obtained (.literal value)
  | unescaped (value : Value) : Obtained (.unescaped value)
  | var {path : String} {node : Node} : varOf path = .ok node → Obtained node
  | raw {path : String} {node : Node} : rawOf path = .ok node → Obtained node
  | block {helper arg : String} {body : List Node} {node : Node} :
    (∀ inner ∈ body, Obtained inner) → blockOf helper arg body = .ok node → Obtained node
  | join {nodes : List Node} : (∀ node ∈ nodes, Obtained node) → Obtained (.join nodes)
  | concat {nodes : List Node} : (∀ node ∈ nodes, Obtained node) → Obtained (.concat nodes)
  | group {nodes : List Node} : (∀ node ∈ nodes, Obtained node) → Obtained (.group nodes)
  | templates {templates : List Template} :
    (∀ template ∈ templates, Obtained template.root) → Obtained (Template.group templates).root
  | tag {tag : String} {element : Element} : Element.ofTag tag = .ok element →
    Obtained element.toNode
  | attr {element result : Element} {name : String} {value : Node} :
    Obtained element.toNode → Obtained value → element.attr name value = .ok result →
    Obtained result.toNode
  | child {element : Element} {node : Node} :
    Obtained element.toNode → Obtained node → Obtained (element.child node).toNode
  | addChildren {element : Element} {nodes : List Node} :
    Obtained element.toNode → (∀ node ∈ nodes, Obtained node) →
    Obtained (element.addChildren nodes).toNode
  /-- A tree inside another. -/
  | part {node part : Node} : Obtained node → part ∈ node.parts → Obtained part
  /-- A tree in data form. -/
  | data {value : Value} {node : Node} : ofValue value = .ok node → Obtained node
  | template {value : Value} {template : Template} : Template.ofValue value = .ok template →
    Obtained template.root
  /-- A tree in the data form of serializable data. -/
  | serial {data : Serial} {template : Template} : Template.ofSerial data = .ok template →
    Obtained template.root
  /-- An expansion by an engine with stock helpers, where a tree that a helper always returns is one
  of these as well. -/
  | expanded {engine : Engine} {stock? : String → Option Stock} {source : Source}
    {context : Value} {root node : Node} {name : Option String} :
    (∀ name, engine.helpers.lookup name = (stock? name).map Stock.helper) →
    (∀ name result built, stock? name = some (.constant result built) →
      ∀ constant, result = .ok constant → Obtained constant) →
    engine.find source = .ok (root, name) → Obtained root →
    engine.expandFrom source context = .ok node → Obtained node
  /-- A tree in placeholder syntax, whatever the helpers of the engine are. -/
  | rendered {engine : Engine} {source : Source} {root node : Node} {name : Option String} :
    engine.find source = .ok (root, name) → Obtained root → engine.toSyntax source = .ok node →
    Obtained node

/-- Every tree that a program can come by is safe to print.  At every place its names are valid and
its path is the one that the text of the path is read as.  So none of its names holds a character
with a meaning in markup, a slash or a dot, and none of its paths holds one with a meaning in
markup. -/
theorem Obtained.named_chars {node : Node} (obtained : node.Obtained) :
    node.Named ∧ ∀ inner : Node, inner.OccursIn node →
      (∀ name ∈ inner.names, ∀ c ∈ name.toList, breaksMarkup c = false ∧ c ≠ '/' ∧ c ≠ '.')
        ∧ ∀ path ∈ inner.path?, ∀ c ∈ path.text.toList, breaksMarkup c = false := by
  suffices named : node.Named from ⟨named, fun inner occurs => (named inner occurs).chars⟩
  -- every way to a tree checks the names, or takes them from trees that were obtained before
  induction obtained with
  | literal value => exact inherited_named.literal value
  | unescaped value => exact inherited_named.unescaped value
  | var builds | raw builds =>
    obtain ⟨path, parses, rfl⟩ := map_eq_ok_iff.1 builds
    have found := (Path.parse_ends _).of_ok parses
    exact inherited_named _ (Path.parse_text found) (List.forall_mem_nil _)
  | block _ builds ih => exact (blockOf_named _ _ ih).of_ok builds
  | join _ ih => exact inherited_named.join ih
  | concat _ ih => exact inherited_named.concat ih
  | group _ ih => exact inherited_named.group ih
  | templates _ ih => exact inherited_named.group (List.forall_mem_map.2 ih)
  | tag builds => exact Element.named_ofTag builds
  | attr _ _ builds ih ihValue => exact Element.named_attr ih ihValue builds
  | child _ _ ih ihNode => exact Element.named_addChildren ih (List.forall_mem_singleton.2 ihNode)
  | addChildren _ _ ih ihNodes => exact Element.named_addChildren ih ihNodes
  | part _ member ih => exact ih.part _ member
  | data reads => exact (ofValue_named _).of_ok reads
  | template reads =>
    obtain ⟨root, readsRoot, rfl⟩ := map_eq_ok_iff.1 reads
    exact (ofValue_named _).of_ok readsRoot
  | serial reads =>
    obtain ⟨value, -, readsTemplate⟩ := bind_eq_ok_iff.1 reads
    obtain ⟨root, readsRoot, rfl⟩ := map_eq_ok_iff.1 readsTemplate
    exact (ofValue_named _).of_ok readsRoot
  | expanded registers _ found _ expands ihConstants ihRoot =>
    have result := Engine.apply_of_find found expands
    obtain ⟨fragment, runs, rfl⟩ := map_eq_ok_iff.1 result
    exact inherited_named.toRoot (Expansion.run_named registers ihConstants ihRoot runs)
  | rendered found _ renders ihRoot =>
    have result := Engine.apply_of_find found renders
    cases result
    exact inherited_named.toRoot (tokenized_named ihRoot)

/-- A tree that was read from data is expanded by an engine that holds it: one helper reads a tree
from the context, and what another always returns is expanded in turn. -/
theorem Obtained.named_chars_of_expanded_data :
    let data : Value := .list [.string "my-box",
      .map [("xml:lang", .list [.string "::block", .string "mark", .string "this"])],
      .list [.string "::block", .string "read", .string "form"]]
    let root : Node := .element "my-box" (some [("xml:lang", .block "mark" .this [])])
      [.block "read" (.current ["form"]) []]
    let mark : Except Error Node := rawOf "../lang"
    let engine : Engine :=
      { helpers := [("mark", Helper.constant mark), ("read", Helper.decode)]
        templates := [("page", ⟨root⟩)] }
    let form : Value := .list [.string "svg:g", .list [.string "::raw", .string "kind"]]
    let context : Value := .map [("form", form), ("kind", .string "a"), ("lang", .string "<en>")]
    let node : Node := .element "my-box" (some [("xml:lang", .unescaped (.string "<en>"))])
      [.element "svg:g" none [.unescaped (.string "a")]]
    ofValue data = .ok root
      ∧ engine.expandFrom (.named "page") context = .ok node ∧ node.Obtained ∧ node.Named
      ∧ ∀ inner : Node, inner.OccursIn node →
        (∀ name ∈ inner.names, ∀ c ∈ name.toList, breaksMarkup c = false ∧ c ≠ '/' ∧ c ≠ '.')
          ∧ ∀ path ∈ inner.path?, ∀ c ∈ path.text.toList, breaksMarkup c = false := by
  intro data root mark engine form context node
  have wf : (Node.raw (.parent ["lang"])).WellFormed := rfl
  have builtMark : Built mark := .of_wellFormed wf
  let stock : List (String × Stock) := [("mark", .constant mark builtMark), ("read", .decode)]
  have registers : ∀ name, engine.helpers.lookup name = (stock.lookup name).map Stock.helper :=
    fun name => lookup_map_snd Stock.helper stock name
  have constants : ∀ name result built, stock.lookup name = some (.constant result built) →
      ∀ constant, result = .ok constant → constant.Obtained := by
    intro name result built registered constant returns
    have among := mem_of_lookup_eq_some registered
    simp only [stock, List.mem_cons, Prod.mk.injEq, reduceCtorEq, and_false, List.not_mem_nil,
      or_false] at among
    obtain ⟨-, same⟩ := among
    rw [Stock.constant.inj same] at returns
    exact .raw returns
  have reads : ofValue data = .ok root := rfl
  have found : engine.find (.named "page") = .ok (root, some "page") := rfl
  have expands : engine.expandFrom (.named "page") context = .ok node := rfl
  have obtained : node.Obtained := .expanded registers constants found (.data reads) expands
  obtain ⟨named, chars⟩ := Obtained.named_chars obtained
  exact ⟨reads, expands, obtained, named, chars⟩

end Node

end TreeTemplate
