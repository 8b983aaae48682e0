import TreeTemplate.Proofs.Node.Flattened
import TreeTemplate.Proofs.Node.WellFormed
import TreeTemplate.Proofs.Placeholders.Step
import TreeTemplate.Proofs.Placeholders.Token

/-!
# Placeholder syntax can be read back

A flattened tree is rendered to the same placeholder syntax (`Node.flatMap_tokenized_flattened`),
and it can be read back from there if its tokens are valid and it holds no unescaped values, which
could look like tokens.  Such trees are `Node.Legible`.

The rendering of a legible node ends where the node does: whatever follows, two legible nodes with
the same rendering in front are the same node with the same rest behind it
(`Node.Legible.readsBack`).  In a row this holds up to the next token that closes a block, which is
how the body of a block is told from what follows the block.  So a template is rendered to the syntax
of its flattened tree and of no other (`Node.flattened_eq_of_toSyntax_eq`).
-/

namespace TreeTemplate

/-- Tokens are told apart as nodes, too. -/
lemma Token.eq_of_toNode_eq {token other : Token} (valid : token.Valid) (validOther : other.Valid)
    (eq : token.toNode = other.toNode) : token = other := by
  have texts := Value.string.inj (Node.unescaped.inj eq)
  exact text_injective valid validOther texts

namespace Node

/-- Every node is rendered to what its row is rendered to. -/
lemma tokenized_eq_flatMap_row (node : Node) : node.tokenized = node.row.flatMap tokenized := by
  cases node with
  | concat nodes => exact tokenized_concat nodes
  | _ => exact (List.flatMap_singleton _ _).symm

/-- A row that is the value of an attribute is rendered to what its members are rendered to. -/
lemma toAttribute_tokenized_toAttribute (fragment : Fragment) :
    Fragment.toAttribute (Fragment.toAttribute fragment).tokenized =
      Fragment.toAttribute (fragment.flatMap tokenized) := by
  match fragment with
  | [] => rfl
  | [node] => rw [List.flatMap_singleton]; rfl
  | first :: second :: rest => exact congrArg Fragment.toAttribute (tokenized_concat _)

/-- A row in which nodes were replaced by rows, with spaces between them, is rendered to the spaced
renderings of these rows. -/
lemma flatMap_tokenized_spaced (fragments : List Fragment) :
    (Fragment.spaced fragments).flatMap tokenized =
      Fragment.spaced (fragments.map fun fragment => fragment.flatMap tokenized) := by
  induction fragments with
  | nil => rfl
  | cons first rest ih =>
    cases rest with
    | nil => simp only [Fragment.spaced_singleton, List.map_cons, List.map_nil]
    | cons second rest =>
      rw [Fragment.spaced_cons_cons, List.flatMap_append, List.flatMap_cons, ih]
      simp only [List.map_cons, Fragment.spaced_cons_cons]
      rfl

/-- A flattened tree is rendered to the same placeholder syntax. -/
lemma flatMap_tokenized_flattened (node : Node) :
    node.flattened.flatMap tokenized = node.tokenized := by
  induction node with
  | element tag attrs children ihAttrs ihChildren =>
    have sameAttrs : (attrs.map flattenedAttrs).map tokenizedAttrs = attrs.map tokenizedAttrs := by
      cases attrs with
      | none => rfl
      | some attrs =>
        simp only [Option.map_some, flattenedAttrs_eq_map, tokenizedAttrs_eq_map, List.map_map]
        refine congrArg some (List.map_congr_left fun attr member => ?_)
        refine congrArg (Prod.mk attr.1) ?_
        exact (toAttribute_tokenized_toAttribute _).trans
          (congrArg Fragment.toAttribute (ihAttrs attr member))
    rw [flattened_element, List.flatMap_singleton, tokenized_element, tokenized_element, sameAttrs,
      List.flatMap_assoc, List.flatMap_congr ihChildren]
  | block helper arg body ih =>
    rw [flattened_block, List.flatMap_singleton, tokenized_block, tokenized_block,
      List.flatMap_assoc, List.flatMap_congr ih]
  | join children ih =>
    rw [flattened_join, flatMap_tokenized_spaced, List.map_map, tokenized_join]
    exact congrArg Fragment.spaced (List.map_congr_left ih)
  | concat children ih =>
    rw [flattened_concat, List.flatMap_assoc, List.flatMap_congr ih, tokenized_concat]
  | group children ih =>
    rw [flattened_group, List.flatMap_assoc, List.flatMap_congr ih, tokenized_group]
  | var path | raw path | literal value | unescaped value => exact List.flatMap_singleton _ _

/-- Nodes whose placeholder syntax can be read back: placeholders with valid tokens, elements and
values, where the value of an attribute is a legible node or a row of two or more. -/
inductive Legible : Node → Prop where
  | var {path : Path} : (Token.var path).Valid → Legible (.var path)
  | raw {path : Path} : (Token.raw path).Valid → Legible (.raw path)
  | block {helper : String} {arg : Path} {body : List Node} :
    (Token.opening helper arg).Valid →
    (∀ node ∈ body, Legible node) →
    Legible (.block helper arg body)
  | literal (value : Value) : Legible (.literal value)
  | element {tag : String} {attrs : Option (List (String × Node))} {children : List Node} :
    (∀ attr ∈ attrs.getD [], attr.2.IsCollapsed) →
    (∀ attr ∈ attrs.getD [], ∀ node ∈ attr.2.row, Legible node) →
    (∀ child ∈ children, Legible child) →
    Legible (.element tag attrs children)

/-- A legible node is no concatenation. -/
lemma Legible.ne_concat {node : Node} (legible : node.Legible) : ∀ nodes, node ≠ .concat nodes := by
  cases legible with
  | var | raw | block | literal | element => exact nofun

/-- Attributes whose values are flattened to legible nodes have legible rows as their values. -/
lemma legible_flattenedAttrs {attrs : Option (List (String × Node))}
    (legible : ∀ attr ∈ attrs.getD [], ∀ member ∈ attr.2.flattened, member.Legible) :
    ∀ attr ∈ (attrs.map flattenedAttrs).getD [],
      attr.2.IsCollapsed ∧ ∀ node ∈ attr.2.row, node.Legible := by
  cases attrs with
  | none => exact List.forall_mem_nil _
  | some attrs =>
    rw [Option.map_some, Option.getD_some, flattenedAttrs_eq_map, List.forall_mem_map]
    intro attr among
    have flat : ∀ node ∈ attr.2.flattened, ∀ nodes, node ≠ .concat nodes :=
      fun node member => (legible attr among node member).ne_concat
    refine ⟨Fragment.isCollapsed_toAttribute flat, ?_⟩
    exact Fragment.forall_mem_row_toAttribute flat (.literal _) (legible attr among)

/-- A well-formed template without unescaped values is flattened to legible nodes. -/
lemma flattened_legible {node : Node} (wf : node.WellFormed) (escaped : node.Without unescaped) :
    ∀ member ∈ node.flattened, member.Legible := by
  induction node with
  | element tag attrs children ihAttrs ihChildren =>
    obtain ⟨wfAttrs, wfChildren⟩ := forall_mem_parts_element.1 wf.part
    obtain ⟨escapedAttrs, escapedChildren⟩ := forall_mem_parts_element.1 escaped.part
    have rows := legible_flattenedAttrs fun attr among =>
      ihAttrs attr among (wfAttrs attr among) (escapedAttrs attr among)
    rw [flattened_element, List.forall_mem_singleton]
    refine .element (fun attr among => (rows attr among).1)
      (fun attr among => (rows attr among).2) ?_
    exact List.forall_mem_flatMap.2 fun child among =>
      ihChildren child among (wfChildren child among) (escapedChildren child among)
  | var path => exact List.forall_mem_singleton.2 (.var wf)
  | raw path => exact List.forall_mem_singleton.2 (.raw wf)
  | block helper arg body ih =>
    obtain ⟨validHelper, validArg, wfBody⟩ := WellFormed.block_iff.1 wf
    rw [flattened_block, List.forall_mem_singleton]
    refine .block ⟨validHelper, validArg⟩ ?_
    exact List.forall_mem_flatMap.2 fun node among =>
      ih node among (wfBody node among) (escaped.part node among)
  | join children ih =>
    rw [flattened_join]
    intro member inside
    obtain rfl | ⟨fragment, among, inside⟩ := Fragment.mem_spaced inside
    · exact .literal _
    · obtain ⟨child, inRow, rfl⟩ := List.mem_map.1 among
      exact ih child inRow (wf.part child inRow) (escaped.part child inRow) member inside
  | concat children ih =>
    rw [flattened_concat]
    exact List.forall_mem_flatMap.2 fun child among =>
      ih child among (wf.part child among) (escaped.part child among)
  | group children ih =>
    rw [flattened_group]
    exact List.forall_mem_flatMap.2 fun child among =>
      ih child among (wf.part child among) (escaped.part child among)
  | literal value => exact List.forall_mem_singleton.2 (.literal value)
  -- an unescaped value could be taken for a token
  | unescaped value => exact absurd .self (escaped value)

/-- A legible node is rendered to something. -/
lemma Legible.tokenized_ne_nil {node : Node} (legible : node.Legible) : node.tokenized ≠ [] := by
  cases legible with
  | var | raw | literal => exact List.cons_ne_nil _ _
  | block => rw [tokenized_block]; exact List.cons_ne_nil _ _
  | element => rw [tokenized_element]; exact List.cons_ne_nil _ _

/-- A legible node is rendered to nodes that are no rows and no groups. -/
lemma Legible.tokenized_single {node : Node} (legible : node.Legible) :
    ∀ member ∈ node.tokenized,
      (∀ nodes, member ≠ .concat nodes) ∧ ∀ nodes, member ≠ .group nodes := by
  induction legible with
  | var | raw | literal => exact List.forall_mem_singleton.2 ⟨nofun, nofun⟩
  | block valid legible ih =>
    rw [tokenized_block, List.forall_mem_cons, List.forall_mem_append, List.forall_mem_flatMap,
      List.forall_mem_singleton]
    exact ⟨⟨nofun, nofun⟩, ih, nofun, nofun⟩
  | element =>
    rw [tokenized_element]
    exact List.forall_mem_singleton.2 ⟨nofun, nofun⟩

/-- Behind a token a legible row goes on with what the token stands for. -/
lemma Legible.of_token_cons {node : Node} (legible : node.Legible) {token : Token}
    (valid : token.Valid) {rest tail : Fragment}
    (eq : node.tokenized ++ rest = token.toNode :: tail) :
    match token with
    | .var path => node = .var path ∧ rest = tail
    | .raw path => node = .raw path ∧ rest = tail
    | .opening helper arg => ∃ body : List Node,
      node = .block helper arg body
        ∧ body.flatMap tokenized ++ (Token.closing helper).toNode :: rest = tail
    | .closing _ => False := by
  cases legible with
  | var own =>
    obtain ⟨head, rfl⟩ := List.cons.inj eq
    obtain rfl := Token.eq_of_toNode_eq own valid head
    exact ⟨rfl, rfl⟩
  | raw own =>
    obtain ⟨head, rfl⟩ := List.cons.inj eq
    obtain rfl := Token.eq_of_toNode_eq own valid head
    exact ⟨rfl, rfl⟩
  | @block helper arg body own legible =>
    rw [tokenized_block, List.cons_append, List.append_assoc, List.singleton_append] at eq
    obtain ⟨head, rfl⟩ := List.cons.inj eq
    obtain rfl := Token.eq_of_toNode_eq own valid head
    exact ⟨body, rfl, rfl⟩
  | literal value => cases (List.cons.inj eq).1
  | element =>
    rw [tokenized_element] at eq
    cases (List.cons.inj eq).1

/-- Only a literal is rendered to a literal. -/
lemma Legible.of_literal_cons {node : Node} (legible : node.Legible) {value : Value}
    {rest tail : Fragment} (eq : node.tokenized ++ rest = .literal value :: tail) :
    node = .literal value ∧ rest = tail := by
  cases legible with
  | literal other => exact ⟨(List.cons.inj eq).1, (List.cons.inj eq).2⟩
  | var | raw | block => cases (List.cons.inj eq).1
  | element =>
    rw [tokenized_element] at eq
    cases (List.cons.inj eq).1

/-- Only an element is rendered to an element. -/
lemma Legible.of_element_cons {node : Node} (legible : node.Legible) {tag : String}
    {attrs : Option (List (String × Node))} {children : List Node} {rest tail : Fragment}
    (eq : node.tokenized ++ rest = .element tag attrs children :: tail) :
    ∃ ownAttrs ownChildren, node = .element tag ownAttrs ownChildren
      ∧ ownAttrs.map tokenizedAttrs = attrs ∧ ownChildren.flatMap tokenized = children
      ∧ rest = tail := by
  cases legible with
  | element =>
    rw [tokenized_element] at eq
    obtain ⟨head, rfl⟩ := List.cons.inj eq
    cases head
    exact ⟨_, _, rfl, rfl, rfl, rfl⟩
  | var | raw | block | literal => cases (List.cons.inj eq).1

end Node

/-- A row that ends, or goes on with the end of the block around it. -/
def Fragment.Ends (rest : Fragment) : Prop :=
  rest = [] ∨ ∃ helper tail, isIdentifier helper ∧ rest = (Token.closing helper).toNode :: tail

namespace Node

/-- A row that ends holds no further legible node. -/
lemma Legible.append_ne_of_ends {node : Node} (legible : node.Legible) {rest : Fragment}
    (ends : rest.Ends) (more : Fragment) : node.tokenized ++ more ≠ rest := by
  rintro rfl
  rcases ends with empty | ⟨helper, tail, valid, closes⟩
  · exact legible.tokenized_ne_nil (List.append_eq_nil_iff.1 empty).1
  · have validToken : (Token.closing helper).Valid := valid
    exact legible.of_token_cons validToken closes

/-- A node is told by its rendering from every other legible node, whatever follows. -/
def ReadsBack (node : Node) : Prop :=
  ∀ other : Node, other.Legible → ∀ rest more : Fragment,
    node.tokenized ++ rest = other.tokenized ++ more → node = other ∧ rest = more

/-- Rows whose nodes read back are told apart up to where they end. -/
lemma eq_of_flatMap_tokenized_append {nodes others : List Node}
    (legible : ∀ node ∈ nodes, node.Legible) (reads : ∀ node ∈ nodes, node.ReadsBack)
    (legibleOthers : ∀ node ∈ others, node.Legible) {rest more : Fragment} (ends : rest.Ends)
    (endsMore : more.Ends)
    (eq : nodes.flatMap tokenized ++ rest = others.flatMap tokenized ++ more) :
    nodes = others ∧ rest = more := by
  induction nodes generalizing others with
  | nil =>
    cases others with
    | nil => exact ⟨rfl, eq⟩
    | cons other others =>
      -- one row cannot go on where the other one ends
      rw [List.flatMap_cons, List.append_assoc] at eq
      exact absurd eq.symm ((legibleOthers other List.mem_cons_self).append_ne_of_ends ends _)
  | cons node nodes ih =>
    obtain ⟨legible, legibleNodes⟩ := List.forall_mem_cons.1 legible
    obtain ⟨reads, readsNodes⟩ := List.forall_mem_cons.1 reads
    cases others with
    | nil =>
      rw [List.flatMap_cons, List.append_assoc] at eq
      exact absurd eq (legible.append_ne_of_ends endsMore _)
    | cons other others =>
      obtain ⟨legibleOther, legibleRest⟩ := List.forall_mem_cons.1 legibleOthers
      rw [List.flatMap_cons, List.flatMap_cons, List.append_assoc, List.append_assoc] at eq
      obtain ⟨rfl, tails⟩ := reads other legibleOther _ _ eq
      obtain ⟨rfl, rfl⟩ := ih legibleNodes readsNodes legibleRest tails
      exact ⟨rfl, rfl⟩

/-- Whole rows whose nodes read back are told apart. -/
lemma eq_of_flatMap_tokenized {nodes others : List Node} (legible : ∀ node ∈ nodes, node.Legible)
    (reads : ∀ node ∈ nodes, node.ReadsBack) (legibleOthers : ∀ node ∈ others, node.Legible)
    (eq : nodes.flatMap tokenized = others.flatMap tokenized) : nodes = others := by
  have ends : Fragment.Ends [] := .inl rfl
  have rows : nodes.flatMap tokenized ++ [] = others.flatMap tokenized ++ [] := by rw [eq]
  exact (eq_of_flatMap_tokenized_append legible reads legibleOthers ends ends rows).1

/-- A row of legible nodes, made the value of an attribute, still shows its rendering. -/
lemma row_toAttribute_flatMap_tokenized {nodes : List Node} (nonempty : nodes ≠ [])
    (legible : ∀ node ∈ nodes, node.Legible) :
    (Fragment.toAttribute (nodes.flatMap tokenized)).row = nodes.flatMap tokenized := by
  have flat : ∀ member ∈ nodes.flatMap tokenized, ∀ row, member ≠ .concat row :=
    List.forall_mem_flatMap.2 fun node among member inside =>
      ((legible node among).tokenized_single member inside).1
  have rendered : nodes.flatMap tokenized ≠ [] := by
    obtain ⟨node, among⟩ := List.exists_mem_of_ne_nil nodes nonempty
    intro empty
    exact (legible node among).tokenized_ne_nil (List.flatMap_eq_nil_iff.1 empty node among)
  rw [Fragment.row_toAttribute flat, if_neg rendered]

/-- An attribute value of legible nodes that read back is told by its rendering. -/
lemma eq_of_toAttribute_tokenized {node other : Node} (collapsed : node.IsCollapsed)
    (collapsedOther : other.IsCollapsed) (legible : ∀ member ∈ node.row, member.Legible)
    (legibleOther : ∀ member ∈ other.row, member.Legible)
    (reads : ∀ member ∈ node.row, member.ReadsBack)
    (eq : Fragment.toAttribute node.tokenized = Fragment.toAttribute other.tokenized) :
    node = other := by
  rw [tokenized_eq_flatMap_row node, tokenized_eq_flatMap_row other] at eq
  have rows : node.row.flatMap tokenized = other.row.flatMap tokenized := by
    rw [← row_toAttribute_flatMap_tokenized collapsed.row_ne_nil legible, eq,
      row_toAttribute_flatMap_tokenized collapsedOther.row_ne_nil legibleOther]
  have same : node.row = other.row := eq_of_flatMap_tokenized legible reads legibleOther rows
  rw [← collapsed.toAttribute_row, same, collapsedOther.toAttribute_row]

/-- Attributes are told by their renderings if their values are. -/
lemma eq_of_map_tokenizedAttrs {attrs others : Option (List (String × Node))}
    (values : ∀ attr ∈ attrs.getD [], ∀ other ∈ others.getD [],
      Fragment.toAttribute attr.2.tokenized = Fragment.toAttribute other.2.tokenized →
      attr.2 = other.2)
    (eq : attrs.map tokenizedAttrs = others.map tokenizedAttrs) : attrs = others := by
  cases attrs with
  | none =>
    cases others with
    | none => rfl
    | some others => cases eq
  | some attrs =>
    cases others with
    | none => cases eq
    | some others =>
      have lists := Option.some.inj eq
      rw [tokenizedAttrs_eq_map, tokenizedAttrs_eq_map] at lists
      refine congrArg some (eq_of_map_eq_map (fun attr among other amongOthers same => ?_) lists)
      obtain ⟨name, value⟩ := Prod.mk.inj same
      exact Prod.ext name (values attr among other amongOthers value)

/-- A legible node is told by its rendering from every other one, whatever follows. -/
theorem Legible.readsBack {node : Node} (legible : node.Legible) : node.ReadsBack := by
  induction legible with
  | var valid =>
    intro other legibleOther rest more eq
    obtain ⟨rfl, rfl⟩ := legibleOther.of_token_cons valid eq.symm
    exact ⟨rfl, rfl⟩
  | raw valid =>
    intro other legibleOther rest more eq
    obtain ⟨rfl, rfl⟩ := legibleOther.of_token_cons valid eq.symm
    exact ⟨rfl, rfl⟩
  | @block helper arg body valid legible ih =>
    intro other legibleOther rest more eq
    rw [tokenized_block, List.cons_append, List.append_assoc, List.singleton_append] at eq
    obtain ⟨otherBody, rfl, tails⟩ := legibleOther.of_token_cons valid eq.symm
    -- behind the opening the bodies go on up to the closing of the block
    cases legibleOther with
    | block _ legibleBody =>
      have ends : ∀ tail, Fragment.Ends ((Token.closing helper).toNode :: tail) :=
        fun tail => .inr ⟨helper, tail, valid.1, rfl⟩
      obtain ⟨rfl, closings⟩ :=
        eq_of_flatMap_tokenized_append legible ih legibleBody (ends rest) (ends more) tails.symm
      exact ⟨rfl, (List.cons.inj closings).2⟩
  | literal value =>
    intro other legibleOther rest more eq
    obtain ⟨rfl, rfl⟩ := legibleOther.of_literal_cons eq.symm
    exact ⟨rfl, rfl⟩
  | @element tag attrs children collapsed legibleAttrs legibleChildren ihAttrs ihChildren =>
    intro other legibleOther rest more eq
    rw [tokenized_element] at eq
    obtain ⟨otherAttrs, otherChildren, rfl, sameAttrs, sameChildren, rfl⟩ :=
      legibleOther.of_element_cons eq.symm
    cases legibleOther with
    | element collapsedOther legibleOtherAttrs legibleOtherChildren =>
      have attrsEq : attrs = otherAttrs := by
        refine eq_of_map_tokenizedAttrs (fun attr among other amongOthers => ?_) sameAttrs.symm
        exact eq_of_toAttribute_tokenized (collapsed attr among) (collapsedOther other amongOthers)
          (legibleAttrs attr among) (legibleOtherAttrs other amongOthers) (ihAttrs attr among)
      obtain rfl := eq_of_flatMap_tokenized legibleChildren ihChildren legibleOtherChildren
        sameChildren.symm
      rw [attrsEq]
      exact ⟨rfl, rfl⟩

/-- Templates with the same placeholder syntax are flattened to the same row. -/
theorem flattened_eq_of_toSyntax_eq {node other : Node} (wf : node.WellFormed)
    (wfOther : other.WellFormed) (escaped : node.Without unescaped)
    (escapedOther : other.Without unescaped) (eq : node.toSyntax = other.toSyntax) :
    node.flattened = other.flattened := by
  have legible := flattened_legible wf escaped
  have legibleOther := flattened_legible wfOther escapedOther
  have noGroup : ∀ {nodes : List Node}, (∀ node ∈ nodes, node.Legible) →
      ∀ member ∈ nodes.flatMap tokenized, ∀ row, member ≠ .group row :=
    fun legible => List.forall_mem_flatMap.2 fun node among member inside =>
      ((legible node among).tokenized_single member inside).2
  rw [toSyntax, toSyntax, ← flatMap_tokenized_flattened, ← flatMap_tokenized_flattened] at eq
  have rows := Fragment.eq_of_toRoot_eq (noGroup legible) (noGroup legibleOther) eq
  have reads : ∀ member ∈ node.flattened, member.ReadsBack :=
    fun member among => (legible member among).readsBack
  exact eq_of_flatMap_tokenized legible reads legibleOther rows

end Node

end TreeTemplate
