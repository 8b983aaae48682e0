import TreeTemplate.Proofs.Engine
import TreeTemplate.Proofs.Expansion.Sequence
import TreeTemplate.Proofs.Node.Named
import TreeTemplate.Proofs.Placeholders.Scanner
import TreeTemplate.Proofs.Placeholders.Step

/-!
# Placeholders are read back from text

`Node.placeholders` are the tokens of a tree in the order in which they are written: those of
attributes before those of children, and those of a body between the opening and the closing of its
block.  The text of placeholder syntax gives back just these, where no literal has a brace in its
text and nothing is unescaped (`Engine.scan_toSyntax`).

Pieces of markup spell out tokens if their text is one of these tokens and of characters that are no
braces (`Spells`).  That is kept when pieces are put in a row.  Names have no braces, so markup
spells out what is inside of it.  An attribute that is not written in quotes has a value without
braces, and so no placeholder is lost with it.
-/

namespace TreeTemplate

/-- A text without braces. -/
def BraceFree (text : String) : Prop :=
  ∀ c ∈ text.toList, c ≠ '{' ∧ c ≠ '}'

/-- A text whose characters are no braces is free of braces. -/
lemma braceFree_of_all {text : String}
    (all : (text.toList.all fun c => c != '{' && c != '}') = true) : BraceFree text := by
  intro c member
  have here := List.all_eq_true.1 all c member
  rwa [Bool.and_eq_true, bne_iff_ne, bne_iff_ne] at here

/-- Texts free of braces stay so when they are put together. -/
lemma BraceFree.append {text other : String} (free : BraceFree text) (freeOther : BraceFree other) :
    BraceFree (text ++ other) := by
  unfold BraceFree
  rw [String.toList_append]
  exact List.forall_mem_append.2 ⟨free, freeOther⟩

/-- A tag name is free of braces. -/
lemma braceFree_of_isTagName {name : String} (valid : isTagName name) : BraceFree name := by
  intro c member
  have part := chars_of_isTagName valid c member
  exact ⟨ne_of_isTagPart part rfl, ne_of_isTagPart part rfl⟩

namespace Token

/-- Follows a token with the helpers of the open blocks, the innermost first: an opening adds its
helper, and a closing takes off its own. -/
def follow (opened : List String) : Token → Option (List String)
  | .var _ | .raw _ => some opened
  | .opening helper _ => some (helper :: opened)
  | .closing helper =>
    match opened with
    | innermost :: outer => if innermost = helper then some outer else none
    | [] => none

/-- The opening of a block opens it. -/
lemma follow_opening (opened : List String) (helper : String) (arg : Path) :
    follow opened (.opening helper arg) = some (helper :: opened) := rfl

/-- The closing of the block that was opened last closes it. -/
lemma follow_closing (helper : String) (outer : List String) :
    follow (helper :: outer) (.closing helper) = some outer :=
  if_pos rfl

/-- Every opening in a row of tokens has its closing behind it, with the same helper, and these
pairs are properly nested. -/
def Nested (tokens : List Token) : Prop :=
  tokens.foldlM follow [] = some []

end Token

namespace Node

mutual

/-- The tokens of a tree in document order, where attributes are in the order of their names. -/
def placeholders : Node → List Token
  | .element _ attrs children =>
    let attrs := match attrs with
      | none => []
      | some attrs => (placeholdersOfAttrs attrs).flatten
    attrs ++ (placeholdersOfEach children).flatten
  | .var path => [.var path]
  | .raw path => [.raw path]
  | .block helper arg body =>
    .opening helper arg :: ((placeholdersOfEach body).flatten ++ [.closing helper])
  | .join children => (placeholdersOfEach children).flatten
  | .concat children => (placeholdersOfEach children).flatten
  | .group children => (placeholdersOfEach children).flatten
  | .literal _ | .unescaped _ => []
termination_by structural node => node

/-- The tokens of each tree of a row. -/
def placeholdersOfEach : List Node → List (List Token)
  | [] => []
  | node :: rest => node.placeholders :: placeholdersOfEach rest
termination_by structural nodes => nodes

/-- The tokens of each attribute. -/
def placeholdersOfAttrs : List (String × Node) → List (List Token)
  | [] => []
  | (_, node) :: rest => node.placeholders :: placeholdersOfAttrs rest
termination_by structural attrs => attrs

end

/-- The placeholders of a list of nodes are those of each, in order. -/
lemma placeholdersOfEach_eq_map (nodes : List Node) :
    placeholdersOfEach nodes = nodes.map placeholders := by
  induction nodes with
  | nil => rfl
  | cons node rest ih => rw [placeholdersOfEach, ih, List.map_cons]

/-- The placeholders of attributes are those of each value, in order. -/
lemma placeholdersOfAttrs_eq_map (attrs : List (String × Node)) :
    placeholdersOfAttrs attrs = attrs.map fun attr => attr.2.placeholders := by
  induction attrs with
  | nil => rfl
  | cons attr rest ih => rw [placeholdersOfAttrs, ih, List.map_cons]

/-- The placeholders of an element are those of its attributes and then of its children. -/
lemma placeholders_element (tag : String) (attrs : Option (List (String × Node)))
    (children : List Node) :
    (element tag attrs children).placeholders =
      ((attrs.getD []).flatMap fun attr => attr.2.placeholders)
        ++ children.flatMap placeholders := by
  rw [List.flatMap_def (f := placeholders), ← placeholdersOfEach_eq_map]
  cases attrs with
  | none => rfl
  | some attrs =>
    rw [Option.getD_some, List.flatMap_def, ← placeholdersOfAttrs_eq_map]
    rfl

/-- A block stands as its opening, the placeholders of its body and its closing. -/
lemma placeholders_block (helper : String) (arg : Path) (body : List Node) :
    (block helper arg body).placeholders =
      .opening helper arg :: (body.flatMap placeholders ++ [.closing helper]) := by
  rw [placeholders, placeholdersOfEach_eq_map, List.flatMap_def]

lemma placeholders_join (nodes : List Node) :
    (join nodes).placeholders = nodes.flatMap placeholders := by
  rw [placeholders, placeholdersOfEach_eq_map, List.flatMap_def]

lemma placeholders_concat (nodes : List Node) :
    (concat nodes).placeholders = nodes.flatMap placeholders := by
  rw [placeholders, placeholdersOfEach_eq_map, List.flatMap_def]

lemma placeholders_group (nodes : List Node) :
    (group nodes).placeholders = nodes.flatMap placeholders := by
  rw [placeholders, placeholdersOfEach_eq_map, List.flatMap_def]

/-- Behind the tokens of a tree the same blocks are open as before them. -/
lemma follow_placeholders (node : Node) (outer : List String) :
    node.placeholders.foldlM Token.follow outer = some outer := by
  have rows : ∀ {nodes : List Node},
      (∀ node ∈ nodes, ∀ outer, node.placeholders.foldlM Token.follow outer = some outer) →
      ∀ outer, (nodes.flatMap placeholders).foldlM Token.follow outer = some outer := by
    intro nodes each outer
    -- the members are followed from left to right, each with the same blocks open as the first
    induction nodes with
    | nil => rfl
    | cons node rest ih =>
      obtain ⟨head, tail⟩ := List.forall_mem_cons.1 each
      rw [List.flatMap_cons, List.foldlM_append, head outer]
      exact ih tail
  induction node generalizing outer with
  | element tag attrs children ihAttrs ihChildren =>
    have values : ∀ value ∈ (attrs.getD []).map Prod.snd, ∀ outer,
        value.placeholders.foldlM Token.follow outer = some outer := List.forall_mem_map.2 ihAttrs
    have inAttrs := rows values outer
    rw [List.flatMap_map] at inAttrs
    rw [placeholders_element, List.foldlM_append, inAttrs]
    exact rows ihChildren outer
  | block helper arg body ih =>
    have inBody := rows ih (helper :: outer)
    rw [placeholders_block, List.foldlM_cons, Token.follow_opening]
    change (body.flatMap placeholders ++ [Token.closing helper]).foldlM Token.follow _ = _
    rw [List.foldlM_append, inBody]
    change Token.follow (helper :: outer) (Token.closing helper) >>= some = some outer
    rw [Token.follow_closing]
    rfl
  | join nodes ih =>
    rw [placeholders_join]
    exact rows ih outer
  | concat nodes ih =>
    rw [placeholders_concat]
    exact rows ih outer
  | group nodes ih =>
    rw [placeholders_group]
    exact rows ih outer
  | var | raw | literal | unescaped => rfl

end Node

/-- The text of pieces, if they have one, is that of these tokens with characters between them that
are no braces. -/
def Spells (pieces : List Piece) (tokens : List Token) : Prop :=
  ∀ text, textOf pieces = .ok text → ∃ lexemes : List Lexeme,
    (∀ lexeme ∈ lexemes, lexeme.Valid) ∧ text.toList = lexemes.flatMap Lexeme.chars
      ∧ lexemes.filterMap Lexeme.token? = tokens

namespace Spells

lemma nil : Spells [] [] := by
  rintro text ⟨⟩
  exact ⟨[], List.forall_mem_nil _, rfl, rfl⟩

/-- Pieces put together spell the tokens of both. -/
lemma append {pieces more : List Piece} {tokens others : List Token} (h : Spells pieces tokens)
    (h' : Spells more others) : Spells (pieces ++ more) (tokens ++ others) := by
  intro whole succeeds
  rw [textOf_append] at succeeds
  obtain ⟨text, first, succeeds⟩ := bind_eq_ok_iff.1 succeeds
  obtain ⟨rest, second, succeeds⟩ := bind_eq_ok_iff.1 succeeds
  cases succeeds
  obtain ⟨lexemes, valid, spelled, rfl⟩ := h text first
  obtain ⟨behind, validBehind, spelledBehind, rfl⟩ := h' rest second
  refine ⟨lexemes ++ behind, List.forall_mem_append.2 ⟨valid, validBehind⟩, ?_, ?_⟩
  · rw [String.toList_append, spelled, spelledBehind, List.flatMap_append]
  · rw [List.filterMap_append]

/-- What is spelled out item by item is spelled out in a row. -/
lemma flatMap {α : Type} {piecesOf : α → List Piece} {tokensOf : α → List Token} {as : List α}
    (each : ∀ a ∈ as, Spells (piecesOf a) (tokensOf a)) :
    Spells (as.flatMap piecesOf) (as.flatMap tokensOf) := by
  induction as with
  | nil => exact nil
  | cons a as ih =>
    obtain ⟨head, tail⟩ := List.forall_mem_cons.1 each
    exact head.append (ih tail)

/-- Pieces inside an element spell what they do without it. -/
lemma within {pieces : List Piece} {tokens : List Token} (h : Spells pieces tokens)
    (label : Label) : Spells (pieces.map (TreeTemplate.within label)) tokens := by
  intro text succeeds
  rw [textOf_within, within_eq_ok_iff] at succeeds
  exact h text succeeds

/-- Pieces whose text is free of braces spell no token. -/
lemma of_braceFree {pieces : List Piece}
    (free : ∀ text, textOf pieces = .ok text → BraceFree text) : Spells pieces [] := by
  intro text succeeds
  refine ⟨text.toList.map .char, List.forall_mem_map.2 (free text succeeds), ?_, ?_⟩
  · rw [List.flatMap_map]
    exact (List.flatMap_singleton' _).symm
  · rw [List.filterMap_map]
    exact List.filterMap_eq_nil_iff.2 fun c _ => rfl

/-- A text free of braces spells no token. -/
lemma text {text : String} (free : BraceFree text) : Spells [.ok text] [] := by
  refine of_braceFree fun whole succeeds => ?_
  rw [textOf_singleton] at succeeds
  cases succeeds
  exact free

/-- A valid token is spelled by the literal that stands for it. -/
lemma token {token : Token} (valid : token.Valid) : Spells token.toNode.pieces [token] := by
  intro text succeeds
  have whole : textOf token.toNode.pieces = .ok token.text := textOf_singleton token.text
  rw [whole] at succeeds
  cases succeeds
  refine ⟨[.token token], List.forall_mem_singleton.2 valid, ?_, rfl⟩
  rw [List.flatMap_singleton]
  rfl

/-- A text without braces spells out no token. -/
lemma eq_nil_of_braceFree {pieces : List Piece} {tokens : List Token} {text : String}
    (h : Spells pieces tokens) (whole : textOf pieces = .ok text) (free : BraceFree text) :
    tokens = [] := by
  obtain ⟨lexemes, -, spelled, rfl⟩ := h text whole
  refine List.filterMap_eq_nil_iff.2 fun lexeme among => ?_
  cases lexeme with
  | char c => rfl
  | token token =>
    have brace : '{' ∈ text.toList := by
      rw [spelled, List.mem_flatMap]
      refine ⟨.token token, among, ?_⟩
      rw [Lexeme.chars, Token.toList_text]
      cases token <;> exact List.mem_cons_self
    exact absurd rfl (free '{' brace).1

/-- A text without braces in front of pieces does not change what they spell out. -/
lemma cons {text : String} {pieces : List Piece} {tokens : List Token} (free : BraceFree text)
    (h : Spells pieces tokens) : Spells (.ok text :: pieces) tokens :=
  (Spells.text free).append h

/-- Neither does one behind them. -/
lemma concat {text : String} {pieces : List Piece} {tokens : List Token} (h : Spells pieces tokens)
    (free : BraceFree text) : Spells (pieces ++ [.ok text]) tokens := by
  rw [← List.append_nil tokens]
  exact h.append (.text free)

end Spells

namespace Node

/-- Trees with valid names, in which nothing is unescaped and no literal has a brace in its text. -/
structure Scannable (node : Node) : Prop where
  named : node.Named
  noUnescaped : node.Without unescaped
  braceFree : ∀ value text, (literal value).OccursIn node →
    (literal value).toText = .ok text → BraceFree text

/-- The parts of a tree that can be scanned can be scanned. -/
lemma Scannable.part {node : Node} (scannable : node.Scannable) :
    ∀ part ∈ node.parts, part.Scannable := by
  intro part member
  refine ⟨scannable.named.part part member, scannable.noUnescaped.part part member, ?_⟩
  intro value text occurs
  exact scannable.braceFree value text (.part member occurs)

/-- The pieces of an attribute value are those of the nodes it was made of. -/
lemma pieces_toAttribute (fragment : Fragment) :
    (Fragment.toAttribute fragment).pieces = fragment.flatMap pieces := by
  match fragment with
  | [] => rfl
  | [node] => exact (List.flatMap_singleton _ _).symm
  | _ :: _ :: _ => exact pieces_concat _

/-- A value that is not written in quotes is nothing or says yes or no. -/
lemma textOf_of_attributeForm {node : Node} (form : node.attributeForm ≠ .quoted) :
    ∃ text, textOf node.pieces = .ok text ∧ BraceFree text := by
  unfold attributeForm at form
  split at form
  · exact ⟨"", rfl, List.forall_mem_nil _⟩
  · exact ⟨"false", textOf_singleton _, braceFree_of_isTagName rfl⟩
  · exact ⟨"", rfl, List.forall_mem_nil _⟩
  · exact ⟨"false", textOf_singleton _, braceFree_of_isTagName rfl⟩
  · exact ⟨"true", textOf_singleton _, braceFree_of_isTagName rfl⟩
  · exact ⟨"true", textOf_singleton _, braceFree_of_isTagName rfl⟩
  · exact absurd rfl form

/-- An attribute spells out what its value does. -/
lemma spells_attributePieces {name : String} {value : Node} {tokens : List Token}
    (valid : isTagName name) (h : Spells value.pieces tokens) :
    Spells (attributePieces (name, value)) tokens := by
  have free : BraceFree (" " ++ name) :=
    .append (braceFree_of_all rfl) (braceFree_of_isTagName valid)
  unfold attributePieces
  cases form : value.attributeForm with
  | absent =>
    obtain ⟨text, whole, plain⟩ := textOf_of_attributeForm (form.trans_ne nofun)
    rw [h.eq_nil_of_braceFree whole plain]
    exact .nil
  | bare =>
    obtain ⟨text, whole, plain⟩ := textOf_of_attributeForm (form.trans_ne nofun)
    rw [h.eq_nil_of_braceFree whole plain]
    exact .text free
  | quoted =>
    have before : BraceFree (" " ++ name ++ "=\x22") := free.append (braceFree_of_all rfl)
    exact .concat (.cons before (h.within _)) (braceFree_of_all rfl)

/-- Rows with spaces between them spell out what the rows do. -/
lemma spells_spaced {nodes : List Node}
    (each : ∀ node ∈ nodes, Spells (node.tokenized.flatMap pieces) node.placeholders) :
    Spells ((Fragment.spaced (nodes.map tokenized)).flatMap pieces)
      (nodes.flatMap placeholders) := by
  induction nodes with
  | nil => exact .nil
  | cons first rest ih =>
    obtain ⟨head, tail⟩ := List.forall_mem_cons.1 each
    cases rest with
    | nil =>
      rw [List.map_singleton, Fragment.spaced_singleton, List.flatMap_singleton]
      exact head
    | cons second rest =>
      rw [List.map_cons, List.map_cons, Fragment.spaced_cons_cons, List.flatMap_append,
        List.flatMap_cons, List.flatMap_cons]
      have space : BraceFree " " := braceFree_of_all rfl
      exact head.append (.cons space (ih tail))

/-- The row that a tree turns into spells out the tokens of the tree. -/
theorem spells_tokenized {node : Node} (scannable : node.Scannable) :
    Spells (node.tokenized.flatMap pieces) node.placeholders := by
  have validPath : ∀ {path : Path}, Path.parse path.text = .ok path →
      Path.ofText? path.text = some path := fun parses => (Path.parse_ends _).of_ok parses
  have rows : ∀ {nodes : List Node}, (∀ node ∈ nodes, node.Scannable) →
      (∀ node ∈ nodes, node.Scannable → Spells (node.tokenized.flatMap pieces) node.placeholders) →
      Spells ((nodes.flatMap tokenized).flatMap pieces) (nodes.flatMap placeholders) := by
    intro nodes each ih
    rw [List.flatMap_assoc]
    exact .flatMap fun node member => ih node member (each node member)
  induction node with
  | element tag attrs children ihAttrs ihChildren =>
    obtain ⟨tagName, attrNames⟩ := scannable.named.here
    obtain ⟨inAttrs, inChildren⟩ := forall_mem_parts_element.1 scannable.part
    have attributes : Spells (((attrs.map tokenizedAttrs).getD []).flatMap attributePieces)
        ((attrs.getD []).flatMap fun attr => attr.2.placeholders) := by
      cases attrs with
      | none => exact .nil
      | some attrs =>
        rw [Option.map_some, Option.getD_some, Option.getD_some, tokenizedAttrs_eq_map,
          List.flatMap_map]
        refine .flatMap fun attr member => spells_attributePieces (attrNames attr member) ?_
        rw [pieces_toAttribute]
        exact ihAttrs attr member (inAttrs attr member)
    have name : BraceFree tag := braceFree_of_isTagName tagName
    have opening : BraceFree ("<" ++ tag) := .append (braceFree_of_all rfl) name
    have closing : BraceFree ("</" ++ tag ++ ">") :=
      .append (.append (braceFree_of_all rfl) name) (braceFree_of_all rfl)
    have row : Spells (.ok ">" :: (children.flatMap tokenized).flatMap pieces)
        (children.flatMap placeholders) := .cons (braceFree_of_all rfl) (rows inChildren ihChildren)
    rw [tokenized_element, List.flatMap_singleton, pieces_element, placeholders_element]
    exact .within (.concat (.append (.cons opening attributes) row) closing) _
  | var path =>
    rw [tokenized, List.flatMap_singleton, placeholders]
    exact .token (validPath scannable.named.here)
  | raw path =>
    rw [tokenized, List.flatMap_singleton, placeholders]
    exact .token (validPath scannable.named.here)
  | block helper arg body ih =>
    obtain ⟨name, parses⟩ := scannable.named.here
    have opening : Spells (Token.opening helper arg).toNode.pieces [.opening helper arg] :=
      .token ⟨name, validPath parses⟩
    have closing : Spells (Token.closing helper).toNode.pieces [.closing helper] := .token name
    rw [tokenized_block, placeholders_block, List.flatMap_cons, List.flatMap_append,
      List.flatMap_singleton]
    exact opening.append ((rows scannable.part ih).append closing)
  | join nodes ih =>
    rw [tokenized_join, placeholders_join]
    exact spells_spaced fun node member => ih node member (scannable.part node member)
  | concat nodes ih =>
    rw [tokenized_concat, placeholders_concat]
    exact rows scannable.part ih
  | group nodes ih =>
    rw [tokenized_group, placeholders_group]
    exact rows scannable.part ih
  | literal value =>
    rw [tokenized, List.flatMap_singleton, placeholders]
    -- a literal could hold braces of its own, and it is only here that scannable trees are needed
    refine .of_braceFree fun text whole => scannable.braceFree value text .self ?_
    rw [toText_eq_textOf]
    exact whole
  | unescaped value => exact absurd .self (scannable.noUnescaped value)

end Node

/-- The text of placeholder syntax gives back every placeholder of a tree with valid names.  Where no
literal has a brace in its text and nothing is unescaped, a scan of the text finds the tokens of the
tree in document order, with the same paths and helpers.  They are properly nested, and outside of
them no brace is left. -/
theorem Engine.scan_toSyntax {engine : Engine} {template : Node} (named : template.Named)
    (noUnescaped : template.Without .unescaped)
    (braceFree : ∀ value text, (Node.literal value).OccursIn template →
      (Node.literal value).toText = .ok text → BraceFree text)
    {text : String} (writes : engine.toSyntax (.tree template) >>= Node.toText = .ok text) :
    ∃ lexemes, Lexeme.scan text = some lexemes
      ∧ lexemes.filterMap Lexeme.token? = template.placeholders
      ∧ (∀ token ∈ template.placeholders, token.Valid) ∧ Token.Nested template.placeholders
      ∧ ∀ c, .char c ∈ lexemes → c ≠ '{' ∧ c ≠ '}' := by
  rw [toSyntax_tree, ok_bind, Node.toSyntax, Node.toText_toRoot, Node.toText_eq_textOf,
    Node.pieces_concat] at writes
  obtain ⟨lexemes, valid, spelled, tokens⟩ :=
    Node.spells_tokenized ⟨named, noUnescaped, braceFree⟩ text writes
  refine ⟨lexemes, Lexeme.scan_chars valid spelled, tokens, fun token found => ?_,
    template.follow_placeholders [], fun c among => valid _ among⟩
  rw [← tokens] at found
  obtain ⟨lexeme, among, same⟩ := List.mem_filterMap.1 found
  cases lexeme with
  | char c => cases same
  | token placeholder =>
    cases same
    exact valid _ among

/-- References that stand next to each other in an attribute and in a block are told apart, and
escaped text around them is none. -/
theorem Engine.scan_toSyntax_of_adjacent_references :
    let template : Node :=
      .element "p" (some [("title", .concat [.var (.parent ["site"]), .raw (.current ["name"])])])
        [.block "each" (.current ["items", "0"]) [.raw .this, .var .this], .literal (.string "<b>")]
    let text := "<p title=\x22\x7b\x7b../site\x7d\x7d\x7b\x7b\x7bname\x7d\x7d\x7d\x22>"
      ++ "\x7b\x7b#each items.0\x7d\x7d\x7b\x7b\x7bthis\x7d\x7d\x7d\x7b\x7bthis\x7d\x7d"
      ++ "\x7b\x7b/each\x7d\x7d&lt;b&gt;</p>"
    let tokens : List Token :=
      [.var (.parent ["site"]), .raw (.current ["name"]), .opening "each" (.current ["items", "0"]),
        .raw .this, .var .this, .closing "each"]
    template.Named ∧ template.Without .unescaped
      ∧ (∀ value text, (Node.literal value).OccursIn template →
        (Node.literal value).toText = .ok text → BraceFree text)
      ∧ Engine.new.toSyntax (.tree template) >>= Node.toText = .ok text
      ∧ ∃ lexemes, Lexeme.scan text = some lexemes ∧ lexemes.filterMap Lexeme.token? = tokens
        ∧ (∀ token ∈ tokens, token.Valid) ∧ Token.Nested tokens
        ∧ ∀ c, .char c ∈ lexemes → c ≠ '{' ∧ c ≠ '}' := by
  intro template text tokens
  have wf : template.WellFormed := by
    simp only [template, Node.WellFormed, Node.AllWellFormed, Node.AttrsWellFormed,
      Value.WellFormed, Entries.Sorted]
    decide
  have escaped : template.Without .unescaped := by simp [Node.Without, template]
  have literals : ∀ value, (Node.literal value).OccursIn template → value = .string "<b>" := by
    intro value occurs
    simpa [template] using occurs
  have free : ∀ value text, (Node.literal value).OccursIn template →
      (Node.literal value).toText = .ok text → BraceFree text := by
    intro value written occurs succeeds
    rw [literals value occurs] at succeeds
    cases succeeds
    exact braceFree_of_all rfl
  have writes : Engine.new.toSyntax (.tree template) >>= Node.toText = .ok text := rfl
  have scanned := Engine.scan_toSyntax wf.named escaped free writes
  exact ⟨wf.named, escaped, free, writes, scanned⟩

end TreeTemplate
