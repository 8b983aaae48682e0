import TreeTemplate.Markup
import TreeTemplate.Proofs.Node.Parts
import TreeTemplate.Proofs.Outcome
import TreeTemplate.Proofs.Sequence

/-!
# Markup in pieces

A tree is written piece by piece, and writing ends at the first value that has no text.  The pieces
of a tree are all that there is to write, in document order, and those behind a value without text
are among them.  They do not depend on where the text goes: writing a tree to any sink is writing
its pieces to it (`Node.write_eq_pieces`), so what a sink makes of a tree follows from what it makes
of a list of texts, and from where the first error is (`texts_or_error`).
-/

namespace TreeTemplate

/-- A piece of markup: a text, or the error of a value that has none. -/
abbrev Piece := Except Error String

mutual

/-- The pieces of a value, its strings treated in some way. -/
def Value.pieces (treat : String → String) : Value → List Piece
  | .none => []
  | .bool b => [.ok (if b then "true" else "false")]
  | .integer n => [.ok (toString n.toInt)]
  | .float x => [.ok (floatText x)]
  | .string text => [.ok (treat text)]
  | .list items => (Value.piecesEach treat items).flatten
  | .map _ => [fail (.unformattable .map)]
termination_by structural value => value

/-- The pieces of each value of a list. -/
def Value.piecesEach (treat : String → String) : List Value → List (List Piece)
  | [] => []
  | item :: rest => item.pieces treat :: Value.piecesEach treat rest
termination_by structural items => items

end

namespace Node

mutual

/-- The pieces of a tree.  Its elements and attributes are named in the errors among them. -/
def pieces : Node → List Piece
  | .element tag attrs children =>
    let attrs := match attrs with
      | none => []
      | some attrs => (piecesAttrs attrs).flatten
    List.map (TreeTemplate.within (.element tag)) <|
      .ok ("<" ++ tag) :: attrs ++ .ok ">" :: (piecesEach children).flatten
        ++ [.ok ("</" ++ tag ++ ">")]
  | .var path => [fail (.unexpanded (.var path))]
  | .raw path => [fail (.unexpanded (.raw path))]
  | .block helper arg _ => [fail (.unexpanded (.opening helper arg))]
  | .join children => [.ok " "].intercalate (piecesEach children)
  | .concat children => (piecesEach children).flatten
  | .group children => (piecesEach children).flatten
  | .literal value => value.pieces Markup.escape
  | .unescaped value => value.pieces id
termination_by structural node => node

/-- The pieces of each tree of a row. -/
def piecesEach : List Node → List (List Piece)
  | [] => []
  | node :: rest => node.pieces :: piecesEach rest
termination_by structural nodes => nodes

/-- The pieces of each attribute. -/
def piecesAttrs : List (String × Node) → List (List Piece)
  | [] => []
  | (name, node) :: rest =>
    (match node.attributeForm with
      | .absent => []
      | .bare => [.ok (" " ++ name)]
      | .quoted =>
        .ok (" " ++ name ++ "=\x22") :: node.pieces.map (TreeTemplate.within (.attribute name))
          ++ [.ok "\x22"]) :: piecesAttrs rest
termination_by structural attrs => attrs

end

end Node

namespace Write

/-- Writing goes on with the sink as the first computation left it, unless that ended early. -/
lemma bind_apply {σ α β : Type} (write : Write σ α) (more : α → Write σ β) (sink : σ) :
    (write >>= more) sink =
      match write sink with
      | (.ok a, sink) => more a sink
      | (.error stop, sink) => (.error stop, sink) := by
  show StateT.bind write (ExceptT.bindCont more) sink = _
  rw [StateT.bind]
  cases write sink with
  | mk outcome sink =>
    cases outcome with
    | ok a => rfl
    | error stop => rfl

variable {σ : Type} [Sink σ]

/-- Writes pieces up to the first that is an error. -/
def pieces : List Piece → Write σ Unit
  | [] => pure ()
  | .ok text :: rest => do
    put text
    pieces rest
  | .error error :: _ => fun sink => (.error (.failed error), sink)

/-- A text that is put is a single piece. -/
lemma put_eq_pieces (text : String) : (put text : Write σ Unit) = pieces [.ok text] :=
  (bind_pure_unit).symm

/-- Pieces put together are written one after the other. -/
lemma pieces_append (some more : List Piece) :
    (pieces (some ++ more) : Write σ Unit) = (do pieces some; pieces more) := by
  induction some with
  | nil => exact (pure_bind _ _).symm
  | cons piece rest ih =>
    cases piece with
    | ok text =>
      rw [List.cons_append, pieces, pieces, ih, bind_assoc]
    | error error => rfl

/-- A place around the writing of pieces is put around the errors among them. -/
lemma within_pieces (label : Label) (some : List Piece) :
    Write.within label (pieces some : Write σ Unit) =
      pieces (some.map (TreeTemplate.within label)) := by
  induction some with
  | nil => rfl
  | cons piece rest ih =>
    cases piece with
    | error error => rfl
    | ok text =>
      funext sink
      rw [List.map_cons, within_ok, pieces, pieces, ← ih, within, bind_apply, bind_apply, put]
      cases Sink.put sink text with
      | mk sink refusal =>
        cases refusal with
        | none => rfl
        | some reason => rfl

/-- A walk that writes item by item writes the pieces of the items. -/
lemma walk_eq_pieces {α : Type} {walk : List α → Write σ Unit} {write : α → Write σ Unit}
    {piecesOf : α → List Piece} {as : List α} (nil : walk [] = pure ())
    (cons : ∀ a as, walk (a :: as) = (do write a; walk as))
    (each : ∀ a ∈ as, write a = pieces (piecesOf a)) :
    walk as = pieces (as.flatMap piecesOf) := by
  induction as with
  | nil => exact nil
  | cons a as ih =>
    obtain ⟨head, tail⟩ := List.forall_mem_cons.1 each
    rw [cons, head, ih tail, List.flatMap_cons, pieces_append]

end Write

section

variable {σ : Type} [Sink σ]

namespace Value

variable {treat : String → String}

lemma piecesEach_eq_map (items : List Value) :
    piecesEach treat items = items.map (pieces treat) := by
  induction items with
  | nil => rfl
  | cons item rest ih => rw [piecesEach, ih, List.map_cons]

/-- To write a value is to write its pieces. -/
lemma write_eq_pieces (value : Value) :
    (value.write treat : Write σ Unit) = .pieces (value.pieces treat) := by
  induction value with
  | none => rfl
  | bool | integer | float | string => exact Write.put_eq_pieces _
  | list items ih =>
    rw [pieces, piecesEach_eq_map, ← List.flatMap_def]
    exact Write.walk_eq_pieces rfl (fun _ _ => rfl) ih
  | map entries => rfl

end Value

namespace Node

/-- The pieces of an attribute: none, its bare name, or its value between its name and a quote. -/
def attributePieces (attr : String × Node) : List Piece :=
  match attr.2.attributeForm with
  | .absent => []
  | .bare => [.ok (" " ++ attr.1)]
  | .quoted =>
    .ok (" " ++ attr.1 ++ "=\x22") :: attr.2.pieces.map (TreeTemplate.within (.attribute attr.1))
      ++ [.ok "\x22"]

lemma piecesEach_eq_map (nodes : List Node) : piecesEach nodes = nodes.map pieces := by
  induction nodes with
  | nil => rfl
  | cons node rest ih => rw [piecesEach, ih, List.map_cons]

lemma piecesAttrs_eq_map (attrs : List (String × Node)) :
    piecesAttrs attrs = attrs.map attributePieces := by
  induction attrs with
  | nil => rfl
  | cons attr rest ih => rw [piecesAttrs, ih]; rfl

/-- The pieces of an element are its opening tag with the attributes, its children and its closing
tag, and an error in one of them is inside the element. -/
lemma pieces_element (tag : String) (attrs : Option (List (String × Node)))
    (children : List Node) :
    (element tag attrs children).pieces = List.map (TreeTemplate.within (.element tag))
      (.ok ("<" ++ tag) :: (attrs.getD []).flatMap attributePieces
        ++ .ok ">" :: children.flatMap pieces ++ [.ok ("</" ++ tag ++ ">")]) := by
  rw [List.flatMap_def (f := pieces), ← piecesEach_eq_map]
  cases attrs with
  | none => rfl
  | some attrs =>
    rw [Option.getD_some, List.flatMap_def, ← piecesAttrs_eq_map]
    rfl

lemma pieces_concat (nodes : List Node) : (concat nodes).pieces = nodes.flatMap pieces := by
  rw [pieces, piecesEach_eq_map, ← List.flatMap_def]

lemma pieces_group (nodes : List Node) : (group nodes).pieces = nodes.flatMap pieces := by
  rw [pieces, piecesEach_eq_map, ← List.flatMap_def]

/-- Joined nodes behind the first have a space in front of each. -/
lemma pieces_join_cons (first : Node) (rest : List Node) :
    (join (first :: rest)).pieces =
      first.pieces ++ rest.flatMap fun node => .ok " " :: node.pieces := by
  rw [pieces, piecesEach_eq_map, List.map_cons, intercalate_cons_eq_flatMap, List.flatMap_map]
  rfl

/-- Writes one attribute. -/
def writeAttr (attr : String × Node) : Write σ Unit :=
  match attr.2.attributeForm with
  | .absent => pure ()
  | .bare => .put (" " ++ attr.1)
  | .quoted => do
    .put (" " ++ attr.1 ++ "=\x22")
    .within (.attribute attr.1) attr.2.write
    .put "\x22"

/-- Attributes are written one after the other. -/
lemma writeAttrs_cons (attr : String × Node) (rest : List (String × Node)) :
    writeAttrs (attr :: rest) = (do writeAttr attr; writeAttrs rest : Write σ Unit) := by
  rw [writeAttrs, writeAttr]
  cases attr.2.attributeForm with
  | absent => rfl
  | bare => rfl
  | quoted => simp only [bind_assoc]

/-- An attribute writes its pieces if its value does. -/
lemma writeAttr_eq_pieces {attr : String × Node}
    (value : (attr.2.write : Write σ Unit) = .pieces attr.2.pieces) :
    (writeAttr attr : Write σ Unit) = .pieces (attributePieces attr) := by
  rw [writeAttr, attributePieces]
  cases attr.2.attributeForm with
  | absent => rfl
  | bare => exact Write.put_eq_pieces _
  | quoted =>
    simp only [value, Write.within_pieces, Write.put_eq_pieces, ← Write.pieces_append,
      List.cons_append, List.nil_append]

/-- A list of nodes writes its pieces if each node does. -/
lemma writeEach_eq_pieces {nodes : List Node}
    (each : ∀ node ∈ nodes, (node.write : Write σ Unit) = .pieces node.pieces) :
    (writeEach nodes : Write σ Unit) = .pieces (nodes.flatMap pieces) :=
  Write.walk_eq_pieces rfl (fun _ _ => rfl) each

/-- Nodes with a space in front write their pieces if each node does. -/
lemma writeSpaced_eq_pieces {nodes : List Node}
    (each : ∀ node ∈ nodes, (node.write : Write σ Unit) = .pieces node.pieces) :
    (writeSpaced nodes : Write σ Unit) =
      .pieces (nodes.flatMap fun node => .ok " " :: node.pieces) := by
  have spaced : ∀ node ∈ nodes,
      (do .put " "; node.write : Write σ Unit) = .pieces (.ok " " :: node.pieces) := by
    intro node among
    rw [each node among, Write.pieces]
  refine Write.walk_eq_pieces rfl (fun node rest => ?_) spaced
  rw [bind_assoc]
  rfl

/-- An element writes its pieces if its attribute values and children do. -/
lemma write_element_eq_pieces {tag : String} {attrs : Option (List (String × Node))}
    {children : List Node}
    (inAttrs : ∀ attr ∈ attrs.getD [], (attr.2.write : Write σ Unit) = .pieces attr.2.pieces)
    (inChildren : ∀ child ∈ children, (child.write : Write σ Unit) = .pieces child.pieces) :
    ((element tag attrs children).write : Write σ Unit) =
      .pieces (element tag attrs children).pieces := by
  have attributes : (writeAttrs (attrs.getD []) : Write σ Unit) =
      .pieces ((attrs.getD []).flatMap attributePieces) :=
    Write.walk_eq_pieces rfl writeAttrs_cons fun attr among => writeAttr_eq_pieces (inAttrs attr among)
  -- an element without attributes is written like one with an empty collection of them
  have opened : ((element tag attrs children).write : Write σ Unit) =
      .within (.element tag) (do
        .put ("<" ++ tag)
        writeAttrs (attrs.getD [])
        .put ">"
        writeEach children
        .put ("</" ++ tag ++ ">")) := by
    cases attrs with
    | none => rfl
    | some attrs => rfl
  rw [opened, attributes, writeEach_eq_pieces inChildren, pieces_element]
  simp only [Write.put_eq_pieces, ← Write.pieces_append, Write.within_pieces, List.cons_append,
    List.nil_append, List.append_assoc]

/-- To write a tree to any sink is to write its pieces. -/
theorem write_eq_pieces (node : Node) : (node.write : Write σ Unit) = .pieces node.pieces := by
  induction node with
  | element tag attrs children inAttrs inChildren =>
    exact write_element_eq_pieces inAttrs inChildren
  | var | raw | block => rfl
  | join nodes ih =>
    cases nodes with
    | nil => rfl
    | cons first rest =>
      obtain ⟨head, tail⟩ := List.forall_mem_cons.1 ih
      rw [write, head, writeSpaced_eq_pieces tail, ← Write.pieces_append, pieces_join_cons]
  | concat nodes ih =>
    rw [pieces_concat]
    exact writeEach_eq_pieces ih
  | group nodes ih =>
    rw [pieces_group]
    exact writeEach_eq_pieces ih
  | literal value => exact value.write_eq_pieces
  | unescaped value => exact value.write_eq_pieces

end Node

end

/-- Pieces are texts to their end, or up to a first error. -/
lemma texts_or_error (pieces : List Piece) :
    (∃ texts : List String, pieces = texts.map .ok)
      ∨ ∃ (texts : List String) (error : Error) (rest : List Piece),
        pieces = texts.map .ok ++ .error error :: rest := by
  induction pieces with
  | nil => exact .inl ⟨[], rfl⟩
  | cons piece rest ih =>
    cases piece with
    | error error => exact .inr ⟨[], error, rest, rfl⟩
    | ok text =>
      obtain ⟨texts, rfl⟩ | ⟨texts, error, rest, rfl⟩ := ih
      · exact .inl ⟨text :: texts, rfl⟩
      · exact .inr ⟨text :: texts, error, rest, rfl⟩

end TreeTemplate
