import TreeTemplate.Proofs.Markup.Pieces

/-!
# The text of a tree

The text of pieces is that of each behind the other, up to the first that is an error.  What is
written to a string is the text of the pieces that are written (`Node.toText_eq_textOf`), so the
text of a tree is given by the texts of its parts (`Node.toText_element` and the equations for the
other kinds), without a sink.
-/

namespace TreeTemplate

lemma join_singleton (text : String) : String.join [text] = text := by
  rw [String.join_cons, String.join_nil, String.append_empty]

/-- A separator between texts is one in front of each but the first. -/
lemma intercalate_cons (separator text : String) (texts : List String) :
    separator.intercalate (text :: texts) = text ++ String.join (texts.map (separator ++ ·)) := by
  induction texts generalizing text with
  | nil => rw [String.intercalate_singleton, List.map_nil, String.join_nil, String.append_empty]
  | cons next texts ih =>
    rw [String.intercalate_cons_cons, ih, List.map_cons, String.join_cons, String.append_assoc,
      String.append_assoc]

/-- The text of pieces, or the first error among them. -/
def textOf : List Piece → Except Error String
  | [] => .ok ""
  | piece :: rest => do return (← piece) ++ (← textOf rest)

lemma textOf_singleton (text : String) : textOf [.ok text] = .ok text :=
  congrArg Except.ok String.append_empty

/-- Pieces put together have their texts put together, or the first error. -/
lemma textOf_append (some more : List Piece) :
    textOf (some ++ more) = (do return (← textOf some) ++ (← textOf more)) := by
  induction some with
  | nil =>
    rw [List.nil_append, textOf, ok_bind]
    cases textOf more with
    | error error => rfl
    | ok text => exact congrArg Except.ok String.empty_append.symm
  | cons piece rest ih =>
    rw [List.cons_append, textOf, textOf, ih]
    cases piece with
    | error error => rfl
    | ok text =>
      cases textOf rest with
      | error error => rfl
      | ok row =>
        cases textOf more with
        | error error => rfl
        | ok behind => exact congrArg Except.ok String.append_assoc.symm

/-- The pieces of items in a row have the texts of the items with nothing between them. -/
lemma textOf_flatMap {α : Type} (piecesOf : α → List Piece) (as : List α) :
    textOf (as.flatMap piecesOf) = String.join <$> as.mapM fun a => textOf (piecesOf a) := by
  induction as with
  | nil => rfl
  | cons a as ih =>
    rw [List.flatMap_cons, textOf_append, ih, List.mapM_cons]
    cases textOf (piecesOf a) with
    | error error => rfl
    | ok text =>
      cases as.mapM fun a => textOf (piecesOf a) with
      | error error => rfl
      | ok texts => exact congrArg Except.ok String.join_cons.symm

/-- A place around pieces is put around the error that they have instead of a text. -/
lemma textOf_within (label : Label) (pieces : List Piece) :
    textOf (pieces.map (within label)) = within label (textOf pieces) := by
  induction pieces with
  | nil => rfl
  | cons piece rest ih =>
    rw [List.map_cons, textOf, textOf, ih]
    cases piece with
    | error error => rfl
    | ok text =>
      cases textOf rest with
      | error error => rfl
      | ok row => rfl

namespace Write

/-- What writing gives with an empty string as the sink. -/
def text (write : Write String Unit) : Except Error String :=
  match write "" with
  | (.ok (), text) => .ok text
  | (.error stop, _) => .error stop.toError

/-- Pieces are written behind what the string holds already. -/
lemma pieces_apply (some : List Piece) (taken : String) :
    (match (pieces some : Write String Unit) taken with
      | (.ok (), text) => .ok text
      | (.error stop, _) => .error stop.toError) = (taken ++ ·) <$> textOf some := by
  induction some generalizing taken with
  | nil => exact congrArg Except.ok String.append_empty.symm
  | cons piece rest ih =>
    cases piece with
    | error error => rfl
    | ok text =>
      refine (ih (taken ++ text)).trans ?_
      rw [textOf, ok_bind]
      cases textOf rest with
      | error error => rfl
      | ok row => exact congrArg Except.ok String.append_assoc

/-- What pieces write to a text is the text of the pieces. -/
lemma text_pieces (some : List Piece) : (pieces some : Write String Unit).text = textOf some := by
  refine (pieces_apply some "").trans ?_
  cases textOf some with
  | error error => rfl
  | ok text => exact congrArg Except.ok String.empty_append

end Write

namespace Value

variable {treat : String → String}

/-- The text of a value, its strings treated in some way. -/
def toText (treat : String → String) (value : Value) : Except Error String :=
  (value.write treat).text

/-- The text of a value is that of its pieces. -/
lemma toText_eq_textOf (value : Value) : value.toText treat = textOf (value.pieces treat) := by
  rw [toText, write_eq_pieces, Write.text_pieces]

/-- A value of one piece has the text of it. -/
lemma toText_of_pieces {value : Value} {text : String} (single : value.pieces treat = [.ok text]) :
    value.toText treat = .ok text := by
  rw [toText_eq_textOf, single, textOf_singleton]

lemma toText_string (text : String) : (string text).toText treat = .ok (treat text) :=
  toText_of_pieces rfl

/-- The text of a list is that of its items, with nothing in between. -/
lemma toText_list (items : List Value) :
    (list items).toText treat = String.join <$> items.mapM (toText treat) := by
  rw [toText_eq_textOf, pieces, piecesEach_eq_map, ← List.flatMap_def, textOf_flatMap]
  exact congrArg _ (mapM_congr fun item _ => item.toText_eq_textOf.symm)

end Value

namespace Node

/-- The text of an attribute: none, its bare name, or its name and its value in quotes. -/
def attributeText (attr : String × Node) : Except Error String :=
  match attr.2.attributeForm with
  | .absent => .ok ""
  | .bare => .ok (" " ++ attr.1)
  | .quoted => do
    let text ← within (.attribute attr.1) attr.2.toText
    return " " ++ attr.1 ++ "=\x22" ++ text ++ "\x22"

/-- The text of a tree is that of its pieces. -/
lemma toText_eq_textOf (node : Node) : node.toText = textOf node.pieces := by
  rw [← Write.text_pieces, ← write_eq_pieces]
  rfl

/-- The text of an attribute is that of its pieces. -/
lemma attributeText_eq_textOf (attr : String × Node) :
    attributeText attr = textOf (attributePieces attr) := by
  rw [attributeText, attributePieces]
  cases attr.2.attributeForm with
  | absent => rfl
  | bare => exact (textOf_singleton _).symm
  | quoted =>
    dsimp only
    rw [textOf_append, textOf, ok_bind, textOf_within, ← toText_eq_textOf, textOf_singleton]
    cases attr.2.toText with
    | error error => rfl
    | ok text => rfl

/-- The text of an element has its attributes inside the opening tag and its children behind it. -/
lemma toText_element (tag : String) (attrs : Option (List (String × Node)))
    (children : List Node) :
    (element tag attrs children).toText = within (.element tag) (do
      let attrs ← String.join <$> (attrs.getD []).mapM attributeText
      let row ← String.join <$> children.mapM toText
      return "<" ++ tag ++ attrs ++ ">" ++ row ++ ("</" ++ tag ++ ">")) := by
  have attributes : textOf ((attrs.getD []).flatMap attributePieces) =
      String.join <$> (attrs.getD []).mapM attributeText := by
    rw [textOf_flatMap]
    exact congrArg _ (mapM_congr fun attr _ => (attributeText_eq_textOf attr).symm)
  have row : textOf (children.flatMap pieces) = String.join <$> children.mapM toText := by
    rw [textOf_flatMap]
    exact congrArg _ (mapM_congr fun child _ => child.toText_eq_textOf.symm)
  rw [toText_eq_textOf, pieces_element, textOf_within, ← attributes, ← row, textOf_append,
    textOf_append, textOf_singleton]
  refine congrArg (within (.element tag)) ?_
  cases opening : textOf ((attrs.getD []).flatMap attributePieces) with
  | error error => simp only [textOf, opening, ok_bind, error_bind]
  | ok attrs =>
    cases behind : textOf (children.flatMap pieces) with
    | error error => simp only [textOf, opening, behind, ok_bind, error_bind, pure_eq_ok]
    | ok row => simp only [textOf, opening, behind, ok_bind, pure_eq_ok, String.append_assoc]

/-- The text of an element, if it has one, is made of those of its attributes and its children. -/
lemma toText_element_eq_ok {tag : String} {attrs : Option (List (String × Node))}
    {children : List Node} {text : String}
    (written : (element tag attrs children).toText = .ok text) :
    ∃ attrTexts childTexts, (attrs.getD []).mapM attributeText = .ok attrTexts
      ∧ children.mapM toText = .ok childTexts
      ∧ text = "<" ++ tag ++ String.join attrTexts ++ ">" ++ String.join childTexts
          ++ ("</" ++ tag ++ ">") := by
  rw [toText_element, within_eq_ok_iff] at written
  obtain ⟨attributes, opening, written⟩ := bind_eq_ok_iff.1 written
  obtain ⟨row, behind, written⟩ := bind_eq_ok_iff.1 written
  obtain ⟨attrTexts, attrWalk, rfl⟩ := map_eq_ok_iff.1 opening
  obtain ⟨childTexts, childWalk, rfl⟩ := map_eq_ok_iff.1 behind
  exact ⟨attrTexts, childTexts, attrWalk, childWalk, (Except.ok.inj written).symm⟩

/-- The texts of joined nodes have a space between each two. -/
lemma toText_join (nodes : List Node) :
    (join nodes).toText = String.intercalate " " <$> nodes.mapM toText := by
  cases nodes with
  | nil => rfl
  | cons first rest =>
    have spaced : (rest.mapM fun node => textOf (.ok " " :: node.pieces)) =
        List.map (" " ++ ·) <$> rest.mapM toText := by
      rw [← mapM_map_result]
      refine mapM_congr fun node _ => ?_
      rw [textOf, ok_bind, toText_eq_textOf]
      rfl
    rw [toText_eq_textOf, pieces_join_cons, textOf_append, textOf_flatMap, spaced, List.mapM_cons,
      ← toText_eq_textOf]
    -- the space between two texts is the one in front of the second
    cases first.toText with
    | error error => rfl
    | ok text =>
      cases rest.mapM toText with
      | error error => rfl
      | ok texts => exact congrArg Except.ok (intercalate_cons " " text texts).symm

lemma toText_concat (nodes : List Node) :
    (concat nodes).toText = String.join <$> nodes.mapM toText := by
  rw [toText_eq_textOf, pieces_concat, textOf_flatMap]
  exact congrArg _ (mapM_congr fun node _ => node.toText_eq_textOf.symm)

lemma toText_group (nodes : List Node) :
    (group nodes).toText = String.join <$> nodes.mapM toText := by
  rw [toText_eq_textOf, pieces_group, textOf_flatMap]
  exact congrArg _ (mapM_congr fun node _ => node.toText_eq_textOf.symm)

lemma toText_literal (value : Value) : (literal value).toText = value.toText Markup.escape := rfl

lemma toText_unescaped (value : Value) : (unescaped value).toText = value.toText id := rfl

end Node

end TreeTemplate
