import TreeTemplate.Proofs.Markup.Content
import TreeTemplate.Proofs.Name

/-!
# Reading markup

`Markup.scan` reads the contents of markup from left to right, one character at a time.  It keeps the
elements that are open, and for the innermost the row that has been read so far; the mode says what
the next character belongs to.  A text ends at `<` only and a quoted value at a quote only, and
escaped texts have none of these, so nothing in a text is taken for markup.  Names have no space,
bracket, quote or equals sign, so each name ends where it should.

Reading is described by `Scanner.Reads`.  Names, attributes and rows are read whatever stands around
them, and so the markup of every row is read back (`Markup.scan_rowMarkup`).
-/

namespace TreeTemplate.Markup

open Content (attrMarkup rowMarkup)

/-- An element that is open, and the row before it. -/
structure Frame where
  tag : String
  attrs : List (String × Option String)
  before : List Content

/-- What is being read, and what has been read of it. -/
inductive Mode where
  /-- A text between tags, its references not resolved. -/
  | text (raw : List Char)
  /-- The name in an opening tag. -/
  | tag (name : List Char)
  /-- The name of an attribute. -/
  | attr (tag : String) (attrs : List (String × Option String)) (name : List Char)
  /-- The quote in front of the value of an attribute. -/
  | value (tag : String) (attrs : List (String × Option String)) (name : String)
  /-- The value of an attribute, its references not resolved. -/
  | quoted (tag : String) (attrs : List (String × Option String)) (name : String) (raw : List Char)
  /-- What follows the value of an attribute. -/
  | behind (tag : String) (attrs : List (String × Option String))
  /-- The name in a closing tag. -/
  | closing (name : List Char)

/-- What has been read of markup. -/
structure Scanner where
  /-- The open elements, the innermost first. -/
  frames : List Frame
  /-- The row of the innermost open element. -/
  row : List Content
  mode : Mode

/-- A row with the text behind it, if there is any. -/
def flush (row : List Content) (raw : List Char) : List Content :=
  if raw = [] then row else row ++ [.text (unescape (String.ofList raw))]

namespace Scanner

/-- Reads a character in an opening tag that may end here: a space leads to an attribute, and the
bracket opens the element. -/
def stepTag (scanner : Scanner) (tag : String) (attrs : List (String × Option String))
    (otherwise : Option Mode) (c : Char) : Option Scanner :=
  if c = ' ' then some { scanner with mode := .attr tag attrs [] }
  else if c = '>' then some ⟨⟨tag, attrs, scanner.row⟩ :: scanner.frames, [], .text []⟩
  else otherwise.map fun mode => { scanner with mode }

/-- Closes the innermost open element, if it has the name. -/
def close (scanner : Scanner) (name : String) : Option Scanner :=
  match scanner.frames with
  | [] => none
  | frame :: frames =>
    if frame.tag = name then
      some ⟨frames, frame.before ++ [.element frame.tag frame.attrs scanner.row], .text []⟩
    else none

/-- Reads a character. -/
def step (scanner : Scanner) (c : Char) : Option Scanner :=
  match scanner.mode with
  | .text raw =>
    if c = '<' then some ⟨scanner.frames, flush scanner.row raw, .tag []⟩
    else some { scanner with mode := .text (raw ++ [c]) }
  | .tag name =>
    if c = '/' ∧ name = [] then some { scanner with mode := .closing [] }
    else scanner.stepTag (String.ofList name) [] (some (.tag (name ++ [c]))) c
  | .attr tag attrs name =>
    if c = '=' then some { scanner with mode := .value tag attrs (String.ofList name) }
    else
      scanner.stepTag tag (attrs ++ [(String.ofList name, none)])
        (some (.attr tag attrs (name ++ [c]))) c
  | .value tag attrs name =>
    if c = '\x22' then some { scanner with mode := .quoted tag attrs name [] } else none
  | .quoted tag attrs name raw =>
    if c = '\x22' then
      let value := unescape (String.ofList raw)
      some { scanner with mode := .behind tag (attrs ++ [(name, some value)]) }
    else some { scanner with mode := .quoted tag attrs name (raw ++ [c]) }
  | .behind tag attrs => scanner.stepTag tag attrs none c
  | .closing name =>
    if c = '>' then scanner.close (String.ofList name)
    else some { scanner with mode := .closing (name ++ [c]) }

/-- What has been read when the text is over: a row, if no element is open and no tag is cut off. -/
def finish : Scanner → Option (List Content)
  | ⟨[], row, .text raw⟩ => some (flush row raw)
  | _ => none

end Scanner

/-- Reads the contents of markup. -/
def scan (text : String) : Option (List Content) :=
  text.toList.foldlM Scanner.step ⟨[], [], .text []⟩ >>= Scanner.finish

namespace Scanner

/-- By reading characters one state is reached from another. -/
def Reads (scanner : Scanner) (chars : List Char) (after : Scanner) : Prop :=
  chars.foldlM step scanner = some after

variable {scanner middle after : Scanner} {frames : List Frame} {row : List Content} {tag : String}
  {attrs : List (String × Option String)}

lemma Reads.refl (scanner : Scanner) : scanner.Reads [] scanner := rfl

/-- Readings follow on each other. -/
lemma Reads.trans {chars more : List Char} (h : scanner.Reads chars middle)
    (h' : middle.Reads more after) : scanner.Reads (chars ++ more) after := by
  rw [Reads, List.foldlM_append, h]
  exact h'

lemma Reads.cons {c : Char} {chars : List Char} (h : scanner.step c = some middle)
    (h' : middle.Reads chars after) : scanner.Reads (c :: chars) after := by
  rw [Reads, List.foldlM_cons, h]
  exact h'

lemma Reads.single {c : Char} (h : scanner.step c = some after) : scanner.Reads [c] after :=
  .cons h (.refl after)

/-- A mode that collects characters of a kind collects all of them. -/
lemma Reads.collect {mode : List Char → Mode} {P : Char → Prop}
    (one : ∀ raw c, P c →
      step ⟨frames, row, mode raw⟩ c = some ⟨frames, row, mode (raw ++ [c])⟩)
    {chars : List Char} (all : ∀ c ∈ chars, P c) :
    Reads ⟨frames, row, mode []⟩ chars ⟨frames, row, mode chars⟩ := by
  suffices ∀ raw, Reads ⟨frames, row, mode raw⟩ chars ⟨frames, row, mode (raw ++ chars)⟩ by
    simpa only [List.nil_append] using this []
  induction chars with
  | nil =>
    intro raw
    rw [List.append_nil]
    exact .refl _
  | cons c chars ih =>
    intro raw
    obtain ⟨head, tail⟩ := List.forall_mem_cons.1 all
    rw [List.append_cons]
    exact .cons (one raw c head) (ih tail _)

/-- Escaped text is read as it stands, since it has no angle bracket. -/
lemma reads_text (plain : String) :
    Reads ⟨frames, row, .text []⟩ (escape plain).toList
      ⟨frames, row, .text (escape plain).toList⟩ := by
  refine .collect (fun raw c plain => ?_) fun c => notDelimiter_of_mem_escape
  have other : c ≠ '<' := by
    rintro rfl
    cases plain
  rw [step]
  exact if_neg other

/-- Escaped text between quotes is read as it stands, since it has no quote. -/
lemma reads_quoted (value name : String) :
    Reads ⟨frames, row, .quoted tag attrs name []⟩ (escape value).toList
      ⟨frames, row, .quoted tag attrs name (escape value).toList⟩ := by
  refine .collect (fun raw c plain => ?_) fun c => notDelimiter_of_mem_escape
  have other : c ≠ '\x22' := by
    rintro rfl
    cases plain
  rw [step]
  exact if_neg other

/-- In an opening tag other characters than space and bracket belong to the name. -/
lemma stepTag_of_isTagPart {c : Char} (part : isTagPart c) (otherwise : Mode) :
    scanner.stepTag tag attrs (some otherwise) c = some { scanner with mode := otherwise } := by
  rw [stepTag, if_neg (ne_of_isTagPart part rfl), if_neg (ne_of_isTagPart part rfl)]
  rfl

/-- A tag name is read to its end. -/
lemma reads_tag {name : String} (valid : isTagName name) :
    Reads ⟨frames, row, .tag []⟩ name.toList ⟨frames, row, .tag name.toList⟩ := by
  refine .collect (fun raw c part => ?_) (chars_of_isTagName valid)
  rw [step]
  refine (if_neg ?_).trans (stepTag_of_isTagPart part _)
  exact fun slash => ne_of_isTagPart part rfl slash.1

lemma reads_attr {name : String} (valid : isTagName name) :
    Reads ⟨frames, row, .attr tag attrs []⟩ name.toList
      ⟨frames, row, .attr tag attrs name.toList⟩ := by
  refine .collect (fun raw c part => ?_) (chars_of_isTagName valid)
  rw [step]
  exact (if_neg (ne_of_isTagPart part rfl)).trans (stepTag_of_isTagPart part _)

lemma reads_closing {name : String} (valid : isTagName name) :
    Reads ⟨frames, row, .closing []⟩ name.toList ⟨frames, row, .closing name.toList⟩ := by
  refine .collect (fun raw c part => ?_) (chars_of_isTagName valid)
  rw [step]
  exact if_neg (ne_of_isTagPart part rfl)

end Scanner

/-- What an opening tag has said, if it may end where it is. -/
def Mode.opened? : Mode → Option (String × List (String × Option String))
  | .tag name => some (String.ofList name, [])
  | .attr element attrs name => some (element, attrs ++ [(String.ofList name, none)])
  | .behind element attrs => some (element, attrs)
  | _ => none

namespace Scanner

variable {frames : List Frame} {row : List Content} {tag : String}
  {attrs : List (String × Option String)} {mode : Mode}

/-- Where an opening tag may end, a space leads to an attribute. -/
lemma step_space (opened : mode.opened? = some (tag, attrs)) :
    step ⟨frames, row, mode⟩ ' ' = some ⟨frames, row, .attr tag attrs []⟩ := by
  cases mode with
  | tag | attr | behind =>
    cases opened
    rfl
  | text | value | quoted | closing => cases opened

/-- Where an opening tag may end, a bracket opens the element. -/
lemma step_open (opened : mode.opened? = some (tag, attrs)) :
    step ⟨frames, row, mode⟩ '>' = some ⟨⟨tag, attrs, row⟩ :: frames, [], .text []⟩ := by
  cases mode with
  | tag | attr | behind =>
    cases opened
    rfl
  | text | value | quoted | closing => cases opened

/-- Behind its name the value of an attribute is read. -/
lemma reads_value (name value : String) :
    Reads ⟨frames, row, .attr tag attrs name.toList⟩
      ('=' :: '\x22' :: ((escape value).toList ++ ['\x22']))
      ⟨frames, row, .behind tag (attrs ++ [(name, some value)])⟩ := by
  have equals : step ⟨frames, row, .attr tag attrs name.toList⟩ '='
      = some ⟨frames, row, .value tag attrs name⟩ := by
    rw [step]
    exact (if_pos rfl).trans (by rw [String.ofList_toList])
  have quote : step ⟨frames, row, .quoted tag attrs name (escape value).toList⟩ '\x22'
      = some ⟨frames, row, .behind tag (attrs ++ [(name, some value)])⟩ := by
    rw [step]
    exact (if_pos rfl).trans (by rw [String.ofList_toList, unescape_escape])
  exact .cons equals (.cons rfl ((reads_quoted value name).trans (.single quote)))

/-- An attribute is read where an opening tag may end, and the tag may end behind it. -/
lemma reads_attrMarkup {attr : String × Option String} (valid : isTagName attr.1)
    (opened : mode.opened? = some (tag, attrs)) :
    ∃ after : Mode, Reads ⟨frames, row, mode⟩ (attrMarkup attr).toList ⟨frames, row, after⟩
      ∧ after.opened? = some (tag, attrs ++ [attr]) := by
  obtain ⟨name, value⟩ := attr
  have named : Reads ⟨frames, row, mode⟩ (" " ++ name).toList
      ⟨frames, row, .attr tag attrs name.toList⟩ := by
    rw [String.toList_append]
    exact .cons (step_space opened) (reads_attr valid)
  cases value with
  | none =>
    refine ⟨.attr tag attrs name.toList, named, ?_⟩
    rw [Mode.opened?, String.ofList_toList]
  | some value =>
    refine ⟨.behind tag (attrs ++ [(name, some value)]), ?_, rfl⟩
    have chars : (attrMarkup (name, some value)).toList =
        (" " ++ name).toList ++ '=' :: '\x22' :: ((escape value).toList ++ ['\x22']) := by
      have equals : ("=\x22" : String).toList = ['=', '\x22'] := rfl
      have quote : ("\x22" : String).toList = ['\x22'] := rfl
      rw [attrMarkup, String.toList_append, String.toList_append, String.toList_append, equals,
        quote]
      simp only [List.append_assoc, List.cons_append, List.nil_append]
    rw [chars]
    exact named.trans (reads_value name value)

/-- The attributes of an opening tag are read one after the other, behind those read already. -/
lemma reads_attrs {more : List (String × Option String)} (valid : ∀ attr ∈ more, isTagName attr.1)
    (opened : mode.opened? = some (tag, attrs)) (frames : List Frame) (row : List Content) :
    ∃ after : Mode,
      Reads ⟨frames, row, mode⟩ (String.join (more.map attrMarkup)).toList ⟨frames, row, after⟩
      ∧ after.opened? = some (tag, attrs ++ more) := by
  induction more generalizing mode attrs with
  | nil => exact ⟨mode, .refl _, by rw [List.append_nil, opened]⟩
  | cons attr more ih =>
    obtain ⟨head, tail⟩ := List.forall_mem_cons.1 valid
    obtain ⟨middle, first, opened⟩ := reads_attrMarkup head opened
    obtain ⟨after, rest, opened⟩ := ih tail opened
    refine ⟨after, ?_, ?_⟩
    · rw [List.map_cons, String.join_cons, String.toList_append]
      exact first.trans rest
    · rw [opened, List.append_assoc, List.singleton_append]

/-- An opening tag opens a frame with what was read before it. -/
lemma reads_opening {raw : List Char} (name : isTagName tag)
    (names : ∀ attr ∈ attrs, isTagName attr.1) :
    Reads ⟨frames, row, .text raw⟩
      ("<" ++ tag ++ String.join (attrs.map attrMarkup) ++ ">").toList
      ⟨⟨tag, attrs, flush row raw⟩ :: frames, [], .text []⟩ := by
  have opened : (Mode.tag tag.toList).opened? = some (tag, []) := by
    rw [Mode.opened?, String.ofList_toList]
  obtain ⟨mode, inAttrs, opened⟩ := reads_attrs names opened frames (flush row raw)
  have bracket : step ⟨frames, row, .text raw⟩ '<' = some ⟨frames, flush row raw, .tag []⟩ := rfl
  have opens := inAttrs.trans (.single (step_open opened))
  have chars : ("<" ++ tag ++ String.join (attrs.map attrMarkup) ++ ">").toList =
      '<' :: (tag.toList ++ ((String.join (attrs.map attrMarkup)).toList ++ ['>'])) := by
    rw [String.toList_append, String.toList_append, String.toList_append, List.append_assoc,
      List.append_assoc]
    rfl
  rw [chars]
  exact .cons bracket ((reads_tag name).trans opens)

/-- A closing tag that fits closes the frame: its element goes behind what was read before it. -/
lemma reads_closingTag {raw : List Char} {before : List Content} (name : isTagName tag) :
    Reads ⟨⟨tag, attrs, before⟩ :: frames, row, .text raw⟩ ("</" ++ tag ++ ">").toList
      ⟨frames, before ++ [.element tag attrs (flush row raw)], .text []⟩ := by
  have bracket : step ⟨⟨tag, attrs, before⟩ :: frames, row, .text raw⟩ '<'
      = some ⟨⟨tag, attrs, before⟩ :: frames, flush row raw, .tag []⟩ := rfl
  have slash : step ⟨⟨tag, attrs, before⟩ :: frames, flush row raw, .tag []⟩ '/'
      = some ⟨⟨tag, attrs, before⟩ :: frames, flush row raw, .closing []⟩ := rfl
  have closes : step ⟨⟨tag, attrs, before⟩ :: frames, flush row raw, .closing tag.toList⟩ '>'
      = some ⟨frames, before ++ [.element tag attrs (flush row raw)], .text []⟩ := by
    rw [step]
    refine (if_pos rfl).trans ?_
    rw [close, String.ofList_toList]
    exact if_pos rfl
  have chars : ("</" ++ tag ++ ">").toList = '<' :: '/' :: (tag.toList ++ ['>']) := by
    rw [String.toList_append, String.toList_append, List.append_assoc]
    rfl
  rw [chars]
  exact .cons bracket (.cons slash ((reads_closing name).trans (.single closes)))

/-- An element is read as the row inside it is. -/
lemma reads_element {raw innerRaw : List Char} {children inner : List Content}
    (name : isTagName tag) (names : ∀ attr ∈ attrs, isTagName attr.1)
    (inside : Reads ⟨⟨tag, attrs, flush row raw⟩ :: frames, [], .text []⟩ (rowMarkup children).toList
      ⟨⟨tag, attrs, flush row raw⟩ :: frames, inner, .text innerRaw⟩)
    (innerRow : flush inner innerRaw = children) :
    Reads ⟨frames, row, .text raw⟩ (Content.element tag attrs children).markup.toList
      ⟨frames, flush row raw ++ [.element tag attrs children], .text []⟩ := by
  have reads := ((reads_opening name names).trans inside).trans (reads_closingTag name)
  rw [Content.markup, String.toList_append, String.toList_append]
  rw [innerRow] at reads
  exact reads

end Scanner

lemma flush_nil (row : List Content) : flush row [] = row := rfl

/-- Text that was read goes into the row as it was before it was escaped. -/
lemma flush_escape {plain : String} (nonempty : plain ≠ "") (row : List Content) :
    flush row (escape plain).toList = row ++ [.text plain] := by
  rw [flush, if_neg (escape_ne_empty nonempty), String.ofList_toList, unescape_escape]

open Scanner

/-- The markup of a row is read behind any text that the row does not continue, and what has been
read then is the row behind what was read before. -/
lemma reads_rowMarkup {contents : List Content} (h : Content.Row contents) (frames : List Frame)
    (row : List Content) (raw : List Char)
    (apart : raw = [] ∨ ∀ plain rest, contents ≠ .text plain :: rest) :
    ∃ row' raw', Reads ⟨frames, row, .text raw⟩ (rowMarkup contents).toList
        ⟨frames, row', .text raw'⟩
      ∧ flush row' raw' = flush row raw ++ contents := by
  induction h generalizing frames row raw with
  | nil => exact ⟨row, raw, .refl _, (List.append_nil _).symm⟩
  | @element tag attrs children rest name names _ _ ihChildren ihRest =>
    -- the row of the element is read from the start, and the rest with no text before it
    obtain ⟨inner, innerRaw, inside, innerRow⟩ :=
      ihChildren (⟨tag, attrs, flush row raw⟩ :: frames) [] [] (.inl rfl)
    obtain ⟨row', raw', behind, whole⟩ :=
      ihRest frames (flush row raw ++ [.element tag attrs children]) [] (.inl rfl)
    refine ⟨row', raw', ?_, ?_⟩
    · rw [rowMarkup, String.toList_append]
      exact (reads_element name names inside innerRow).trans behind
    · rw [whole, flush_nil, List.append_assoc, List.singleton_append]
  | @last plain nonempty =>
    rcases apart with rfl | apart
    · refine ⟨row, (escape plain).toList, ?_, flush_escape nonempty row⟩
      rw [rowMarkup, rowMarkup, String.append_empty]
      exact reads_text plain
    · exact absurd rfl (apart plain [])
  | @text plain tag attrs children rest nonempty _ ih =>
    rcases apart with rfl | apart
    · have apart : ∀ text more, Content.element tag attrs children :: rest ≠ .text text :: more := by
        intro text more same
        cases same
      obtain ⟨row', raw', behind, whole⟩ := ih frames row (escape plain).toList (.inr apart)
      refine ⟨row', raw', ?_, ?_⟩
      · rw [rowMarkup, String.toList_append]
        exact (reads_text plain).trans behind
      · rw [whole, flush_escape nonempty, flush_nil, List.append_assoc, List.singleton_append]
    · exact absurd rfl (apart plain _)

/-- The markup of a row is read back. -/
theorem scan_rowMarkup {contents : List Content} (h : Content.Row contents) :
    scan (rowMarkup contents) = some contents := by
  obtain ⟨row, raw, reads, whole⟩ := reads_rowMarkup h [] [] [] (.inl rfl)
  rw [scan, reads]
  exact congrArg some whole

end TreeTemplate.Markup
