import TreeTemplate.Proofs.Expansion.Alike
import TreeTemplate.Proofs.Markup.Text

/-!
# Delimiters of markup

Tags, attributes and their quotes begin and end with one of four characters.  Escaped text has none
of them (`Markup.delimiters_escape`), so the delimiters of serialized markup come from the template,
from its unescaped values, and from raw references.  Without raw references two contexts that differ
in the texts of their strings only give markup with the same delimiters in the same order:
`Engine.expandFrom_toText_sameDelimiters`.
-/

namespace TreeTemplate

namespace Markup

/-- Whether a character begins or ends tags and quoted texts. -/
def isDelimiter (c : Char) : Bool :=
  c == '<' || c == '>' || c == '\x22' || c == '\x27'

/-- The delimiters in a text, in order. -/
def delimiters (text : String) : List Char :=
  text.toList.filter isDelimiter

/-- Texts that are the same once everything but delimiters is deleted. -/
def SameDelimiters (text other : String) : Prop :=
  delimiters text = delimiters other

/-- What a character is escaped to has no delimiter. -/
lemma filter_isDelimiter_escapeChar (c : Char) : (escapeChar c).filter isDelimiter = [] := by
  unfold escapeChar
  split
  · rfl
  · rfl
  · rfl
  · rfl
  · rfl
  · rename_i lt gt amp quote apostrophe
    have plain : isDelimiter c = false := by
      simp only [isDelimiter, Bool.or_eq_false_iff, beq_eq_false_iff_ne]
      exact ⟨⟨⟨lt, gt⟩, quote⟩, apostrophe⟩
    rw [List.filter_cons_of_neg (Bool.eq_false_iff.1 plain), List.filter_nil]

/-- Escaped text has no delimiter. -/
lemma delimiters_escape (text : String) : delimiters (escape text) = [] := by
  rw [delimiters, escape, String.toList_ofList, List.filter_flatMap, List.flatMap_eq_nil_iff]
  exact fun c _ => filter_isDelimiter_escapeChar c

lemma SameDelimiters.refl (text : String) : SameDelimiters text text :=
  Eq.refl (delimiters text)

/-- Texts put together have the same delimiters if they do pairwise. -/
lemma SameDelimiters.append {text text' other other' : String} (h : SameDelimiters text text')
    (h' : SameDelimiters other other') : SameDelimiters (text ++ other) (text' ++ other') := by
  simp only [SameDelimiters, delimiters] at h h' ⊢
  rw [String.toList_append, String.toList_append, List.filter_append, List.filter_append, h, h']

/-- Lists of texts joined have the same delimiters if they do one by one. -/
lemma SameDelimiters.join {texts others : List String}
    (h : List.Forall₂ SameDelimiters texts others) :
    SameDelimiters (String.join texts) (String.join others) := by
  induction h with
  | nil => exact .refl _
  | cons head _ ih =>
    rw [String.join_cons, String.join_cons]
    exact head.append ih

end Markup

open Markup (SameDelimiters)

/-- Alike values are escaped to texts without delimiters, or both have no text. -/
lemma Value.Alike.toText {value other : Value} (h : value.Alike other) :
    Agree SameDelimiters (value.toText Markup.escape) (other.toText Markup.escape) := by
  induction value generalizing other with
  | none | bool | integer | float =>
    cases h
    exact .refl SameDelimiters.refl _
  | string text =>
    cases h with
    | @string _ other =>
      have same : SameDelimiters (Markup.escape text) (Markup.escape other) := by
        rw [SameDelimiters, Markup.delimiters_escape, Markup.delimiters_escape]
      rw [toText_string, toText_string]
      exact .ok same
  | list items ih =>
    cases h with
    | list alike =>
      rw [toText_list, toText_list]
      have texts := Agree.mapM (forall₂_imp_mem alike fun item among other => ih item among)
      exact texts.map fun _ _ => SameDelimiters.join
  | map entries =>
    cases h with
    | map => exact .error _

namespace Node

/-- Alike nodes are written in the same way as values of attributes. -/
lemma Alike.attributeForm_eq {node other : Node} (h : node.Alike other) :
    node.attributeForm = other.attributeForm := by
  cases h with
  | literal alike => cases alike <;> rfl
  | unescaped | element | concat | group => rfl

/-- Attributes of the same name with alike values have texts with the same delimiters. -/
lemma attributeText_alike {name : String} {node other : Node} (h : node.Alike other)
    (texts : Agree SameDelimiters node.toText other.toText) :
    Agree SameDelimiters (attributeText (name, node)) (attributeText (name, other)) := by
  rw [attributeText, attributeText, h.attributeForm_eq]
  cases other.attributeForm with
  | absent => exact .ok rfl
  | bare => exact .ok rfl
  | quoted =>
    refine (texts.within (.attribute name)).bind fun text text' same => .ok ?_
    exact ((SameDelimiters.refl _).append same).append (.refl _)

/-- Alike trees have texts with the same delimiters, or no text for the same reason. -/
lemma Alike.toText {node other : Node} (h : node.Alike other) :
    Agree SameDelimiters node.toText other.toText := by
  induction node generalizing other with
  | element tag attrs children ihAttrs ihChildren =>
    cases h with
    | element alikeAttrs alikeChildren =>
      rw [toText_element, toText_element]
      have attrTexts : List.Forall₂ (fun attr attr' =>
          Agree SameDelimiters (attributeText attr) (attributeText attr')) _ _ :=
        forall₂_imp_mem alikeAttrs fun attr among attr' related => by
          cases related with
          | mk alike => exact attributeText_alike alike (ihAttrs _ among alike)
      have attrsAgree := (Agree.mapM attrTexts).map fun _ _ => SameDelimiters.join
      have texts := Agree.mapM (forall₂_imp_mem alikeChildren fun node among other =>
        ihChildren node among)
      have rowsAgree := texts.map fun _ _ => SameDelimiters.join
      refine Agree.within _ (attrsAgree.bind fun attrs attrs' sameAttrs => ?_)
      refine rowsAgree.bind fun row row' sameRow => .ok ?_
      have opening := ((SameDelimiters.refl ("<" ++ tag)).append sameAttrs).append (.refl ">")
      exact (opening.append sameRow).append (.refl _)
  | concat nodes ih =>
    cases h with
    | concat alike =>
      rw [toText_concat, toText_concat]
      have texts := Agree.mapM (forall₂_imp_mem alike fun node among other => ih node among)
      exact texts.map fun _ _ => SameDelimiters.join
  | group nodes ih =>
    cases h with
    | group alike =>
      rw [toText_group, toText_group]
      have texts := Agree.mapM (forall₂_imp_mem alike fun node among other => ih node among)
      exact texts.map fun _ _ => SameDelimiters.join
  | literal value =>
    cases h with
    | literal alike =>
      rw [toText_literal, toText_literal]
      exact alike.toText
  | unescaped value =>
    cases h with
    | unescaped =>
      -- unescaped values are those of the template, the same in both runs
      exact .refl SameDelimiters.refl _
  | var | raw | block | join => cases h

end Node

/-- Contexts that differ in the texts of their strings only give markup with the same delimiters, or
fail with the same error, if the template has no raw references and all helpers are builtin. -/
theorem Engine.expandFrom_toText_sameDelimiters {engine : Engine} (builtin : engine.OnlyBuiltins)
    {template : Node} (escaped : ∀ path, ¬ (Node.raw path).OccursIn template)
    {context context' : Value} (alike : context.Alike context') :
    Agree SameDelimiters (engine.expandFrom (.tree template) context >>= Node.toText)
      (engine.expandFrom (.tree template) context' >>= Node.toText) := by
  have expansions : (engine.expansion context).Alike (engine.expansion context') :=
    ⟨rfl, rfl, alike⟩
  have runs := expansions.run builtin engine.maxDepth.toNat alike escaped
  rw [expandFrom_tree, expandFrom_tree]
  have roots := runs.map fun _ _ => Node.toRoot_alike
  exact roots.bind fun _ _ same => same.toText

/-- Quotes and brackets in a context neither end the attribute nor add an element. -/
theorem Engine.expandFrom_toText_sameDelimiters_of_quoted_link :
    let link : Node :=
      .block "if" (.current ["name"])
        [.element "a" (some [("href", .var (.current ["url"]))]) [.var (.current ["name"])]]
    let context : Value := .map [("name", .string "home"), ("url", .string "/")]
    let context' : Value :=
      .map [("name", .string "</a><b>"), ("url", .string "\x22 onclick=\x22'")]
    Engine.new.OnlyBuiltins ∧ (∀ path, ¬ (Node.raw path).OccursIn link) ∧ context.Alike context'
      ∧ Agree SameDelimiters (Engine.new.expandFrom (.tree link) context >>= Node.toText)
        (Engine.new.expandFrom (.tree link) context' >>= Node.toText) := by
  intro link context context'
  have escaped : ∀ path, ¬ (Node.raw path).OccursIn link := by
    grind [cases Node.OccursIn, Node.parts]
  have alike : context.Alike context' :=
    .map (.cons (.mk (.string (by decide))) (.cons (.mk (.string (by decide))) .nil))
  refine ⟨Engine.new_onlyBuiltins, escaped, alike, ?_⟩
  exact expandFrom_toText_sameDelimiters Engine.new_onlyBuiltins escaped alike

end TreeTemplate
