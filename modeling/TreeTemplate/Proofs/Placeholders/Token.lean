import TreeTemplate.Proofs.Path.Characters
import TreeTemplate.Token

/-!
# Tokens can be told apart

The text of a token behind its first two braces starts with a brace, `#`, `/` or a character of a
path, and the parts inside hold none of the characters between them.  So tokens with valid parts are
equal if their texts are (`Token.text_injective`).
-/

namespace TreeTemplate

/-- A valid path is determined by its text. -/
lemma Path.text_injective {p q : Path} (hp : ofText? p.text = some p) (hq : ofText? q.text = some q)
    (eq : p.text = q.text) : p = q := by
  rw [eq, hq] at hp
  exact (Option.some.inj hp).symm

/-- A valid path followed by anything starts with no slash and no character foreign to paths. -/
lemma Path.text_append_ne {p : Path} (valid : ofText? p.text = some p) {c : Char}
    (foreign : isPathPart c = false ∨ c = '/') (more rest : List Char) :
    p.text.toList ++ more ≠ c :: rest := by
  obtain ⟨first, others, chars, slash, parts⟩ := chars_of_ofText? (Option.isSome_of_eq_some valid)
  rw [chars, List.cons_append]
  intro eq
  obtain ⟨rfl, -⟩ := List.cons.inj eq
  rcases foreign with foreign | rfl
  · rw [parts first List.mem_cons_self] at foreign
    cases foreign
  · exact slash rfl

namespace Token

/-- The paths in a token are valid and its helper is an identifier. -/
def Valid : Token → Prop
  | .var path | .raw path => Path.ofText? path.text = some path
  | .opening helper arg => isIdentifier helper ∧ Path.ofText? arg.text = some arg
  | .closing helper => isIdentifier helper

/-- A placeholder of a value is its path in double braces. -/
lemma toList_text_var (path : Path) :
    (var path).text.toList = '{' :: '{' :: (path.text.toList ++ ['}', '}']) := by
  simp [text]

lemma toList_text_raw (path : Path) :
    (raw path).text.toList = '{' :: '{' :: '{' :: (path.text.toList ++ ['}', '}', '}']) := by
  simp [text]

/-- The opening of a block is its helper and argument behind a hash, in double braces. -/
lemma toList_text_opening (helper : String) (arg : Path) :
    (opening helper arg).text.toList =
      '{' :: '{' :: '#' :: (helper.toList ++ ' ' :: (arg.text.toList ++ ['}', '}'])) := by
  simp [text]

lemma toList_text_closing (helper : String) :
    (closing helper).text.toList = '{' :: '{' :: '/' :: (helper.toList ++ ['}', '}']) := by
  simp [text]

/-- Only an escaped reference has the text of one. -/
lemma eq_var_of_text {token : Token} {path : Path} (valid : token.Valid)
    (validPath : Path.ofText? path.text = some path) (eq : token.text = (var path).text) :
    token = .var path := by
  have chars := congrArg String.toList eq
  rw [toList_text_var] at chars
  cases token with
  | var other =>
    rw [toList_text_var, List.cons.injEq, List.cons.injEq, List.append_cancel_right_eq,
      String.toList_inj] at chars
    rw [Path.text_injective valid validPath chars.2.2]
  | raw other =>
    rw [toList_text_raw, List.cons.injEq, List.cons.injEq] at chars
    exact absurd chars.2.2.symm (Path.text_append_ne validPath (.inl (by decide)) _ _)
  | opening helper arg =>
    rw [toList_text_opening, List.cons.injEq, List.cons.injEq] at chars
    exact absurd chars.2.2.symm (Path.text_append_ne validPath (.inl (by decide)) _ _)
  | closing helper =>
    rw [toList_text_closing, List.cons.injEq, List.cons.injEq] at chars
    exact absurd chars.2.2.symm (Path.text_append_ne validPath (.inr rfl) _ _)

/-- Openings of blocks with the same text have the same helper and the same path. -/
lemma opening_eq_of_text {helper other : String} {arg path : Path}
    (valid : (opening helper arg).Valid) (validOther : (opening other path).Valid)
    (eq : (opening helper arg).text = (opening other path).text) :
    opening helper arg = .opening other path := by
  have chars := congrArg String.toList eq
  simp only [toList_text_opening, List.cons.injEq, true_and] at chars
  -- neither the helper nor the path holds a space, so both texts are cut at the one between them
  have noSpace : ' ' ∉ helper.toList := notMem_of_isIdentifier valid.1 (by decide)
  have noSpaceBehind : ' ' ∉ arg.text.toList ++ ['}', '}'] := by
    rw [List.mem_append, not_or]
    exact ⟨Path.notMem_of_ofText? (Option.isSome_of_eq_some valid.2) (by decide), by decide⟩
  obtain ⟨sameHelper, -, samePath⟩ := (List.append_cons_inj_of_notMem noSpace noSpaceBehind).1 chars
  rw [List.append_cancel_right_eq, String.toList_inj] at samePath
  rw [String.toList_inj.1 sameHelper, Path.text_injective valid.2 validOther.2 samePath]

/-- Tokens with valid parts are equal if their texts are. -/
theorem text_injective {token other : Token} (valid : token.Valid) (validOther : other.Valid)
    (eq : token.text = other.text) : token = other := by
  -- different kinds of tokens differ in the character behind the first two braces
  cases token with
  | var path => exact (eq_var_of_text validOther valid eq.symm).symm
  | raw path =>
    cases other with
    | var other => exact eq_var_of_text valid validOther eq
    | raw other =>
      have chars := congrArg String.toList eq
      simp only [toList_text_raw, List.cons.injEq, true_and, List.append_cancel_right_eq,
        String.toList_inj] at chars
      rw [Path.text_injective valid validOther chars]
    | opening | closing =>
      have chars := congrArg String.toList eq
      simp [toList_text_raw, toList_text_opening, toList_text_closing] at chars
  | opening helper arg =>
    cases other with
    | var other => exact eq_var_of_text valid validOther eq
    | opening other path => exact opening_eq_of_text valid validOther eq
    | raw | closing =>
      have chars := congrArg String.toList eq
      simp [toList_text_raw, toList_text_opening, toList_text_closing] at chars
  | closing helper =>
    cases other with
    | var other => exact eq_var_of_text valid validOther eq
    | closing other =>
      have chars := congrArg String.toList eq
      simp only [toList_text_closing, List.cons.injEq, true_and, List.append_cancel_right_eq,
        String.toList_inj] at chars
      rw [chars]
    | raw | opening =>
      have chars := congrArg String.toList eq
      simp [toList_text_raw, toList_text_opening, toList_text_closing] at chars

end Token

end TreeTemplate
