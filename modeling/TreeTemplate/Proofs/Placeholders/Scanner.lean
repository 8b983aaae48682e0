import TreeTemplate.Proofs.Placeholders.Token

/-!
# Scanning a text for tokens

`Lexeme.scan` reads a text from left to right, as a renderer elsewhere does.  Three opening braces
begin a token that ends at the next three closing ones, and two begin one that ends at the next two.
What stands between them is read by itself (`Braces.read`), and any other character stands outside
tokens.

The parts of valid tokens hold no closing brace, and what follows two opening braces in a token that
is not a raw reference is no third one.  So a token is read to its end and no further, whatever
follows it: a text of valid tokens and of characters that are no braces is read as just these, in
whatever order they stand (`Lexeme.scan_chars`).
-/

namespace TreeTemplate

/-- How many braces stand on each side of a token. -/
inductive Braces where
  | two
  | three
deriving DecidableEq, Repr

namespace Braces

/-- The braces in front of a token. -/
def opening : Braces → List Char
  | .two => ['{', '{']
  | .three => ['{', '{', '{']

/-- The braces behind a token. -/
def closing : Braces → List Char
  | .two => ['}', '}']
  | .three => ['}', '}', '}']

/-- Reads what stands between braces: a path, `#` with a helper, a space and a path, or `/` with a
helper. -/
def read : Braces → List Char → Option Token
  | .three, inner => Token.raw <$> Path.ofText? (String.ofList inner)
  | .two, '#' :: inner =>
    let helper := String.ofList (inner.takeWhile (· != ' '))
    let arg := String.ofList (inner.dropWhile (· != ' ')).tail
    if isIdentifier helper then Token.opening helper <$> Path.ofText? arg else none
  | .two, '/' :: inner =>
    let helper := String.ofList inner
    if isIdentifier helper then some (.closing helper) else none
  | .two, inner => Token.var <$> Path.ofText? (String.ofList inner)

end Braces

/-- A piece of a text with tokens: a character outside of them, or a token. -/
inductive Lexeme where
  | char (c : Char)
  | token (token : Token)
deriving DecidableEq, Repr

namespace Lexeme

/-- Scans characters outside tokens, or inside of braces with what has been read behind them. -/
def scanFrom : Option (Braces × List Char) → List Char → Option (List Lexeme)
  | none, [] => some []
  | none, '{' :: '{' :: '{' :: rest => scanFrom (some (.three, [])) rest
  | none, '{' :: '{' :: rest => scanFrom (some (.two, [])) rest
  | none, c :: rest => (.char c :: ·) <$> scanFrom none rest
  | some _, [] => none
  | some (.three, inner), '}' :: '}' :: '}' :: rest => do
    let found ← Braces.three.read inner
    (.token found :: ·) <$> scanFrom none rest
  | some (.two, inner), '}' :: '}' :: rest => do
    let found ← Braces.two.read inner
    (.token found :: ·) <$> scanFrom none rest
  | some (braces, inner), c :: rest => scanFrom (some (braces, inner ++ [c])) rest

/-- Scans a text for tokens.  It fails if a token has no end, or if what stands in braces is none.
-/
def scan (text : String) : Option (List Lexeme) :=
  scanFrom none text.toList

/-- The characters of a lexeme. -/
def chars : Lexeme → List Char
  | .char c => [c]
  | .token placeholder => placeholder.text.toList

/-- The token that a lexeme is. -/
def token? : Lexeme → Option Token
  | .char _ => none
  | .token placeholder => some placeholder

/-- Characters outside tokens are no braces, and tokens have valid parts. -/
def Valid : Lexeme → Prop
  | .char c => c ≠ '{' ∧ c ≠ '}'
  | .token placeholder => placeholder.Valid

end Lexeme

namespace Token

/-- The braces around a token. -/
def braces : Token → Braces
  | .raw _ => .three
  | .var _ | .opening _ _ | .closing _ => .two

/-- What stands between the braces of a token. -/
def inner : Token → List Char
  | .var path | .raw path => path.text.toList
  | .opening helper arg => '#' :: (helper.toList ++ ' ' :: arg.text.toList)
  | .closing helper => '/' :: helper.toList

/-- A token is written as its inner text between its braces. -/
lemma toList_text (token : Token) :
    token.text.toList = token.braces.opening ++ (token.inner ++ token.braces.closing) := by
  cases token with
  | var path => exact toList_text_var path
  | raw path => exact toList_text_raw path
  | opening helper arg =>
    rw [toList_text_opening, inner, List.cons_append, List.append_assoc]
    rfl
  | closing helper => exact toList_text_closing helper

/-- No closing brace stands inside a valid token. -/
lemma notMem_inner {token : Token} (valid : token.Valid) : '}' ∉ token.inner := by
  have inName : ∀ {helper : String}, isIdentifier helper → '}' ∉ helper.toList :=
    fun name => notMem_of_isIdentifier name (by decide)
  have inPath : ∀ {path : Path}, Path.ofText? path.text = some path → '}' ∉ path.text.toList :=
    fun found => Path.notMem_of_ofText? (Option.isSome_of_eq_some found) (by decide)
  cases token with
  | var path | raw path => exact inPath valid
  | opening helper arg => simp [inner, inName valid.1, inPath valid.2]
  | closing helper => simp [inner, inName valid]

/-- No third brace follows the first two in a token with two of them. -/
lemma inner_append_ne {token : Token} (valid : token.Valid) (two : token.braces = .two)
    (more rest : List Char) : token.inner ++ more ≠ '{' :: rest := by
  cases token with
  | var path => exact Path.text_append_ne valid (.inl (by decide)) more rest
  | raw path => cases two
  | opening helper arg => simp [inner]
  | closing helper => simp [inner]

/-- What stands in the braces of a valid token is read as that token. -/
lemma read_inner {token : Token} (valid : token.Valid) :
    token.braces.read token.inner = some token := by
  cases token with
  | var path =>
    have notHash := Path.text_append_ne valid (c := '#') (.inl (by decide)) []
    have notSlash := Path.text_append_ne valid (c := '/') (.inr rfl) []
    rw [List.append_nil] at notHash notSlash
    rw [braces, inner, Braces.read, String.ofList_toList, valid]
    · rfl
    · exact notHash
    · exact notSlash
  | raw path =>
    rw [braces, inner, Braces.read, String.ofList_toList, valid]
    rfl
  | opening helper arg =>
    obtain ⟨name, found⟩ := valid
    -- the name of the helper is what stands before the first space, since it holds none
    have noSpace : ∀ c ∈ helper.toList, (c != ' ') = true := by
      intro c member
      rw [bne_iff_ne]
      rintro rfl
      exact notMem_of_isIdentifier name (by decide) member
    rw [braces, inner, Braces.read, List.takeWhile_append_of_pos noSpace,
      List.dropWhile_append_of_pos noSpace, List.takeWhile_cons_of_neg (by decide),
      List.dropWhile_cons_of_neg (by decide), List.append_nil, List.tail_cons]
    simp only [String.ofList_toList, name, if_true, found]
    rfl
  | closing helper =>
    rw [braces, inner, Braces.read]
    simp only [String.ofList_toList, (show isIdentifier helper from valid), if_true]

end Token

namespace Lexeme

/-- A character that opens no brace is scanned as text. -/
lemma scanFrom_char {c : Char} (other : c ≠ '{') (rest : List Char) :
    scanFrom none (c :: rest) = (.char c :: ·) <$> scanFrom none rest := by
  rw [scanFrom]
  · exact fun _ eq => absurd eq other
  · exact fun _ eq => absurd eq other

/-- Behind opening braces everything is read up to closing ones. -/
lemma scanFrom_closing (braces : Braces) {text : List Char} (noBrace : '}' ∉ text)
    (before rest : List Char) :
    scanFrom (some (braces, before)) (text ++ (braces.closing ++ rest)) = (do
      let found ← braces.read (before ++ text)
      (.token found :: ·) <$> scanFrom none rest) := by
  induction text generalizing before with
  | nil =>
    rw [List.nil_append, List.append_nil]
    cases braces with
    | two => rw [Braces.closing, List.cons_append, List.singleton_append, scanFrom]
    | three =>
      rw [Braces.closing, List.cons_append, List.cons_append, List.singleton_append, scanFrom]
  | cons c text ih =>
    obtain ⟨other, behind⟩ := not_or.1 (mt List.mem_cons.2 noBrace)
    have next : scanFrom (some (braces, before)) (c :: (text ++ (braces.closing ++ rest))) =
        scanFrom (some (braces, before ++ [c])) (text ++ (braces.closing ++ rest)) := by
      rw [scanFrom]
      · exact fun _ _ eq => absurd eq.symm other
      · exact fun _ _ eq => absurd eq.symm other
    rw [List.cons_append, next, ih behind, List.append_assoc, List.singleton_append]

/-- Outside tokens opening braces lead into a token. -/
lemma scanFrom_opening {token : Token} (valid : token.Valid) (more : List Char) :
    scanFrom none (token.braces.opening ++ (token.inner ++ more)) =
      scanFrom (some (token.braces, [])) (token.inner ++ more) := by
  cases braces : token.braces with
  | three => rfl
  | two =>
    rw [Braces.opening, List.cons_append, List.singleton_append, scanFrom]
    exact token.inner_append_ne valid braces more

/-- A valid token is read, whatever follows it. -/
lemma scanFrom_token {token : Token} (valid : token.Valid) (rest : List Char) :
    scanFrom none (token.text.toList ++ rest) = (.token token :: ·) <$> scanFrom none rest := by
  rw [Token.toList_text, List.append_assoc, List.append_assoc, scanFrom_opening valid,
    scanFrom_closing _ (Token.notMem_inner valid), List.nil_append, Token.read_inner valid]
  rfl

/-- A text of valid tokens and of characters that are no braces is read as these. -/
theorem scan_chars {text : String} {lexemes : List Lexeme}
    (valid : ∀ lexeme ∈ lexemes, lexeme.Valid)
    (spelled : text.toList = lexemes.flatMap chars) : scan text = some lexemes := by
  rw [scan, spelled]
  clear spelled
  induction lexemes with
  | nil => rfl
  | cons lexeme rest ih =>
    obtain ⟨head, tail⟩ := List.forall_mem_cons.1 valid
    rw [List.flatMap_cons]
    cases lexeme with
    | char c =>
      rw [chars, List.singleton_append, scanFrom_char head.1, ih tail]
      rfl
    | token placeholder =>
      change placeholder.Valid at head
      rw [chars, scanFrom_token head, ih tail]
      rfl

-- a token ends before the braces of the next one, and one that is cut off is none
example : scan "a\x7b\x7b../b\x7d\x7d\x7b\x7b\x7bc\x7d\x7d\x7d" =
    some [.char 'a', .token (.var (.parent ["b"])), .token (.raw (.current ["c"]))] := rfl

example : scan "\x7b\x7ba\x7d" = none := rfl

end Lexeme

end TreeTemplate
