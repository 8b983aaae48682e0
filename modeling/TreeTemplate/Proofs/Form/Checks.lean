import TreeTemplate.Form.Decode
import TreeTemplate.Proofs.Outcome
import TreeTemplate.Proofs.Path.Characters

/-!
# What is checked of the data form

Each check that the reader makes on its own, before or after it reads other values: what it gives
if it passes, and that its error has no place yet.
-/

namespace TreeTemplate

/-- An error of a check that was just made, so that no place is around it. -/
structure Error.OfCheck (error : Error) : Prop where
  kind : error.kind = .invalidArgument
  trail : error.trail = []

/-- An invalid argument that is reported without a trail or template is an error of a check. -/
lemma Error.ofCheck {cause : Cause} (kind : cause.kind = .invalidArgument) :
    OfCheck ⟨cause, [], none⟩ :=
  ⟨kind, rfl⟩

/-- A path is parsed exactly if the text spells one, and otherwise the check fails. -/
lemma Path.parse_ends (text : String) :
    Ends (fun path => ofText? text = some path)
      (fun error => error.OfCheck ∧ ofText? text = none) (parse text) := by
  unfold parse
  cases found : ofText? text with
  | some path => exact .ok rfl
  | none =>
    refine .error ⟨Error.ofCheck ?_, rfl⟩
    split
    · rfl
    · rfl

/-- A text that spells a path is parsed to it. -/
lemma Path.parse_eq_ok {text : String} {path : Path} (found : ofText? text = some path) :
    parse text = .ok path := by
  rw [parse, found]

/-- A path that was read from a text is read from its own text. -/
lemma Path.parse_text {text : String} {path : Path} (found : ofText? text = some path) :
    parse path.text = .ok path := by
  rw [text_of_ofText? found]
  exact parse_eq_ok found

/-- An attribute name is accepted exactly if it is a tag name. -/
lemma checkAttributeName_ends (name : String) :
    Ends (fun _ => isTagName name) (fun error => error.OfCheck ∧ ¬isTagName name)
      (checkAttributeName name) := by
  unfold checkAttributeName
  split
  · rename_i valid
    exact .ok valid
  · rename_i invalid
    exact .error ⟨Error.ofCheck rfl, invalid⟩

/-- A block is made of an identifier and a path, whatever its body. -/
lemma Node.blockOf_ends (helper arg : String) (body : List Node) :
    Ends (fun node => isIdentifier helper ∧ ∃ path,
        Path.ofText? arg = some path ∧ node = .block helper path body)
      (fun error => error.OfCheck ∧ (isIdentifier helper → Path.ofText? arg = none))
      (blockOf helper arg body) := by
  unfold blockOf Block.of
  split
  · rename_i name
    have ends := Path.parse_ends arg
    cases parsed : Path.parse arg with
    | ok path => exact .ok ⟨name, path, ends.of_ok parsed, rfl⟩
    | error error =>
      obtain ⟨check, noPath⟩ := ends.of_error parsed
      exact .error ⟨check, fun _ => noPath⟩
  · rename_i noName
    exact .error ⟨Error.ofCheck rfl, fun name => absurd name noName⟩

/-- A block is built where its name is an identifier and its argument spells a path. -/
lemma Node.blockOf_eq_ok {helper arg : String} {path : Path} (name : isIdentifier helper)
    (found : Path.ofText? arg = some path) (body : List Node) :
    blockOf helper arg body = .ok (.block helper path body) := by
  rw [blockOf, Block.of, if_pos name, Path.parse_eq_ok found]
  rfl

namespace Form

/-- A reference has one path behind its marker. -/
lemma referencePath_ends (marker : Marker) (rest : List Value) :
    Ends (fun path => ∃ text, rest = [.string text] ∧ Path.ofText? text = some path)
      (fun error => error.OfCheck ∧ ∀ text, rest = [.string text] → Path.ofText? text = none)
      (referencePath marker rest) := by
  unfold referencePath
  split
  · rename_i text
    refine ((Path.parse_ends text).imp fun path found => ⟨text, rfl, found⟩).mono ?_
    rintro error ⟨check, noPath⟩
    refine ⟨check, ?_⟩
    rintro other ⟨⟩
    exact noPath
  · rename_i other notString
    refine .error ⟨Error.ofCheck rfl, ?_⟩
    rintro text ⟨⟩
    exact absurd rfl (notString text)
  · rename_i notOne
    exact .error ⟨Error.ofCheck rfl, fun text eq => absurd eq (notOne _)⟩

/-- An unescaped node has one value behind its marker. -/
lemma unescapedValue_ends (rest : List Value) :
    Ends (fun value => rest = [value]) (fun error => error.OfCheck ∧ rest.length ≠ 1)
      (unescapedValue rest) := by
  unfold unescapedValue
  split
  · exact .ok rfl
  · rename_i notOne
    refine .error ⟨Error.ofCheck rfl, fun one => ?_⟩
    obtain ⟨value, rfl⟩ := List.length_eq_one_iff.1 one
    exact notOne value rfl

end Form

end TreeTemplate
