import TreeTemplate.Proofs.Markup.Pieces

/-!
# Markup written to an output

Serialized text leaves in many small writes.  A string and a pipe, with a limit or without, take a
text in parts as they take it at once, which is `LawfulSink`.  For such a sink only the text counts
that stands in front of the first value without text: `Node.exists_leading` says that writing a tree
is one write of that text, followed by the error of the value if the sink took the text whole.

So the text of a tree, the bytes that an output without a limit takes, and those that one with a
limit takes come from the same text, and `Node.writeTo_limited` says how they are related at every
limit: inside a character, at the very end, and right in front of a value without text alike.
-/

namespace TreeTemplate

/-- Sinks to which it makes no difference how a text is cut into writes. -/
class LawfulSink (σ : Type) [Sink σ] : Prop where
  /-- A text without characters is always taken. -/
  put_empty (sink : σ) : Sink.put sink "" = (sink, none)
  /-- A text is taken like a part of it and, unless that is refused, the rest of it. -/
  put_append (sink : σ) (text more : String) :
    Sink.put sink (text ++ more) =
      match Sink.put sink text with
      | (sink, none) => Sink.put sink more
      | (sink, some reason) => (sink, some reason)

instance : LawfulSink String where
  put_empty _ := congrArg (·, none) String.append_empty
  put_append _ _ _ := congrArg (·, none) String.append_assoc.symm

namespace Pipe

variable {taken : ByteArray} {limit : Nat} {text more : String}

/-- A pipe without a limit takes all bytes of a text. -/
lemma put_unlimited :
    Sink.put (⟨taken, none⟩ : Pipe) text = (⟨taken ++ text.toUTF8, none⟩, none) := rfl

/-- A pipe with a limit takes the bytes it has room for, and is closed if there are more. -/
lemma put_limited :
    Sink.put (⟨taken, some limit⟩ : Pipe) text =
      (⟨taken ++ text.toUTF8.extract 0 (limit - taken.size), some limit⟩,
        if text.toUTF8.size ≤ limit - taken.size then none else some closed) := rfl

/-- The bytes of texts put together are those of each. -/
lemma toUTF8_append : (text ++ more).toUTF8 = text.toUTF8 ++ more.toUTF8 :=
  String.toByteArray_append

/-- Bytes that fit into the room are taken whole. -/
lemma extract_of_size_le {bytes : ByteArray} {room : Nat} (fits : bytes.size ≤ room) :
    bytes.extract 0 room = bytes := by
  rw [← Nat.max_eq_left fits, ByteArray.extract_zero_max_size]

/-- A text that fits leaves its room to the next one. -/
lemma put_append_of_fits (fits : text.toUTF8.size ≤ limit - taken.size) :
    Sink.put (⟨taken, some limit⟩ : Pipe) (text ++ more) =
      Sink.put (⟨taken ++ text.toUTF8, some limit⟩ : Pipe) more := by
  have left : limit - (taken ++ text.toUTF8).size = limit - taken.size - text.toUTF8.size := by
    rw [ByteArray.size_append, Nat.sub_sub]
  have both : (text.toUTF8 ++ more.toUTF8).size ≤ limit - taken.size ↔
      more.toUTF8.size ≤ limit - taken.size - text.toUTF8.size := by
    rw [ByteArray.size_append]
    omega
  rw [put_limited, put_limited, toUTF8_append, ByteArray.extract_append, extract_of_size_le fits,
    Nat.zero_sub, left, ByteArray.append_assoc]
  simp only [both]

/-- Where the room ends inside a text nothing behind it is taken. -/
lemma put_append_of_full (full : ¬ text.toUTF8.size ≤ limit - taken.size) :
    Sink.put (⟨taken, some limit⟩ : Pipe) (text ++ more) =
      Sink.put (⟨taken, some limit⟩ : Pipe) text := by
  have both : ¬ (text.toUTF8 ++ more.toUTF8).size ≤ limit - taken.size := by
    rw [ByteArray.size_append]
    omega
  rw [put_limited, put_limited, toUTF8_append, if_neg full, if_neg both, ByteArray.extract_append,
    Nat.sub_eq_zero_of_le (Nat.le_of_not_le full), Nat.zero_sub, ByteArray.extract_same,
    ByteArray.append_empty]

instance : LawfulSink Pipe where
  put_empty := by
    rintro ⟨taken, limit⟩
    cases limit with
    | none =>
      rw [put_unlimited, String.toUTF8_eq_toByteArray, String.toByteArray_empty,
        ByteArray.append_empty]
    | some limit =>
      have none : ByteArray.empty.size ≤ limit - taken.size := Nat.zero_le _
      rw [put_limited, String.toUTF8_eq_toByteArray, String.toByteArray_empty, if_pos none,
        extract_of_size_le none, ByteArray.append_empty]
  put_append := by
    rintro ⟨taken, limit⟩ text more
    cases limit with
    | none =>
      rw [put_unlimited, put_unlimited, toUTF8_append, ← ByteArray.append_assoc]
      rfl
    | some limit =>
      by_cases fits : text.toUTF8.size ≤ limit - taken.size
      · have first : Sink.put (⟨taken, some limit⟩ : Pipe) text =
            (⟨taken ++ text.toUTF8, some limit⟩, none) := by
          rw [put_limited, if_pos fits, extract_of_size_le fits]
        rw [put_append_of_fits fits, first]
      · rw [put_append_of_full fits, put_limited, if_neg fits]

end Pipe

namespace Write

variable {σ : Type} [Sink σ] [LawfulSink σ]

/-- A text may be put in two writes. -/
lemma put_append (text more : String) :
    (put (text ++ more) : Write σ Unit) = (do put text; put more) := by
  funext sink
  rw [bind_apply, put, put, LawfulSink.put_append]
  cases Sink.put sink text with
  | mk sink refusal =>
    cases refusal with
    | none => rfl
    | some reason => rfl

/-- Texts written one after the other are one text. -/
lemma pieces_texts (texts : List String) :
    (pieces (texts.map .ok) : Write σ Unit) = put (String.join texts) := by
  induction texts with
  | nil =>
    funext sink
    rw [String.join_nil, put, LawfulSink.put_empty]
    rfl
  | cons text texts ih => rw [List.map_cons, pieces, ih, String.join_cons, put_append]

/-- The texts in front of an error are written as one text, and then writing ends. -/
lemma pieces_texts_error (texts : List String) (error : Error) (rest : List Piece) (sink : σ) :
    (pieces (texts.map .ok ++ .error error :: rest) : Write σ Unit) sink =
      match Sink.put sink (String.join texts) with
      | (sink, none) => (.error (.failed error), sink)
      | (sink, some reason) => (.error (.refused reason), sink) := by
  rw [pieces_append, pieces_texts, bind_apply, put]
  cases Sink.put sink (String.join texts) with
  | mk sink refusal =>
    cases refusal with
    | none => rfl
    | some reason => rfl

end Write

namespace Node

/-- What stands in front of the first value without text decides what any sink makes of a tree: it
is given to the sink, and if the sink takes it whole, writing ends as making the text of the tree
does.  It is that text if there is no such value. -/
lemma exists_leading (node : Node) : ∃ texts : List String,
    (∀ {σ : Type} [Sink σ] [LawfulSink σ] (sink : σ), node.writeTo sink =
      ((Sink.put sink (String.join texts)).2.elim (discard node.toText)
        fun reason => .error ⟨.writeFailed reason, [], none⟩,
        (Sink.put sink (String.join texts)).1))
    ∧ (∀ text, node.toText = .ok text → text = String.join texts)
    ∧ ∀ error, node.toText = .error error →
      ∃ rest, node.pieces = texts.map .ok ++ .error error :: rest := by
  -- all pieces are texts, or there is a first one that is none
  obtain ⟨texts, whole⟩ | ⟨texts, error, rest, broken⟩ := texts_or_error node.pieces
  · have text : node.toText = .ok (String.join texts) := by
      rw [toText, write_eq_pieces, whole, Write.pieces_texts]
      exact congrArg Except.ok String.empty_append
    refine ⟨texts, fun sink => ?_, fun other eq => ?_, fun error eq => ?_⟩
    · rw [writeTo, write_eq_pieces, whole, Write.pieces_texts, text, Write.put]
      cases Sink.put sink (String.join texts) with
      | mk sink refusal =>
        cases refusal with
        | none => rfl
        | some reason => rfl
    · exact (Except.ok.inj (text.symm.trans eq)).symm
    · cases text.symm.trans eq
  · have text : node.toText = .error error := by
      rw [toText, write_eq_pieces, broken, Write.pieces_texts_error]
      rfl
    refine ⟨texts, fun sink => ?_, fun other eq => ?_, fun other eq => ⟨rest, ?_⟩⟩
    · rw [writeTo, write_eq_pieces, broken, Write.pieces_texts_error, text]
      cases Sink.put sink (String.join texts) with
      | mk sink refusal =>
        cases refusal with
        | none => rfl
        | some reason => rfl
    · cases text.symm.trans eq
    · rw [broken, Except.error.inj (text.symm.trans eq)]

/-- An output that takes only so many bytes has taken the first ones of those that an output without
a limit takes.  If all of them fit, writing ends as making the text does: well, and then they are the
text, or with the same error, and then they are all that comes before the value without text.  If
they do not fit, writing ends with the error of the output, whatever comes later in the tree. -/
theorem writeTo_limited (node : Node) (limit : Nat) :
    let unlimited := node.writeTo ({} : Pipe)
    let limited := node.writeTo ({ limit := some limit } : Pipe)
    let bytes := unlimited.2.taken
    limited.2.taken = bytes.extract 0 (min limit bytes.size)
      ∧ unlimited.1 = discard node.toText
      ∧ (bytes.size ≤ limit → limited.1 = discard node.toText)
      ∧ (limit < bytes.size →
        ∃ error, limited.1 = .error error ∧ error.kind = .io ∧ error.trail = [])
      ∧ (∀ text, node.toText = .ok text → bytes = text.toUTF8)
      ∧ ∀ error, node.toText = .error error →
        ∃ texts rest, node.pieces = texts.map .ok ++ .error error :: rest
          ∧ bytes = (String.join texts).toUTF8 := by
  intro unlimited limited bytes
  obtain ⟨texts, writes, isText, isError⟩ := node.exists_leading
  have whole : unlimited = (discard node.toText, ⟨(String.join texts).toUTF8, none⟩) := by
    rw [← ByteArray.empty_append (b := (String.join texts).toUTF8)]
    exact writes _
  have leading : bytes = (String.join texts).toUTF8 := congrArg (·.2.taken) whole
  -- the output with a limit is given the same text
  have cut := writes ({ limit := some limit } : Pipe)
  rw [Pipe.put_limited, ByteArray.empty_append, ← leading, ByteArray.size_empty, Nat.sub_zero] at cut
  have ofText : ∀ text, node.toText = .ok text → bytes = text.toUTF8 := by
    intro text eq
    rw [leading, isText text eq]
  have ofError : ∀ error, node.toText = .error error →
      ∃ texts rest, node.pieces = texts.map .ok ++ .error error :: rest
        ∧ bytes = (String.join texts).toUTF8 := by
    intro error eq
    obtain ⟨rest, broken⟩ := isError error eq
    exact ⟨texts, rest, broken, leading⟩
  by_cases fits : bytes.size ≤ limit
  · rw [if_pos fits, Pipe.extract_of_size_le fits] at cut
    have ended : limited = (discard node.toText, ⟨bytes, some limit⟩) := cut
    refine ⟨?_, congrArg Prod.fst whole, fun _ => congrArg Prod.fst ended, fun more => ?_, ofText,
      ofError⟩
    · rw [ended, Nat.min_eq_right fits, ByteArray.extract_zero_size]
    · exact absurd fits (Nat.not_le_of_lt more)
  · rw [if_neg fits] at cut
    have ended : limited =
        (.error ⟨.writeFailed Pipe.closed, [], none⟩, ⟨bytes.extract 0 limit, some limit⟩) := cut
    refine ⟨?_, congrArg Prod.fst whole, fun all => absurd all fits, fun _ => ?_, ofText, ofError⟩
    · rw [ended, Nat.min_eq_left (Nat.le_of_not_le fits)]
    · rw [ended]
      exact ⟨_, rfl, rfl, rfl⟩

/-- Four bytes end inside the accented letter, and the map behind it does not come up.  Five bytes
are all that comes before the map. -/
theorem writeTo_limited_inside_letter :
    let node : Node := .element "p" none [.literal (.list [.string "é", .map []])]
    let error : Error := ⟨.unformattable .map, [.element "p"], none⟩
    let limited (limit : Nat) := node.writeTo ({ limit := some limit } : Pipe)
    let bytes := (node.writeTo ({} : Pipe)).2.taken
    node.toText = .error error ∧ 4 < bytes.size ∧ bytes.size ≤ 5
      ∧ (limited 4).2.taken = bytes.extract 0 (min 4 bytes.size)
      ∧ (∃ error, (limited 4).1 = .error error ∧ error.kind = .io ∧ error.trail = [])
      ∧ (limited 5).1 = discard node.toText
      ∧ ∃ texts rest, node.pieces = texts.map .ok ++ .error error :: rest
        ∧ bytes = (String.join texts).toUTF8 := by
  intro node error limited bytes
  have text : node.toText = .error error := rfl
  have many : 4 < bytes.size := by decide
  have few : bytes.size ≤ 5 := by decide
  obtain ⟨first, -, -, refused, -, -⟩ := writeTo_limited node 4
  obtain ⟨-, -, ended, -, -, ofError⟩ := writeTo_limited node 5
  exact ⟨text, many, few, first, refused many, ended few, ofError error text⟩

end Node

end TreeTemplate
