import TreeTemplate.Error
import TreeTemplate.Proofs.Sequence

/-!
# Computations that may fail

How a computation made of others ends.  The first lemmas say when it has a result; they take apart
the binds, maps and walks over lists that evaluation and decoding are made of.

`Agree` compares two computations: they end alike if both have results and these are related, or if
both fail with the same error.  It is kept by all ways of combining computations, so that two runs
are compared step by step.  `SameUnless` compares a computation with one that may go on where the
first is stopped, and it is kept in the same way.  Where only a part of the error matters, two
computations are the same once their errors are renamed to that part, and renaming passes through
all ways of combining them; the cause of an error is such a part (`SameButPlace`).
-/

namespace TreeTemplate

variable {ε α β γ δ : Type}

@[simp]
lemma ok_bind (a : α) (f : α → Except ε β) : (Except.ok a >>= f) = f a := rfl

@[simp]
lemma error_bind (e : ε) (f : α → Except ε β) : (Except.error e >>= f) = .error e := rfl

@[simp]
lemma pure_eq_ok (a : α) : (pure a : Except ε α) = .ok a := rfl

/-- A mapped computation succeeds with the image of its result. -/
lemma map_eq_ok_iff {f : α → β} {x : Except ε α} {b : β} :
    f <$> x = .ok b ↔ ∃ a, x = .ok a ∧ f a = b := by
  cases x with
  | error e => simp
  | ok a => simp

/-- Computations in a row succeed exactly if the first does and the second does from there. -/
lemma bind_eq_ok_iff {f : α → Except ε β} {x : Except ε α} {b : β} :
    x >>= f = .ok b ↔ ∃ a, x = .ok a ∧ f a = .ok b := by
  cases x with
  | error e => simp
  | ok a => simp

/-- A mapped computation fails as the computation does. -/
lemma map_eq_error_iff {f : α → β} {x : Except ε α} {e : ε} :
    f <$> x = .error e ↔ x = .error e := by
  cases x with
  | error e => simp
  | ok a => simp

/-- Computations in a row fail as the first, or as the second from the result of the first. -/
lemma bind_eq_error_iff {f : α → Except ε β} {x : Except ε α} {e : ε} :
    x >>= f = .error e ↔ x = .error e ∨ ∃ a, x = .ok a ∧ f a = .error e := by
  cases x with
  | error e => simp
  | ok a => simp

/-- A walk over a list fails as it does for one of the items. -/
lemma exists_of_mapM_eq_error {f : α → Except ε β} {as : List α} {e : ε}
    (h : as.mapM f = .error e) : ∃ a ∈ as, f a = .error e := by
  induction as with
  | nil => cases h
  | cons a as ih =>
    rw [List.mapM_cons, bind_eq_error_iff] at h
    obtain head | ⟨b, -, h⟩ := h
    · exact ⟨a, List.mem_cons_self, head⟩
    · obtain tail | ⟨bs, -, h⟩ := bind_eq_error_iff.1 h
      · obtain ⟨item, among, fails⟩ := ih tail
        exact ⟨item, List.mem_cons_of_mem a among, fails⟩
      · cases h

/-- A walk over a list has a result if it has one for each item. -/
lemma mapM_eq_ok_iff {f : α → Except ε β} {as : List α} {bs : List β} :
    as.mapM f = .ok bs ↔ List.Forall₂ (fun a b => f a = .ok b) as bs := by
  induction as generalizing bs with
  | nil => simp [eq_comm]
  | cons a as ih =>
    simp only [List.mapM_cons, bind_eq_ok_iff, ih, List.forall₂_cons_left_iff, pure_eq_ok,
      Except.ok.injEq]
    constructor
    · rintro ⟨b, hb, rest, hrest, rfl⟩
      exact ⟨b, rest, hb, hrest, rfl⟩
    · rintro ⟨b, rest, hb, hrest, rfl⟩
      exact ⟨b, hb, rest, hrest, rfl⟩

/-- A walk over a list succeeds exactly if it does for each item. -/
lemma exists_mapM_eq_ok_iff {f : α → Except ε β} {as : List α} :
    (∃ bs, as.mapM f = .ok bs) ↔ ∀ a ∈ as, ∃ b, f a = .ok b := by
  constructor
  · rintro ⟨bs, succeeds⟩
    exact forall_of_forall₂ ((mapM_eq_ok_iff.1 succeeds).imp fun a b result => ⟨b, result⟩)
  · intro each
    cases ends : as.mapM f with
    | ok bs => exact ⟨bs, rfl⟩
    | error e =>
      obtain ⟨a, among, fails⟩ := exists_of_mapM_eq_error ends
      obtain ⟨b, succeeds⟩ := each a among
      rw [fails] at succeeds
      cases succeeds

/-- What holds of the result for each item holds of all results of a walk over a list. -/
lemma forall_of_mapM {P : β → Prop} {f : α → Except ε β} {as : List α} {bs : List β}
    (h : as.mapM f = .ok bs) (each : ∀ a ∈ as, ∀ b, f a = .ok b → P b) : ∀ b ∈ bs, P b :=
  forall_of_forall₂ (forall₂_imp_mem (mapM_eq_ok_iff.1 h) each).flip

/-- The result for each item is among the results of a walk over a list. -/
lemma exists_mem_of_mapM {f : α → Except ε β} {as : List α} {bs : List β}
    (h : as.mapM f = .ok bs) : ∀ a ∈ as, ∃ b ∈ bs, f a = .ok b :=
  exists_mem_of_forall₂ (mapM_eq_ok_iff.1 h)

/-- There is a result of one kind if there is an item of another, if this is so for each item. -/
lemma exists_iff_of_mapM {P : β → Prop} {Q : α → Prop} {f : α → Except ε β} {as : List α}
    {bs : List β} (h : as.mapM f = .ok bs)
    (each : ∀ a ∈ as, ∀ b, f a = .ok b → (P b ↔ Q a)) : (∃ b ∈ bs, P b) ↔ ∃ a ∈ as, Q a := by
  constructor
  · rintro ⟨b, among, holds⟩
    obtain ⟨a, inList, result⟩ := exists_mem_of_forall₂ (mapM_eq_ok_iff.1 h).flip b among
    exact ⟨a, inList, (each a inList b result).1 holds⟩
  · rintro ⟨a, among, holds⟩
    obtain ⟨b, inResults, result⟩ := exists_mem_of_mapM h a among
    exact ⟨b, inResults, (each a among b result).2 holds⟩

/-- A walk with a result for each item has the list of them as its result. -/
lemma mapM_eq_ok_map {f : α → Except ε β} {g : α → β} {as : List α}
    (h : ∀ a ∈ as, f a = .ok (g a)) : as.mapM f = .ok (as.map g) :=
  mapM_eq_ok_iff.2 (List.forall₂_map_right_iff.2 (List.forall₂_same.2 h))

/-- Walks over a list are the same if they are the same for each of its items. -/
lemma mapM_congr {f g : α → Except ε β} {as : List α} (h : ∀ a ∈ as, f a = g a) :
    as.mapM f = as.mapM g := by
  induction as with
  | nil => rfl
  | cons a as ih =>
    obtain ⟨head, tail⟩ := List.forall_mem_cons.1 h
    rw [List.mapM_cons, List.mapM_cons, head, ih tail]

/-- To map each result of a walk over a list is to map the list of them. -/
lemma mapM_map_result (f : α → Except ε β) (g : β → γ) (as : List α) :
    (as.mapM fun a => g <$> f a) = List.map g <$> as.mapM f := by
  induction as with
  | nil => rfl
  | cons a as ih =>
    rw [List.mapM_cons, List.mapM_cons, ih]
    cases f a with
    | error e => rfl
    | ok b => cases as.mapM f <;> rfl

/-- A walk over items with a separator between them has its results with that of the separator
between them. -/
lemma mapM_intersperse {f : α → Except ε β} {separator : α} {between : β}
    (result : f separator = .ok between) (as : List α) :
    (as.intersperse separator).mapM f = List.intersperse between <$> as.mapM f := by
  induction as with
  | nil => rfl
  | cons first rest ih =>
    cases rest with
    | nil =>
      rw [List.intersperse_singleton, List.mapM_cons, List.mapM_nil]
      cases f first <;> rfl
    | cons second rest =>
      rw [List.intersperse_cons_cons, List.mapM_cons, List.mapM_cons, result, ih,
        List.mapM_cons (a := first), List.mapM_cons (a := second)]
      cases f first with
      | error e => rfl
      | ok b =>
        cases f second with
        | error e => rfl
        | ok c => cases rest.mapM f <;> rfl

/-- The row of a walk over one item is the row for this item. -/
lemma flatten_mapM_singleton (f : α → Except ε (List β)) (a : α) :
    List.flatten <$> [a].mapM f = f a := by
  rw [List.mapM_cons, List.mapM_nil]
  cases f a with
  | error e => rfl
  | ok row => exact congrArg Except.ok (List.append_nil row)

/-- Walks over two lists are the same if they are item by item. -/
lemma mapM_eq_of_forall₂ {f : α → Except ε γ} {g : β → Except ε γ} {as : List α} {bs : List β}
    (h : List.Forall₂ (fun a b => f a = g b) as bs) : as.mapM f = bs.mapM g := by
  induction h with
  | nil => rfl
  | cons head _ ih => rw [List.mapM_cons, List.mapM_cons, head, ih]

section

variable {ε' : Type} (rename : ε → ε')

/-- Renaming the error leaves the result to be mapped. -/
lemma mapError_map (f : α → β) (x : Except ε α) :
    (f <$> x).mapError rename = f <$> x.mapError rename := by
  cases x with
  | error e => rfl
  | ok a => rfl

/-- Errors are renamed in each of two computations in a row. -/
lemma mapError_bind (x : Except ε α) (f : α → Except ε β) :
    (x >>= f).mapError rename = x.mapError rename >>= fun a => (f a).mapError rename := by
  cases x with
  | error e => rfl
  | ok a => rfl

/-- Renaming the error does not change a success. -/
lemma mapError_eq_ok_iff {x : Except ε α} {a : α} : x.mapError rename = .ok a ↔ x = .ok a := by
  cases x with
  | error e => simp [Except.mapError]
  | ok b => simp [Except.mapError]

/-- The error of a walk over a list is renamed as that of the item. -/
lemma mapError_mapM (f : α → Except ε β) (as : List α) :
    (as.mapM f).mapError rename = as.mapM fun a => (f a).mapError rename := by
  induction as with
  | nil => rfl
  | cons a as ih =>
    rw [List.mapM_cons, List.mapM_cons, mapError_bind, ← ih]
    refine congrArg _ (funext fun b => ?_)
    rw [mapError_bind]
    rfl

end

@[simp]
lemma within_ok (label : Label) (a : α) : within label (.ok a) = .ok a := rfl

@[simp]
lemma within_error (label : Label) (error : Error) :
    within label (.error error : Except Error α) = .error (error.within label) := rfl

/-- A place around a computation does not change its result. -/
lemma within_eq_ok_iff {label : Label} {x : Except Error α} {a : α} :
    within label x = .ok a ↔ x = .ok a := by
  cases x with
  | error e => simp
  | ok a => simp

/-- A place around a computation is put around its error. -/
lemma within_eq_error_iff {label : Label} {x : Except Error α} {error : Error} :
    within label x = .error error ↔ ∃ inner, x = .error inner ∧ inner.within label = error := by
  cases x with
  | error e => simp
  | ok a => simp

/-- What leaves places as they are may be done to an error before a place is put around it. -/
lemma mapError_within {rename : Error → Error} {label : Label}
    (around : ∀ error : Error, rename (error.within label) = (rename error).within label)
    (x : Except Error α) : (within label x).mapError rename = within label (x.mapError rename) := by
  cases x with
  | error e => exact congrArg Except.error (around e)
  | ok a => rfl

/-- A place around a computation does not change the cause of its error. -/
lemma mapError_cause_within (label : Label) (x : Except Error α) :
    (within label x).mapError Error.cause = x.mapError Error.cause := by
  cases x with
  | error e => rfl
  | ok a => rfl

/-- Both computations have the same result, or both fail with errors of the same kind and message. -/
inductive SameButPlace : Except Error α → Except Error α → Prop where
  | ok (a : α) : SameButPlace (.ok a) (.ok a)
  | error {error other : Error} : error.kind = other.kind → error.message = other.message →
    SameButPlace (.error error) (.error other)

/-- The cause of an error says what kind of error it is, and its message. -/
lemma sameButPlace_of_mapError_cause {x y : Except Error α}
    (same : x.mapError Error.cause = y.mapError Error.cause) : SameButPlace x y := by
  cases x with
  | ok a =>
    cases y with
    | ok b =>
      cases same
      exact .ok a
    | error other => cases same
  | error error =>
    cases y with
    | ok b => cases same
    | error other =>
      have causes : error.cause = other.cause := Except.error.inj same
      exact .error (congrArg Cause.kind causes) (congrArg Cause.message causes)

/-- Both computations have results and these are related, or both fail with the same error. -/
inductive Agree (R : α → β → Prop) : Except ε α → Except ε β → Prop where
  | ok {a b} : R a b → Agree R (.ok a) (.ok b)
  | error (e) : Agree R (.error e) (.error e)

namespace Agree

variable {R : α → β → Prop} {S : γ → δ → Prop}

lemma refl {R : α → α → Prop} (related : ∀ a, R a a) (x : Except ε α) : Agree R x x := by
  cases x with
  | ok a => exact .ok (related a)
  | error e => exact .error e

/-- Related results may be mapped to related results. -/
lemma map {x : Except ε α} {y : Except ε β} {f : α → γ} {g : β → δ}
    (h : Agree R x y) (hfg : ∀ a b, R a b → S (f a) (g b)) : Agree S (f <$> x) (g <$> y) := by
  cases h with
  | ok r => exact .ok (hfg _ _ r)
  | error e => exact .error e

/-- Computations in a row end alike if the first do, and the second do from related results. -/
lemma bind {x : Except ε α} {y : Except ε β} {f : α → Except ε γ} {g : β → Except ε δ}
    (h : Agree R x y) (hfg : ∀ a b, R a b → Agree S (f a) (g b)) :
    Agree S (x >>= f) (y >>= g) := by
  cases h with
  | ok r => exact hfg _ _ r
  | error e => exact .error e

/-- Walks over two lists end alike if they do item by item. -/
lemma mapM {f : α → Except ε γ} {g : β → Except ε δ} {as : List α} {bs : List β}
    (h : List.Forall₂ (fun a b => Agree S (f a) (g b)) as bs) :
    Agree (List.Forall₂ S) (as.mapM f) (bs.mapM g) := by
  induction h with
  | nil => exact .ok .nil
  | cons head _ ih =>
    rw [List.mapM_cons, List.mapM_cons]
    refine head.bind fun c d hcd => ?_
    exact ih.bind fun cs ds hrest => .ok (.cons hcd hrest)

/-- The same place around computations that end alike. -/
lemma within {x : Except Error α} {y : Except Error β} (label : Label) (h : Agree R x y) :
    Agree R (within label x) (within label y) := by
  cases h with
  | ok r => exact .ok r
  | error e => exact .error _

/-- Computations that agree on equal results are equal. -/
lemma eq {x y : Except ε α} (h : Agree Eq x y) : x = y := by
  cases h with
  | ok r => rw [r]
  | error e => rfl

end Agree

/-- Both computations end in the same way, unless the first is stopped by an error of some kind. -/
inductive SameUnless (stops : ε → Prop) : Except ε α → Except ε α → Prop where
  | same (x : Except ε α) : SameUnless stops x x
  | stopped {e : ε} (y : Except ε α) : stops e → SameUnless stops (.error e) y

namespace SameUnless

variable {stops : ε → Prop}

/-- A success of the first computation is one of the second. -/
lemma eq_ok {x y : Except ε α} {a : α} (h : SameUnless stops x y) (succeeds : x = .ok a) :
    y = .ok a := by
  cases h with
  | same => exact succeeds
  | stopped => cases succeeds

/-- A failure of the first computation that is no stop is one of the second. -/
lemma eq_error {x y : Except ε α} {e : ε} (h : SameUnless stops x y) (fails : x = .error e)
    (other : ¬ stops e) : y = .error e := by
  cases h with
  | same => exact fails
  | stopped y stop =>
    cases fails
    exact absurd stop other

/-- Where nothing stops the first computation, both end in the same way. -/
lemma eq {x y : Except ε α} (h : SameUnless stops x y) (never : ∀ e, ¬ stops e) : x = y := by
  cases h with
  | same => rfl
  | stopped y stop => exact absurd stop (never _)

/-- A stop of the first step is one of the whole. -/
lemma bind {x y : Except ε α} {f g : α → Except ε β} (h : SameUnless stops x y)
    (each : ∀ a, SameUnless stops (f a) (g a)) : SameUnless stops (x >>= f) (y >>= g) := by
  cases h with
  | same =>
    cases x with
    | ok a => exact each a
    | error e => exact .same _
  | stopped y stop => exact .stopped _ stop

/-- Results may be mapped on both sides. -/
lemma map (f : α → β) {x y : Except ε α} (h : SameUnless stops x y) :
    SameUnless stops (f <$> x) (f <$> y) := by
  cases h with
  | same => exact .same _
  | stopped y stop => exact .stopped _ stop

/-- Walks over a list end in the same way, unless the first is stopped at an item. -/
lemma mapM {f g : α → Except ε β} {as : List α} (each : ∀ a ∈ as, SameUnless stops (f a) (g a)) :
    SameUnless stops (as.mapM f) (as.mapM g) := by
  induction as with
  | nil => exact .same _
  | cons a as ih =>
    obtain ⟨head, tail⟩ := List.forall_mem_cons.1 each
    rw [List.mapM_cons, List.mapM_cons]
    exact head.bind fun b => (ih tail).bind fun bs => .same _

/-- What is put around an error does not make it another kind of stop. -/
lemma mapError {x y : Except ε α} {f : ε → ε} (h : SameUnless stops x y)
    (around : ∀ e, stops e → stops (f e)) : SameUnless stops (x.mapError f) (y.mapError f) := by
  cases h with
  | same => exact .same _
  | stopped y stop => exact .stopped _ (around _ stop)

end SameUnless

/-- A computation ends with a result that has a property, or with an error that has another. -/
inductive Ends (P : α → Prop) (Q : ε → Prop) : Except ε α → Prop where
  | ok {a} : P a → Ends P Q (.ok a)
  | error {e} : Q e → Ends P Q (.error e)

namespace Ends

variable {P : α → Prop} {Q : ε → Prop} {R : β → Prop}

/-- The result that a computation has is of the kind that it ends with. -/
lemma of_ok {x : Except ε α} {a : α} (h : Ends P Q x) (succeeds : x = .ok a) : P a := by
  subst succeeds
  cases h with
  | ok result => exact result

/-- The error that a computation has is of the kind that it ends with. -/
lemma of_error {x : Except ε α} {e : ε} (h : Ends P Q x) (fails : x = .error e) : Q e := by
  subst fails
  cases h with
  | error failed => exact failed

/-- Less may be said of the errors. -/
lemma mono {Q' : ε → Prop} {x : Except ε α} (h : Ends P Q x) (weaker : ∀ e, Q e → Q' e) :
    Ends P Q' x := by
  cases h with
  | ok result => exact .ok result
  | error failed => exact .error (weaker _ failed)

/-- Less may be said of the results. -/
lemma imp {P' : α → Prop} {x : Except ε α} (h : Ends P Q x) (weaker : ∀ a, P a → P' a) :
    Ends P' Q x := by
  cases h with
  | ok result => exact .ok (weaker _ result)
  | error failed => exact .error failed

/-- A mapped computation ends with images of the results. -/
lemma map {f : α → β} {x : Except ε α} (h : Ends P Q x) (each : ∀ a, P a → R (f a)) :
    Ends R Q (f <$> x) := by
  cases h with
  | ok result => exact .ok (each _ result)
  | error failed => exact .error failed

/-- Computations in a row end as the second does from every result of the first. -/
lemma bind {f : α → Except ε β} {x : Except ε α} (h : Ends P Q x)
    (each : ∀ a, P a → Ends R Q (f a)) : Ends R Q (x >>= f) := by
  cases h with
  | ok result => exact each _ result
  | error failed => exact .error failed

/-- A walk over a list ends as it does for each item, result by result. -/
lemma forall₂ {S : α → β → Prop} {f : α → Except ε β} {as : List α}
    (each : ∀ a ∈ as, Ends (S a) Q (f a)) : Ends (List.Forall₂ S as) Q (as.mapM f) := by
  induction as with
  | nil => exact .ok .nil
  | cons a as ih =>
    obtain ⟨head, tail⟩ := List.forall_mem_cons.1 each
    rw [List.mapM_cons]
    refine head.bind fun b result => (ih tail).bind fun bs results => ?_
    exact .ok (.cons result results)

/-- All results of a walk over a list have a property that each result has. -/
lemma mapM {f : α → Except ε β} {as : List α} (each : ∀ a ∈ as, Ends R Q (f a)) :
    Ends (fun bs => ∀ b ∈ bs, R b) Q (as.mapM f) :=
  (forall₂ each).imp fun _ related => forall_of_forall₂ related.flip

/-- If a walk over a list has a result, all items have a property that each has if it has one. -/
lemma mapM_items {P : α → Prop} {f : α → Except ε β} {as : List α}
    (each : ∀ a ∈ as, Ends (fun _ => P a) Q (f a)) : Ends (fun _ => ∀ a ∈ as, P a) Q (as.mapM f) :=
  (forall₂ each).imp fun _ related => forall_of_forall₂ related

/-- A place around a computation is one around the errors it ends with. -/
lemma within {Q Q' : Error → Prop} {x : Except Error α} {label : Label} (h : Ends P Q x)
    (around : ∀ error, Q error → Q' (error.within label)) : Ends P Q' (within label x) := by
  cases h with
  | ok result => exact .ok result
  | error failed => exact .error (around _ failed)

end Ends

end TreeTemplate
