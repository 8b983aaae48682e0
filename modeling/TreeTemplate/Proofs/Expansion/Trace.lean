import TreeTemplate.Proofs.Expansion.Step
import TreeTemplate.Proofs.Helper.Stock

/-!
# Expansions that count blocks

`Expansion.run` is told how many more blocks may be nested.  An expansion in practice is told how
many are around it, in a counter of 64 bits, and compares this depth with the limit whenever it comes
to a block.  `Expansion.trace` is the expansion in that form: the same walk over a tree, with
computations that note at which depth they come to a block and at which depth they call a helper,
and that keep their notes when they fail.

The invariant is that the depth and the number of blocks still to be nested make up the limit.  It
holds at every step, so the trace follows the run to the same result, nothing happens beyond the
limit, and the counter does not overflow (`Expansion.trace_follows`).
-/

namespace TreeTemplate

/-- What happens at a block, and how many blocks are around it then. -/
inductive Event where
  /-- The expansion comes to the block. -/
  | dispatched (helper : String) (arg : Path) (depth : UInt64)
  /-- The helper of the block is called. -/
  | called (helper : String) (arg : Path) (depth : UInt64)
deriving DecidableEq, Repr

/-- An expansion comes to blocks up to the limit, and it calls helpers below the limit only. -/
def Event.Within (limit : UInt64) : Event → Prop
  | .dispatched _ _ depth => depth ≤ limit
  | .called _ _ depth => depth < limit

/-- A computation that may fail, and what happened until it ended. -/
structure Traced (α : Type) where
  result : Except Error α
  events : List Event

namespace Traced

variable {α β : Type}

instance : Monad Traced where
  pure a := ⟨.ok a, []⟩
  bind x f :=
    match x.result with
    | .ok a => ⟨(f a).result, x.events ++ (f a).events⟩
    | .error error => ⟨.error error, x.events⟩

instance : LawfulMonad Traced :=
  LawfulMonad.mk' Traced
    (by
      rintro α ⟨result, events⟩
      cases result with
      | error error => rfl
      | ok a => exact congrArg (mk (.ok a)) (List.append_nil events))
    (fun a f => rfl)
    (by
      rintro α β γ ⟨result, events⟩ f g
      cases result with
      | error error => rfl
      | ok a =>
        simp only [bind]
        cases (f a).result with
        | error error => rfl
        | ok b => simp only [List.append_assoc])

/-- An event and nothing else. -/
def note (event : Event) : Traced Unit :=
  ⟨.ok (), [event]⟩

/-- The end of a computation without events. -/
def ofResult (result : Except Error α) : Traced α :=
  ⟨result, []⟩

/-- How a computation ends, be it with an error. -/
def outcome (x : Traced α) : Traced (Except Error α) :=
  ⟨.ok x.result, x.events⟩

/-- Puts a place around the error of a computation that fails. -/
def within (label : Label) (x : Traced α) : Traced α :=
  ⟨TreeTemplate.within label x.result, x.events⟩

instance : Located Traced := ⟨within⟩

/-- A traced computation ends as one without a trace does, and all its events have a property. -/
structure Follows (P : Event → Prop) (x : Traced α) (y : Except Error α) : Prop where
  result : x.result = y
  events : ∀ event ∈ x.events, P event

namespace Follows

variable {P : Event → Prop} {x : Traced α} {y : Except Error α}

lemma ofResult (y : Except Error α) : Follows P (ofResult y) y :=
  ⟨rfl, List.forall_mem_nil _⟩

lemma pure (a : α) : Follows P (pure a) (.ok a) :=
  .ofResult _

/-- A place around a walk is a place around what it follows. -/
lemma within (label : Label) (h : Follows P x y) :
    Follows P (x.within label) (TreeTemplate.within label y) :=
  ⟨congrArg (TreeTemplate.within label) h.result, h.events⟩

/-- Steps in a row follow the two computations in a row if each step does. -/
lemma bind {f : α → Traced β} {g : α → Except Error β} (h : Follows P x y)
    (each : ∀ a, Follows P (f a) (g a)) : Follows P (x >>= f) (y >>= g) := by
  obtain ⟨result, events⟩ := x
  obtain ⟨same, before⟩ := h
  cases same
  cases result with
  | error error => exact ⟨rfl, before⟩
  | ok a => exact ⟨(each a).result, List.forall_mem_append.2 ⟨before, (each a).events⟩⟩

/-- A step may go on with the outcome of the one before, a failure included. -/
lemma outcome {f : Except Error α → Traced β} {g : Except Error α → Except Error β}
    (h : Follows P x y) (each : ∀ a, Follows P (f a) (g a)) :
    Follows P (x.outcome >>= f) (g y) := by
  have ends : Follows P x.outcome (.ok y) := ⟨congrArg Except.ok h.result, h.events⟩
  exact ends.bind each

/-- An event that has the property may be noted before the rest. -/
lemma note {event : Event} {f : Unit → Traced α} (holds : P event) (h : Follows P (f ()) y) :
    Follows P (Traced.note event >>= f) y :=
  ⟨h.result, List.forall_mem_cons.2 ⟨holds, h.events⟩⟩

/-- Mapping the result of a walk maps that of what it follows. -/
lemma map (f : α → β) (h : Follows P x y) : Follows P (f <$> x) (f <$> y) := by
  rw [← bind_pure_comp, ← bind_pure_comp]
  exact h.bind fun a => .pure (f a)

/-- A walk over a list follows another if it does item by item. -/
lemma mapM {f : α → Traced β} {g : α → Except Error β} {as : List α}
    (each : ∀ a ∈ as, Follows P (f a) (g a)) : Follows P (as.mapM f) (as.mapM g) := by
  induction as with
  | nil => exact .pure []
  | cons a as ih =>
    obtain ⟨head, tail⟩ := List.forall_mem_cons.1 each
    rw [List.mapM_cons, List.mapM_cons]
    exact head.bind fun b => (ih tail).bind fun bs => .pure (b :: bs)

end Follows

end Traced

namespace Node

section

variable {P : Event → Prop} {value : Path → Value}
  {block : (helper : String) → (arg : Path) → (body : List Node) → Traced Fragment}
  {meaning : (helper : String) → (arg : Path) → (body : List Node) → Except Error Fragment}

/-- Expanding nodes and noting the blocks follows expanding them, if it does for each node. -/
lemma expandEachWith_follows {nodes : List Node}
    (each : ∀ node ∈ nodes, (node.expandWith value block).Follows P (node.expandWith value meaning)) :
    (expandEachWith value block nodes).Follows P (expandEachWith value meaning nodes) := by
  induction nodes with
  | nil => exact .pure []
  | cons node rest ih =>
    obtain ⟨head, tail⟩ := List.forall_mem_cons.1 each
    rw [expandEachWith, expandEachWith]
    exact head.bind fun fragment => (ih tail).bind fun fragments => .pure _

/-- Expanding attributes and noting the blocks follows expanding them, if it does for each value. -/
lemma expandAttrsWith_follows {attrs : List (String × Node)}
    (each : ∀ attr ∈ attrs,
      (attr.2.expandWith value block).Follows P (attr.2.expandWith value meaning)) :
    (expandAttrsWith value block attrs).Follows P (expandAttrsWith value meaning attrs) := by
  induction attrs with
  | nil => exact .pure []
  | cons attr rest ih =>
    obtain ⟨head, tail⟩ := List.forall_mem_cons.1 each
    rw [expandAttrsWith, expandAttrsWith]
    exact head.bind fun fragment => (ih tail).bind fun expanded => .pure _

/-- The walk with notes follows the one without, if it does at blocks. -/
lemma expandWith_follows
    (blocks : ∀ helper arg body, (block helper arg body).Follows P (meaning helper arg body))
    (node : Node) : (node.expandWith value block).Follows P (node.expandWith value meaning) := by
  induction node with
  | element tag attrs children ihAttrs ihChildren =>
    rw [expandWith, expandWith]
    have row : ∀ attrs : Option (List (String × Node)), Traced.Follows P
        (do pure [element tag attrs (← expandEachWith value block children).flatten])
        (do pure [element tag attrs (← expandEachWith value meaning children).flatten]) :=
      fun attrs => (expandEachWith_follows ihChildren).bind fun fragments => .pure _
    cases attrs with
    | none => exact .within _ (.bind (.pure none) row)
    | some attrs => exact .within _ (.bind ((expandAttrsWith_follows ihAttrs).map some) row)
  | var | raw | literal | unescaped => exact .pure _
  | block helper arg body => exact blocks helper arg body
  | join nodes ih => exact (expandEachWith_follows ih).map Fragment.spaced
  | concat nodes ih => exact (expandEachWith_follows ih).map List.flatten
  | group nodes ih => exact (expandEachWith_follows ih).map List.flatten

end

end Node

/-- Below a limit the counter does not overflow. -/
lemma toNat_add_one_of_lt {depth limit : UInt64} (below : depth < limit) :
    (depth + 1).toNat = depth.toNat + 1 := by
  have small := UInt64.lt_iff_toNat_lt.1 below
  have bounded := limit.toNat_lt
  rw [UInt64.toNat_add]
  exact Nat.mod_eq_of_lt (by change depth.toNat + 1 < 2 ^ 64; omega)

namespace Expansion

/-- Expands a tree with so many blocks around it, with stock helpers by name. -/
def trace (expansion : Expansion) (stock? : String → Option Stock) (depth : UInt64)
    (current : Value) (node : Node) : Traced Fragment :=
  node.expandWith (expansion.value current) fun helper arg body =>
    Traced.within (.block helper arg) do
      Traced.note (.dispatched helper arg depth)
      if _ : depth < expansion.limit then
        match stock? helper with
        | none => Traced.ofResult (fail (.helperNotFound helper))
        | some stock =>
          Traced.note (.called helper arg depth)
          let value := expansion.value current arg
          let renderings ← Traced.outcome <| (stock.contexts value current).mapM fun context =>
            Node.concat <$> expansion.trace stock? (depth + 1) context (.concat body)
          let result ← Traced.ofResult (stock.finish value current body renderings)
          expansion.trace stock? (depth + 1) current result
      else Traced.ofResult (fail (.maxDepth expansion.limit))
termination_by expansion.limit.toNat - depth.toNat
decreasing_by
  all_goals
    have below : depth < expansion.limit := by assumption
    have small := UInt64.lt_iff_toNat_lt.1 below
    rw [toNat_add_one_of_lt below]
    omega

/-- An expansion with its depth counted up follows the one that counts down what is left. -/
theorem trace_follows {expansion : Expansion} {stock? : String → Option Stock}
    (registers : ∀ name, expansion.helper? name = (stock? name).map Stock.helper) {left : Nat}
    {depth : UInt64} (complete : depth.toNat + left = expansion.limit.toNat) (current : Value)
    (node : Node) :
    (expansion.trace stock? depth current node).Follows (Event.Within expansion.limit)
      (expansion.run left current node) := by
  -- the depth grows as what is left shrinks, so that `complete` is kept
  induction left generalizing depth current node with
  | zero =>
    rw [trace, run_eq_expandWith]
    refine Node.expandWith_follows (fun helper arg body => ?_) node
    have full : ¬ depth < expansion.limit := by
      rw [UInt64.lt_iff_toNat_lt]
      omega
    have reached : depth ≤ expansion.limit := UInt64.le_iff_toNat_le.2 (by omega)
    rw [run_block_zero, dif_neg full]
    exact .within _ (.note reached (.ofResult _))
  | succ left ih =>
    rw [trace, run_eq_expandWith]
    refine Node.expandWith_follows (fun helper arg body => ?_) node
    have below : depth < expansion.limit := UInt64.lt_iff_toNat_lt.2 (by omega)
    have deeper : (depth + 1).toNat + left = expansion.limit.toNat := by
      rw [toNat_add_one_of_lt below]
      omega
    rw [run_block_succ, dif_pos below, registers]
    refine .within _ (.note (UInt64.le_of_lt below) ?_)
    cases stock? helper with
    | none => exact .ofResult _
    | some stock =>
      rw [Option.map_some]
      refine .note below ?_
      simp only [Stock.helper_eq]
      have renders := Traced.Follows.mapM fun context
        (_ : context ∈ stock.contexts (expansion.value current arg) current) =>
          (ih deeper context (.concat body)).map Node.concat
      have expands : ∀ renderings, Traced.Follows (Event.Within expansion.limit)
          (Traced.ofResult (stock.finish (expansion.value current arg) current body renderings)
            >>= expansion.trace stock? (depth + 1) current)
          (stock.finish (expansion.value current arg) current body renderings
            >>= expansion.run left current) :=
        fun renderings => (Traced.Follows.ofResult _).bind fun result => ih deeper current result
      exact renders.outcome expands

end Expansion

end TreeTemplate
