import TreeTemplate.Proofs.Engine
import TreeTemplate.Proofs.Expansion.Step
import TreeTemplate.Proofs.Helper.Plan

/-!
# Raising the limit on nested blocks

Under a higher limit an expansion goes on where it was stopped under the lower one, and up to there
both do the same.  A block counts how many more blocks may be nested in it, and under the higher
limit this number is greater by the same amount at every place.  So the two runs are compared by
induction on it: where nothing more may be nested the first is stopped, and elsewhere both call the
same helper, which renders the body with one block less to be nested.  A helper that passes on
errors passes on that of the limit, so that it cannot make a result of it
(`Expansion.run_sameUnless`).  Builtin helpers do not look at the limit either, so with them it shows
in nothing but its own error (`Expansion.run_withLimit`).
-/

namespace TreeTemplate

/-- An error says that the limit on nested blocks was reached. -/
def Error.OfLimit (error : Error) : Prop :=
  error.kind = .maxDepth

/-- The same cause, but that it names another limit if it is that the limit was reached. -/
def Cause.withLimit (limit : UInt64) : Cause → Cause
  | .maxDepth _ => .maxDepth limit
  | cause => cause

/-- A cause keeps its kind when it names another limit. -/
lemma Cause.kind_withLimit (limit : UInt64) (cause : Cause) :
    (cause.withLimit limit).kind = cause.kind := by
  cases cause <;> rfl

/-- The same error, but that it names another limit if it is that the limit was reached. -/
def Error.withLimit (limit : UInt64) (error : Error) : Error :=
  { error with cause := error.cause.withLimit limit }

/-- All helpers of an engine pass on the errors of their bodies. -/
def Engine.PassesErrors (engine : Engine) : Prop :=
  ∀ name helper, engine.helpers.lookup name = some helper → helper.PassesErrors

namespace Expansion

/-- The same expansion with another limit on nested blocks. -/
def withLimit (expansion : Expansion) (limit : UInt64) : Expansion :=
  { expansion with limit }

variable (expansion : Expansion) (limit : UInt64)

/-- Another limit leaves the helpers as they are. -/
@[simp]
lemma withLimit_helper? : (expansion.withLimit limit).helper? = expansion.helper? := rfl

@[simp]
lemma withLimit_limit : (expansion.withLimit limit).limit = limit := rfl

/-- Another limit leaves the values of the placeholders as they are. -/
@[simp]
lemma withLimit_value : (expansion.withLimit limit).value = expansion.value := rfl

variable {expansion}

/-- With more blocks that may be nested a run ends in the same way, unless it reached the limit. -/
theorem run_sameUnless
    (passes : ∀ name helper, expansion.helper? name = some helper → helper.PassesErrors)
    {low high : UInt64} {more : Nat} (higher : high.toNat = low.toNat + more) (left : Nat)
    (current : Value) (node : Node) :
    SameUnless Error.OfLimit ((expansion.withLimit low).run left current node)
      ((expansion.withLimit high).run (left + more) current node) := by
  have around : ∀ label error, Error.OfLimit error → Error.OfLimit (error.within label) :=
    fun label error reached => reached
  induction left generalizing current node with
  | zero =>
    rw [run_eq_expandWith, run_eq_expandWith (expansion.withLimit high)]
    refine Node.expandWith_sameUnless _ around fun helper arg body _ => ?_
    exact .stopped _ rfl
  | succ left ih =>
    rw [Nat.succ_add, run_eq_expandWith, run_eq_expandWith (expansion.withLimit high)]
    refine Node.expandWith_sameUnless _ around fun helper arg body _ => ?_
    rw [run_block_succ, run_block_succ]
    refine SameUnless.mapError ?_ (around _)
    -- the body is as deep in both runs, for the limit and what is left of it differ by `more`
    have depth : high.toNat - (left + more) = low.toNat - left := by omega
    simp only [withLimit_helper?, withLimit_limit, withLimit_value, depth]
    cases found : expansion.helper? helper with
    | none => exact .same _
    | some call =>
      obtain ⟨plan, goesBy⟩ := passes helper call found (expansion.value current arg) body current
        (low.toNat - left)
      have renders : ∀ context, SameUnless Error.OfLimit
          (Node.concat <$> (expansion.withLimit low).run left context (.concat body))
          (Node.concat <$> (expansion.withLimit high).run (left + more) context (.concat body)) :=
        fun context => (ih context (.concat body)).map Node.concat
      have calls := plan.run_sameUnless renders
      rw [← goesBy, ← goesBy] at calls
      exact calls.bind fun result => ih current result

/-- With builtin helpers the limit shows in its own error only.  It is what is left of it that a run
goes by. -/
theorem run_withLimit (builtin : expansion.OnlyBuiltins) (limit : UInt64) (left : Nat)
    (current : Value) (node : Node) :
    (expansion.withLimit limit).run left current node =
      (expansion.run left current node).mapError (Error.withLimit limit) := by
  have around : ∀ (label : Label) (error : Error),
      Error.withLimit limit (error.within label) = (Error.withLimit limit error).within label :=
    fun label error => rfl
  induction left generalizing current node with
  | zero =>
    rw [run_eq_expandWith, run_eq_expandWith expansion, Node.mapError_expandWith _ _ around]
    rfl
  | succ left ih =>
    rw [run_eq_expandWith, run_eq_expandWith expansion, Node.mapError_expandWith _ _ around]
    refine Node.expandWith_congr _ fun helper arg body _ => ?_
    cases found : expansion.helper? helper with
    | none =>
      have foundOther : (expansion.withLimit limit).helper? helper = none := found
      rw [run_block_unknown found, run_block_unknown foundOther]
      rfl
    | some call =>
      obtain ⟨which, rfl⟩ := builtin helper call found
      have foundOther : (expansion.withLimit limit).helper? helper = some which.helper := found
      rw [run_block_builtin found, run_block_builtin foundOther, mapError_within (around _),
        mapError_map, mapError_mapM, mapM_congr fun context _ => ih context (.concat body)]
      rfl

end Expansion

namespace Engine

/-- The runs of an engine with builtin helpers are the same under all limits, but for what their error
says of the limit. -/
lemma run_setMaxDepth {engine : Engine} (builtin : engine.OnlyBuiltins) (low high : UInt64)
    (context : Value) (left : Nat) (current : Value) (node : Node) :
    ((engine.setMaxDepth high).expansion context).run left current node =
      (((engine.setMaxDepth low).expansion context).run left current node).mapError
        (Error.withLimit high) := by
  have builtinRun : ((engine.setMaxDepth low).expansion context).OnlyBuiltins := builtin
  exact Expansion.run_withLimit builtinRun high left current node

/-- To raise the limit changes the end of an expansion only if the limit was reached. -/
lemma expandFrom_sameUnless {engine : Engine} (passes : engine.PassesErrors) (source : Source)
    (context : Value) {low high : UInt64} (raised : low ≤ high) :
    SameUnless Error.OfLimit ((engine.setMaxDepth low).expandFrom source context)
      ((engine.setMaxDepth high).expandFrom source context) := by
  have higher : high.toNat = low.toNat + (high.toNat - low.toNat) :=
    (Nat.add_sub_cancel' (UInt64.le_iff_toNat_le.1 raised)).symm
  have passesRun : ∀ name helper, (engine.expansion context).helper? name = some helper →
      helper.PassesErrors := passes
  have expands : ∀ root, SameUnless Error.OfLimit
      (((engine.expansion context).withLimit low).expand root)
      (((engine.expansion context).withLimit high).expand root) := by
    intro root
    have runs := Expansion.run_sameUnless passesRun higher low.toNat context root
    rw [← higher] at runs
    exact runs.map Fragment.toRoot
  have sameFind : ∀ limit, (engine.setMaxDepth limit).find source = engine.find source := by
    intro limit
    cases source <;> rfl
  unfold expandFrom apply
  rw [sameFind, sameFind]
  refine SameUnless.bind (.same _) fun found => ?_
  obtain ⟨root, name⟩ := found
  cases name with
  | none => exact expands root
  | some name => exact (expands root).mapError fun error reached => reached

/-- An engine with stock helpers has helpers that pass on errors, if none of them shows errors. -/
lemma passesErrors_of_stock {engine : Engine} {stock? : String → Option Stock}
    (registers : ∀ name, engine.helpers.lookup name = (stock? name).map Stock.helper)
    (passes : ∀ name, stock? name ≠ some .attempt) : engine.PassesErrors := by
  intro name helper found
  rw [registers, Option.map_eq_some_iff] at found
  obtain ⟨stock, registered, rfl⟩ := found
  apply Stock.helper_passesErrors
  rintro rfl
  exact passes name registered

/-- A higher limit never changes a result.  Where all helpers pass on the errors of their bodies, as
all builtin and stock helpers but the one that shows errors do, an expansion that has a result under
a limit has the same under every higher one, and an error under a limit that is not about the limit
is the error under every higher one. -/
theorem expandFrom_setMaxDepth :
    (∀ stock : Stock, stock ≠ .attempt → stock.helper.PassesErrors)
      ∧ ∀ engine : Engine, engine.PassesErrors → ∀ source context (low high : UInt64), low ≤ high →
        (∀ node, (engine.setMaxDepth low).expandFrom source context = .ok node →
          (engine.setMaxDepth high).expandFrom source context = .ok node)
        ∧ ∀ error, (engine.setMaxDepth low).expandFrom source context = .error error →
          error.kind ≠ .maxDepth →
          (engine.setMaxDepth high).expandFrom source context = .error error := by
  refine ⟨fun stock passes => stock.helper_passesErrors passes, ?_⟩
  intro engine passes source context low high raised
  have same := expandFrom_sameUnless passes source context raised
  refine ⟨fun node succeeds => same.eq_ok succeeds, ?_⟩
  intro error fails other
  exact same.eq_error fails other

/-- A helper that renders its body twice gives the same under the greatest limit as under two, and
so does a block in it whose helper is missing. -/
theorem expandFrom_setMaxDepth_of_missing_helper :
    let engine := Engine.new.addHelper "twice" Helper.both
    let sound : Node := .block "twice" .this [.block "if" .this [.var .this]]
    let broken : Node := .block "twice" .this [.block "shout" .this []]
    let context : Value := .string "a"
    let high : UInt64 := 18446744073709551615
    let node : Node :=
      .group [.literal (.string "a"), .literal (.string " "), .literal (.string "a")]
    let error : Error :=
      ⟨.helperNotFound "shout", [.block "twice" .this, .block "shout" .this], none⟩
    engine.PassesErrors ∧ 2 ≤ high
      ∧ (engine.setMaxDepth 2).expandFrom (.tree sound) context = .ok node
      ∧ (engine.setMaxDepth high).expandFrom (.tree sound) context = .ok node
      ∧ (engine.setMaxDepth 2).expandFrom (.tree broken) context = .error error
      ∧ error.kind ≠ .maxDepth
      ∧ (engine.setMaxDepth high).expandFrom (.tree broken) context = .error error := by
  intro engine sound broken context high node error
  let stock : List (String × Stock) :=
    [("each", .builtin .each), ("else", .builtin .ifUnset), ("if", .builtin .ifSet),
      ("twice", .both), ("unless", .builtin .ifUnset), ("with", .builtin .withValue)]
  have registers : ∀ name, engine.helpers.lookup name = (stock.lookup name).map Stock.helper :=
    fun name => lookup_map_snd Stock.helper stock name
  have passes : engine.PassesErrors := by
    refine passesErrors_of_stock registers fun name shows => ?_
    have among := mem_of_lookup_eq_some shows
    simp [stock] at among
  have raised : 2 ≤ high := by decide
  have succeeds : (engine.setMaxDepth 2).expandFrom (.tree sound) context = .ok node := rfl
  have fails : (engine.setMaxDepth 2).expandFrom (.tree broken) context = .error error := rfl
  have other : error.kind ≠ .maxDepth := by decide
  obtain ⟨-, unchanged⟩ := expandFrom_setMaxDepth
  obtain ⟨result, -⟩ := unchanged engine passes (.tree sound) context 2 high raised
  obtain ⟨-, failure⟩ := unchanged engine passes (.tree broken) context 2 high raised
  exact ⟨passes, raised, succeeds, result node succeeds, fails, other, failure error fails other⟩

end Engine

end TreeTemplate
