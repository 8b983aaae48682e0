import TreeTemplate.Proofs.Expansion.Failure
import TreeTemplate.Proofs.Expansion.Trace
import TreeTemplate.Proofs.Sequence

/-!
# The limit on nested blocks

Both the body of a block and what its helper returns are nested in the block, and each of these
errors gets the block on its trail once.  So the number of blocks on the trail of an error is at most
one more than what may be nested, and it is that number if the limit was reached and in no other case
(`Error.Bounded`).  Stock helpers keep this, also those that return blocks without end: they add no
blocks to a trail, and they show an error of the body or drop it as a whole.
-/

namespace TreeTemplate

/-- The trail of an error where so many blocks may be nested: it has one block more than that if the
limit was reached, and else no more than that. -/
structure Error.Bounded (left : Nat) (error : Error) : Prop where
  reached : error.kind = .maxDepth → blockCount error.trail = left + 1
  other : error.kind ≠ .maxDepth → blockCount error.trail ≤ left
  named : ∀ label ∈ error.trail, label.Named

namespace Error

variable {left : Nat} {error : Error}

/-- An error of building a node is within any bound: no block is on its trail, and it is not the
limit that was reached. -/
lemma OfBuilding.bounded (building : error.OfBuilding) (left : Nat) : error.Bounded left := by
  refine ⟨fun reached => absurd reached building.kind, fun _ => ?_, building.named⟩
  rw [building.blockCount_trail]
  exact Nat.zero_le left

/-- A block around an error is one level more. -/
lemma Bounded.block (bounded : error.Bounded left) (helper : String) (arg : Path) :
    (error.within (.block helper arg)).Bounded (left + 1) := by
  have longer : blockCount (error.within (.block helper arg)).trail = blockCount error.trail + 1 :=
    blockCount_block helper arg error.trail
  refine ⟨fun reached => ?_, fun other => ?_, List.forall_mem_cons.2 ⟨trivial, bounded.named⟩⟩
  · rw [longer, bounded.reached reached]
  · rw [longer]
    exact Nat.succ_le_succ (bounded.other other)

/-- Elements around an error do not count. -/
lemma Bounded.under (bounded : error.Bounded left) {labels : List Label}
    (noBlock : blockCount labels = 0) (named : ∀ label ∈ labels, label.Named) :
    (error.under labels).Bounded left := by
  have same : blockCount (error.under labels).trail = blockCount error.trail := by
    rw [Error.under, blockCount_append, noBlock, Nat.zero_add]
  refine ⟨fun reached => ?_, fun other => ?_, List.forall_mem_append.2 ⟨named, bounded.named⟩⟩
  · rw [same]
    exact bounded.reached reached
  · rw [same]
    exact bounded.other other

/-- How many places on the trail read as opening tokens of blocks. -/
def openings (error : Error) : Nat :=
  (error.trail.map Label.text).countP opensBlock

/-- On a trail with valid names the opening tokens are those of the blocks. -/
lemma openings_eq_blockCount (named : ∀ label ∈ error.trail, label.Named) :
    error.openings = blockCount error.trail := by
  rw [openings, List.countP_map]
  refine List.countP_congr fun label among => ?_
  rw [Function.comp_apply, Label.opensBlock_text (named label among)]

/-- The number of opening tokens tells whether the limit was reached. -/
lemma Bounded.openings (bounded : error.Bounded left) :
    error.openings ≤ left + 1 ∧ (error.openings = left + 1 ↔ error.kind = .maxDepth) := by
  rw [openings_eq_blockCount bounded.named]
  by_cases reached : error.kind = .maxDepth
  · have many := bounded.reached reached
    exact ⟨Nat.le_of_eq many, iff_of_true many reached⟩
  · have few := bounded.other reached
    exact ⟨Nat.le_succ_of_le few, iff_of_false (by omega) reached⟩

end Error

namespace Expansion

variable {expansion : Expansion} {stock? : String → Option Stock}

/-- No block is left in what a run gives, and so no place around one. -/
lemma placesNamed_of_run {left : Nat} {current : Value} {node : Node} {fragment : Fragment}
    (h : expansion.run left current node = .ok fragment) : (Node.concat fragment).PlacesNamed := by
  have settled : ∀ member ∈ (Node.concat fragment).row, member.Settled := expansion.run_settled h
  have free : (Node.concat fragment).BlockFree := by
    intro helper arg body occurs
    cases (Node.everywhere_isExpanded_of_row settled _ occurs).1
  exact free.placesNamed

/-- The error of a run is bounded by the number of blocks that may be nested. -/
theorem run_bounded (registers : ∀ name, expansion.helper? name = (stock? name).map Stock.helper)
    {left : Nat} {current : Value} {node : Node} (named : node.PlacesNamed) {error : Error}
    (h : expansion.run left current node = .error error) : error.Bounded left := by
  induction left generalizing current node error with
  | zero =>
    obtain ⟨helper, arg, body, labels, inner, occurs, noBlock, fails, rfl⟩ :=
      exists_block_of_run_eq_error h
    rw [run_block_zero] at fails
    cases fails
    refine .under ⟨fun _ => rfl, fun other => absurd rfl other, ?_⟩ noBlock
      (named helper arg body labels occurs)
    exact List.forall_mem_singleton.2 trivial
  | succ left ih =>
    obtain ⟨helper, arg, body, labels, inner, occurs, noBlock, fails, rfl⟩ :=
      exists_block_of_run_eq_error h
    refine .under ?_ noBlock (named helper arg body labels occurs)
    rw [run_block_succ] at fails
    obtain ⟨cause, atBlock, rfl⟩ := within_eq_error_iff.1 fails
    refine .block ?_ helper arg
    rw [registers] at atBlock
    cases found : stock? helper with
    | none =>
      simp only [found, Option.map_none, fail, Except.error.injEq] at atBlock
      subst atBlock
      exact ⟨nofun, fun _ => Nat.zero_le left, List.forall_mem_nil _⟩
    | some stock =>
      simp only [found, Option.map_some] at atBlock
      have inBody : ∀ node ∈ body, node.PlacesNamed := (named.of_occursUnder occurs).part
      have renders : ∀ context, Ends Node.PlacesNamed (Error.Bounded left)
          (Node.concat <$> expansion.run left context (.concat body)) := by
        intro context
        have row : (Node.concat body).PlacesNamed := .of_bare rfl inBody
        cases runs : expansion.run left context (.concat body) with
        | error error => exact .error (ih row runs)
        | ok fragment => exact .ok (placesNamed_of_run runs)
      have building : ∀ error : Error, error.OfBuilding → error.Bounded left :=
        fun error building => building.bounded left
      have calls := stock.helper_ends Node.inherited_placesNamed building
        (fun result built _ => built.mono building) (expansion.value current arg)
        ⟨body, current, expansion.limit.toNat - left, _⟩ inBody renders
      -- what the helper returns is expanded as the body is, with one block less to be nested
      rcases bind_eq_error_iff.1 atBlock with inCall | ⟨result, returns, inResult⟩
      · exact calls.of_error inCall
      · exact ih (calls.of_ok returns) inResult

end Expansion

/-- The limit on nested blocks is exact, whatever stock helpers an engine has and under whatever
names.  The expansion counts in 64 bits how many blocks it is in.  It comes to no block beyond the
limit and calls no helper at the limit, so that the counter does not overflow, and the trail of an
error has at most one opening token more than may be nested, and this many if the limit was reached
and in no other case. -/
theorem Engine.expandFrom_depth {engine : Engine} {stock? : String → Option Stock}
    (registers : ∀ name, engine.helpers.lookup name = (stock? name).map Stock.helper)
    {template : Node} (wf : template.WellFormed) (context : Value) :
    let traced := (engine.expansion context).trace stock? 0 context template
    Fragment.toRoot <$> traced.result = engine.expandFrom (.tree template) context
      ∧ (∀ helper arg depth, .dispatched helper arg depth ∈ traced.events →
        depth ≤ engine.maxDepth)
      ∧ (∀ helper arg depth, .called helper arg depth ∈ traced.events →
        depth < engine.maxDepth ∧ (depth + 1).toNat = depth.toNat + 1)
      ∧ ∀ error, engine.expandFrom (.tree template) context = .error error →
        error.openings ≤ engine.maxDepth.toNat + 1
          ∧ (error.openings = engine.maxDepth.toNat + 1 ↔ error.kind = .maxDepth) := by
  intro traced
  have registered : ∀ name, (engine.expansion context).helper? name
      = (stock? name).map Stock.helper := registers
  have follows : traced.Follows (Event.Within engine.maxDepth)
      ((engine.expansion context).run engine.maxDepth.toNat context template) :=
    Expansion.trace_follows registered (Nat.zero_add _) context template
  refine ⟨?_, fun helper arg depth among => follows.events _ among, fun helper arg depth among => ?_,
    fun error fails => ?_⟩
  · rw [follows.result]
    rfl
  · have below : depth < engine.maxDepth := follows.events _ among
    exact ⟨below, toNat_add_one_of_lt below⟩
  · exact (Expansion.run_bounded registered wf.placesNamed (map_eq_error_iff.1 fails)).openings

/-- A helper that returns a call of itself reaches the limit, and the trail shows it. -/
theorem Engine.expandFrom_depth_of_endless_helper :
    let again : Node := .block "again" .this []
    let engine : Engine := (Engine.new.setMaxDepth 2).addHelper "again" (Helper.constant (.ok again))
    let stock : List (String × Stock) :=
      [("again", .constant (.ok again) (.of_wellFormed ⟨rfl, rfl, trivial⟩)),
        ("each", .builtin .each), ("else", .builtin .ifUnset), ("if", .builtin .ifSet),
        ("unless", .builtin .ifUnset), ("with", .builtin .withValue)]
    let template : Node := .element "p" none [again]
    let error : Error := ⟨.maxDepth 2,
      [.element "p", .block "again" .this, .block "again" .this, .block "again" .this], none⟩
    let traced := (engine.expansion .none).trace (fun name => stock.lookup name) 0 .none template
    (∀ name, engine.helpers.lookup name = (stock.lookup name).map Stock.helper)
      ∧ template.WellFormed ∧ engine.expandFrom (.tree template) .none = .error error
      ∧ Fragment.toRoot <$> traced.result = .error error
      ∧ (∀ helper arg depth, .dispatched helper arg depth ∈ traced.events → depth ≤ 2)
      ∧ (∀ helper arg depth, .called helper arg depth ∈ traced.events →
        depth < 2 ∧ (depth + 1).toNat = depth.toNat + 1)
      ∧ error.openings ≤ 3 ∧ (error.openings = 3 ↔ error.kind = .maxDepth) := by
  intro again engine stock template error traced
  have registers : ∀ name, engine.helpers.lookup name = (stock.lookup name).map Stock.helper :=
    fun name => lookup_map_snd Stock.helper stock name
  have wf : template.WellFormed := ⟨rfl, trivial, ⟨rfl, rfl, trivial⟩, trivial⟩
  have fails : engine.expandFrom (.tree template) .none = .error error := rfl
  obtain ⟨result, dispatched, called, bounded⟩ := expandFrom_depth registers wf .none
  exact ⟨registers, wf, fails, result.trans fails, dispatched, called, bounded error fails⟩

end TreeTemplate
