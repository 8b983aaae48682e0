import TreeTemplate.Proofs.Helper.Stock

/-!
# Helpers that pass on the errors of their body

A helper sees of the body only what rendering gives.  If it passes on every error of rendering, it
goes by a plan: it renders the body in a context and goes on with the node that it gets, until it
has a result, and an error on the way ends it.  The plan may depend on all that the helper is given
besides the rendering, and each step on the nodes before it.

Two ways of rendering lead a plan to the same end if they agree, and where one is stopped the plan
is stopped as well (`Plan.run_sameUnless`).  All builtin and stock helpers but one go by a plan
(`Stock.helper_passesErrors`); the one that shows an error of the body does not
(`Helper.not_passesErrors_attempt`).
-/

namespace TreeTemplate

/-- What is done with a body: it is rendered in a context, and what is done next depends on the node
that it gives, or there is a result. -/
inductive Plan where
  | done (result : Except Error Node)
  | render (context : Value) (next : Node → Plan)

namespace Plan

/-- The end of a plan with a way to render the body. -/
def run (render : Value → Except Error Node) : Plan → Except Error Node
  | .done result => result
  | .render context next => render context >>= fun node => (next node).run render

/-- Where rendering in one way is the same as in another unless it is stopped, so is a plan. -/
lemma run_sameUnless {stops : Error → Prop} {render other : Value → Except Error Node}
    (each : ∀ context, SameUnless stops (render context) (other context)) (plan : Plan) :
    SameUnless stops (plan.run render) (plan.run other) := by
  induction plan with
  | done result => exact .same result
  | render context next ih => exact (each context).bind ih

/-- Renders the body in several contexts, and makes a result of the nodes. -/
def inEach (finish : List Node → Except Error Node) : List Value → Plan
  | [] => .done (finish [])
  | context :: rest => .render context fun node => inEach (fun nodes => finish (node :: nodes)) rest

/-- To render a body in contexts is to render it in each, in order, and then to finish. -/
lemma run_inEach (render : Value → Except Error Node) (finish : List Node → Except Error Node)
    (contexts : List Value) :
    (inEach finish contexts).run render = contexts.mapM render >>= finish := by
  induction contexts generalizing finish with
  | nil => rfl
  | cons context rest ih =>
    rw [inEach, run, List.mapM_cons, bind_assoc]
    refine congrArg (render context >>= ·) (funext fun node => ?_)
    rw [ih, bind_assoc]
    rfl

end Plan

/-- A helper goes by a plan, whatever it is given, so that it ends with the first error of the body
that it meets. -/
def Helper.PassesErrors (helper : Helper) : Prop :=
  ∀ value nodes context depth, ∃ plan : Plan, ∀ render,
    helper value ⟨nodes, context, depth, render⟩ = plan.run render

/-- All stock helpers but the one that shows errors make nothing of an error of the body. -/
lemma Stock.finish_mapM {stock : Stock} (passes : stock ≠ .attempt) (value current : Value)
    (body : List Node) (render : Value → Except Error Node) :
    stock.finish value current body ((stock.contexts value current).mapM render) =
      (stock.contexts value current).mapM render >>= fun nodes =>
        stock.finish value current body (.ok nodes) := by
  cases stock with
  | builtin which =>
    cases which <;> cases List.mapM render (contexts _ value current) <;> rfl
  | times | render | both => cases List.mapM render (contexts _ value current) <;> rfl
  | wrap tag =>
    unfold contexts finish
    dsimp only
    split
    · cases List.mapM render [value] <;> rfl
    · rfl
  | constant | echo | echoRaw | decode | nodes | count => rfl
  | attempt => exact absurd rfl passes

/-- Each helper of the stock but `attempt` passes on the errors of the bodies that it renders. -/
theorem Stock.helper_passesErrors {stock : Stock} (passes : stock ≠ .attempt) :
    stock.helper.PassesErrors := by
  intro value nodes context depth
  refine ⟨.inEach (fun rendered => stock.finish value context nodes (.ok rendered))
    (stock.contexts value context), fun render => ?_⟩
  rw [Plan.run_inEach, helper_eq, ← finish_mapM passes]

/-- A helper that shows the error of its body goes by no plan: a plan that renders ends with the
error, and one that does not render never shows it. -/
theorem Helper.not_passesErrors_attempt : ¬ Helper.attempt.PassesErrors := by
  intro passes
  obtain ⟨plan, goesBy⟩ := passes .none [] .none 0
  have failing := goesBy fun _ => fail .emptyPath
  have succeeding := goesBy fun _ => .ok (.group [])
  cases plan with
  | done result =>
    have same := failing.trans succeeding.symm
    cases same
  | render context next => cases failing

end TreeTemplate
