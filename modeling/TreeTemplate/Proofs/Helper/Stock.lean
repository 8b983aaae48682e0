import TreeTemplate.Helper.Stock
import TreeTemplate.Proofs.Form.Built
import TreeTemplate.Proofs.Helper.Builtin

/-!
# What the stock helpers do with their body

A stock helper decides from the value of its argument in which contexts it renders the body, and it
makes its result from what it gets: the nodes for all the contexts, or the first error
(`Stock.helper_eq`).  It nests what it gets in nothing but an element with a valid tag, and an error
that is not of the body is one of building a tree (`Stock.helper_ends`).
-/

namespace TreeTemplate

/-- The builtin helpers and those that a program may register beside them. -/
inductive Stock where
  | builtin (helper : Builtin)
  | constant (result : Except Error Node) (built : Built result)
  | echo
  | echoRaw
  | decode
  | nodes
  | count
  | times
  | render (context : Value)
  | both
  | wrap (tag : String)
  | attempt

namespace Stock

/-- What a stock helper does. -/
def helper : Stock → Helper
  | .builtin which => which.helper
  | .constant result _ => Helper.constant result
  | .echo => Helper.echo
  | .echoRaw => Helper.echoRaw
  | .decode => Helper.decode
  | .nodes => Helper.nodes
  | .count => Helper.count
  | .times => Helper.times
  | .render context => Helper.render context
  | .both => Helper.both
  | .wrap tag => Helper.wrap tag
  | .attempt => Helper.attempt

/-- The contexts in which a stock helper renders its body, one after the other, given the value of
its argument and the current context. -/
def contexts (stock : Stock) (value current : Value) : List Value :=
  match stock with
  | .builtin which => which.contexts value current
  | .times => List.replicate (Helper.repetitions value) current
  | .render context => [context]
  | .both => [value, current]
  | .wrap tag => if isTagName tag then [value] else []
  | .attempt => [value]
  | .constant _ _ | .echo | .echoRaw | .decode | .nodes | .count => []

/-- Nodes in a row, and one node as it is. -/
def row : List Node → Node
  | [node] => node
  | members => .concat members

/-- What a stock helper makes of its renderings. -/
def finish (stock : Stock) (value current : Value) (body : List Node)
    (renderings : Except Error (List Node)) : Except Error Node :=
  match stock with
  | .builtin .each | .times => Node.concat <$> renderings
  | .builtin _ | .render _ => row <$> renderings
  | .constant result _ => result
  | .echo => .ok (.literal value)
  | .echoRaw => .ok (.unescaped value)
  | .decode => Node.ofValue value
  | .nodes => .ok (.concat body)
  | .count =>
    .ok (.concat [.literal (.integer (Int64.ofNat body.length)), .literal current])
  | .both => Node.join <$> renderings
  | .wrap tag =>
    if isTagName tag then Node.element tag (some [("arg", .literal value)]) <$> renderings
    else fail (.invalidTag tag)
  | .attempt =>
    match renderings with
    | .ok members => .ok (row members)
    | .error error => .ok (.literal (.string error.display))

/-- A stock helper renders its body in the contexts that it chooses, and makes its result of what it
gets. -/
theorem helper_eq (stock : Stock) (value : Value) (body : Body) :
    stock.helper value body =
      stock.finish value body.context body.nodes
        ((stock.contexts value body.context).mapM body.render) := by
  cases stock with
  | builtin builtin =>
    cases builtin with
    | withValue =>
      simp only [helper, Builtin.helper, Helper.withValue, contexts, Builtin.contexts, finish,
        List.mapM_cons, List.mapM_nil]
      cases body.render value <;> rfl
    | each =>
      cases value with
      | list items => rfl
      | map entries =>
        simp only [helper, Builtin.helper, Helper.each, contexts, Builtin.contexts, finish,
          List.mapM_map]
        rfl
      | none | bool | integer | float | string => rfl
    | ifSet =>
      simp only [helper, Builtin.helper, Helper.ifSet, contexts, Builtin.contexts, finish]
      split
      · rw [List.mapM_cons, List.mapM_nil]
        cases body.render body.context <;> rfl
      · rfl
    | ifUnset =>
      simp only [helper, Builtin.helper, Helper.ifUnset, contexts, Builtin.contexts, finish]
      split
      · rfl
      · rw [List.mapM_cons, List.mapM_nil]
        cases body.render body.context <;> rfl
  | times => exact Helper.times_eq value body
  | render context =>
    simp only [helper, Helper.render, contexts, finish, List.mapM_cons, List.mapM_nil]
    cases body.render context <;> rfl
  | both =>
    simp only [helper, Helper.both, contexts, finish, List.mapM_cons, List.mapM_nil]
    cases body.render value with
    | error error => rfl
    | ok inner => cases body.render body.context <;> rfl
  | wrap tag =>
    simp only [helper, Helper.wrap, contexts, finish, Element.ofTag]
    split
    · rw [List.mapM_cons, List.mapM_nil]
      cases body.render value <;> rfl
    · rfl
  | attempt =>
    simp only [helper, Helper.attempt, contexts, finish, List.mapM_cons, List.mapM_nil]
    cases body.render value <;> rfl
  | constant | echo | echoRaw | decode | nodes | count => rfl

/-- A property that all parts hand on to a node holds of a row of nodes that have it. -/
lemma inherited_row {P : Node → Prop} (inherited : Node.Inherited P) {nodes : List Node}
    (each : ∀ node ∈ nodes, P node) : P (row nodes) := by
  match nodes with
  | [] => exact inherited.concat each
  | [node] => exact each node List.mem_cons_self
  | _ :: _ :: _ => exact inherited.concat each

/-- What trees inherit from valid names and from their parts goes from the body to what a stock
helper returns, and its error is one of the body or one of building a tree. -/
lemma helper_ends {P : Node → Prop} {Q : Error → Prop} (inherited : Node.Inherited P)
    (building : ∀ error : Error, error.OfBuilding → Q error) (stock : Stock)
    (constants : ∀ result built, stock = .constant result built → Ends P Q result) (value : Value)
    (body : Body) (each : ∀ node ∈ body.nodes, P node)
    (renders : ∀ context, Ends P Q (body.render context)) :
    Ends P Q (stock.helper value body) := by
  have all : Ends (fun nodes => ∀ node ∈ nodes, P node) Q
      ((stock.contexts value body.context).mapM body.render) :=
    .mapM fun context _ => renders context
  rw [helper_eq]
  -- from here on only the end of the renderings matters, not the contexts
  generalize (stock.contexts value body.context).mapM body.render = renderings at all
  cases stock with
  | builtin builtin =>
    cases builtin with
    | each => exact all.map fun nodes => inherited.concat
    | withValue | ifSet | ifUnset => exact all.map fun nodes => inherited_row inherited
  | constant result built => exact constants result built rfl
  | echo => exact .ok (inherited.literal value)
  | echoRaw => exact .ok (inherited.unescaped value)
  | decode =>
    exact ((Node.ofValue_named value).imp fun node => inherited.of_named).mono building
  | nodes => exact .ok (inherited.concat each)
  | count =>
    refine .ok (inherited.concat (List.forall_mem_cons.2 ⟨?_, List.forall_mem_singleton.2 ?_⟩))
    · exact inherited.literal _
    · exact inherited.literal _
  | times => exact all.map fun nodes => inherited.concat
  | render context => exact all.map fun nodes => inherited_row inherited
  | both => exact all.map fun nodes => inherited.join
  | wrap tag =>
    unfold finish
    dsimp only
    split
    · rename_i name
      have arg : isTagName "arg" := rfl
      refine all.map fun nodes => inherited.element name ?_
      exact List.forall_mem_singleton.2 ⟨arg, inherited.literal value⟩
    · exact .error (building _ (Error.ofCheck rfl).ofBuilding)
  | attempt =>
    cases all with
    | ok each => exact .ok (inherited_row inherited each)
    | error _ => exact .ok (inherited.literal _)

end Stock

end TreeTemplate
