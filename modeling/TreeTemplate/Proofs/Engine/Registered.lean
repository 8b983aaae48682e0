import TreeTemplate.Helper.Stock
import TreeTemplate.Proofs.Engine
import TreeTemplate.Proofs.Serial

/-!
# Registered templates

An engine is changed by calls that add helpers and templates or set the limit on nested blocks, and
one call may be refused.  What it holds under a name is what the last call that registered a
template under this name gave it, whatever the calls before and after were
(`Engine.lookup_templates_after`): this is shown for one call first, and then for all of them in a
row.

So a registered template may be named, or handed over itself, in whichever way it is evaluated.  The
result is the same, and so is an error but for the name in it.  There are two errors without this
name.  Data that has no value is refused before the template is looked for, and a name that leads to
no template is told as such (`Engine.run_named_after`).
-/

namespace TreeTemplate

/-- Both evaluations have the same tree, or both fail, and then with errors of the same cause, and so
of the same kind and message, and at the same place, where the first names the template. -/
inductive SameButName (name : String) {α : Type} : Except Error α → Except Error α → Prop where
  | ok (a : α) : SameButName name (.ok a) (.ok a)
  | error {byName error : Error} : byName.cause = error.cause → byName.kind = error.kind →
    byName.message = error.message → byName.trail = error.trail → byName.template = some name →
    SameButName name (.error byName) (.error error)

/-- To name the template in the error changes nothing else. -/
lemma sameButName_mapError (name : String) {α : Type} (x : Except Error α) :
    SameButName name (x.mapError (Error.inTemplate name)) x := by
  cases x with
  | ok a => exact .ok a
  | error error => exact .error rfl rfl rfl rfl rfl

/-- The error by name is told by the other error and the name. -/
lemma SameButName.eq_error {name : String} {α : Type} {x : Except Error α} {error : Error}
    (same : SameButName name x (.error error)) :
    x = .error ⟨error.cause, error.trail, some name⟩ := by
  cases same with
  | @error byName _ cause _ _ trail template => rw [← cause, ← trail, ← template]

/-- A source that hands over a template itself and not its name. -/
inductive Source.Hands (template : Template) : Source → Prop where
  | tree : Hands template (.tree template.root)
  | template : Hands template (.ofTemplate template)
  | deferred {make : Unit → Template} : make () = template → Hands template (.deferred make)

/-- A way to evaluate a template: all that the evaluation takes but an engine and the template. -/
inductive Evaluation where
  | apply (context : Option Value)
  | expand (data : Serial)
  | expandFrom (context : Value)
  | toSyntax

namespace Evaluation

/-- Evaluates a template in an engine. -/
def run (engine : Engine) (source : Source) : Evaluation → Except Error Node
  | .apply context => engine.apply source context
  | .expand data => engine.expand source data
  | .expandFrom context => engine.expandFrom source context
  | .toSyntax => engine.toSyntax source

/-- Evaluates a template that an engine holds.  To apply it is to expand it if there is a context,
and to render it if there is none. -/
def runHeld (ref : TemplateRef) : Evaluation → Except Error Node
  | .apply (some context) | .expandFrom context => ref.expandFrom context
  | .apply none | .toSyntax => ref.toSyntax
  | .expand data => ref.expand data

/-- The context of an evaluation, if it has one, or the refusal of the data that it is made from. -/
def context : Evaluation → Except Error (Option Value)
  | .apply context => .ok context
  | .expand data => some <$> data.toValue
  | .expandFrom context => .ok (some context)
  | .toSyntax => .ok none

/-- Every evaluation takes its context first and applies the engine then. -/
lemma run_eq (evaluation : Evaluation) (engine : Engine) (source : Source) :
    evaluation.run engine source = evaluation.context >>= engine.apply source := by
  cases evaluation with
  | expand data =>
    show (data.toValue >>= fun value => engine.apply source (some value)) = _
    rw [context]
    cases data.toValue with
    | error error => rfl
    | ok value => rfl
  | apply | expandFrom | toSyntax => rfl

/-- A held template is evaluated by its name. -/
lemma runHeld_eq (evaluation : Evaluation) (ref : TemplateRef) :
    evaluation.runHeld ref = evaluation.run ref.engine (.named ref.name) := by
  cases evaluation with
  | apply context =>
    cases context with
    | none => rfl
    | some context => rfl
  | expand | expandFrom | toSyntax => rfl

/-- A context that cannot be made is a refusal of the data, whatever the evaluation was to do. -/
lemma isRefusal_of_context {evaluation : Evaluation} {error : Error}
    (h : evaluation.context = .error error) : error.IsRefusal := by
  cases evaluation with
  | expand data => exact Serial.isRefusal_of_toValue (map_eq_error_iff.1 h)
  | apply | expandFrom | toSyntax => cases h

end Evaluation

namespace Engine

variable {engine : Engine} {name : String}

/-- To apply an engine to the name of a template is to apply it to the template and to name it in the
error. -/
lemma apply_named {template : Template} (held : engine.templates.lookup name = some template)
    {source : Source} (hands : source.Hands template) (context : Option Value) :
    engine.apply (.named name) context =
      (engine.apply source context).mapError (Error.inTemplate name) := by
  have found : engine.find (.named name) = .ok (template.root, some name) := by
    rw [find, held]
  have handed : engine.find source = .ok (template.root, none) := by
    cases hands with
    | tree | template => rfl
    | deferred makes => rw [find, makes]
  rw [apply, apply, found, handed]
  rfl

/-- A name that no template is registered under fails before any data are looked at. -/
lemma apply_named_of_absent (absent : engine.templates.lookup name = none)
    (context : Option Value) :
    engine.apply (.named name) context = fail (.unknownTemplate name) := by
  have missing : engine.find (.named name) = fail (.unknownTemplate name) := by
    rw [find, absent]
  rw [apply, missing]
  rfl

/-- A call that changes an engine. -/
inductive Call where
  | addHelper (name : String) (helper : Helper)
  | addTemplate (name : String) (template : Template)
  | setMaxDepth (depth : UInt64)

/-- An engine after a call.  A call that is refused leaves it as it is. -/
def handle (engine : Engine) : Call → Engine
  | .addHelper name helper => engine.addHelper name helper
  | .addTemplate name template =>
    match engine.addTemplate name template with
    | .ok grown => grown
    | .error _ => engine
  | .setMaxDepth depth => engine.setMaxDepth depth

/-- An engine after calls, the first of the list made first. -/
def after (engine : Engine) (calls : List Call) : Engine :=
  calls.foldl handle engine

/-- The template that a call registers under a name.  There is none under the empty name. -/
def Call.registers? (name : String) : Call → Option Template
  | .addTemplate key template => if key = name ∧ name ≠ "" then some template else none
  | .addHelper _ _ | .setMaxDepth _ => none

/-- The template that was registered last under a name. -/
def lastRegistered (calls : List Call) (name : String) : Option Template :=
  calls.reverse.findSome? (Call.registers? name)

/-- Under a name there is what a call registers under it, or else what was there before. -/
lemma lookup_templates_handle (engine : Engine) (call : Call) (name : String) :
    (engine.handle call).templates.lookup name =
      (call.registers? name).or (engine.templates.lookup name) := by
  cases call with
  | addHelper | setMaxDepth => rfl
  | addTemplate key template =>
    rw [handle, addTemplate, Call.registers?]
    by_cases empty : key = ""
    · have other : ¬ (key = name ∧ name ≠ "") := fun both => both.2 (both.1.symm.trans empty)
      rw [if_pos empty, if_neg other]
      rfl
    · rw [if_neg empty]
      refine Entries.lookup_insert.trans ?_
      by_cases same : name = key
      · subst same
        rw [if_pos rfl, if_pos ⟨rfl, empty⟩]
        rfl
      · have other : ¬ (key = name ∧ name ≠ "") := fun both => same both.1.symm
        rw [if_neg same, if_neg other]
        rfl

/-- Under a name there is what was registered last under it, or else what was there at first. -/
lemma lookup_templates_after (engine : Engine) (calls : List Call) (name : String) :
    (engine.after calls).templates.lookup name =
      (lastRegistered calls name).or (engine.templates.lookup name) := by
  induction calls generalizing engine with
  | nil => rfl
  | cons call rest ih =>
    have head : lastRegistered (call :: rest) name =
        (lastRegistered rest name).or (call.registers? name) := by
      rw [lastRegistered, List.reverse_cons, List.findSome?_append, List.findSome?_singleton]
      rfl
    -- calls behind the first take precedence over it, and it does over what was there
    refine (ih (engine.handle call)).trans ?_
    rw [lookup_templates_handle, head, Option.or_assoc]

/-- Nothing is registered under the empty name. -/
lemma lastRegistered_empty (calls : List Call) : lastRegistered calls "" = none := by
  refine List.findSome?_eq_none_iff.2 fun call _ => ?_
  cases call with
  | addHelper | setMaxDepth => rfl
  | addTemplate key template => exact if_neg fun both => both.2 rfl

/-- After any calls to an engine that held no templates, a name leads to the template that was
registered last under it.  Every evaluation by the name, of the held template or of the name itself,
has the result of the same evaluation of that template, or its error with the name in it.  Only if
there is no context, for its data has no value, is the error the same in both.  A name under which
no template was registered, as the empty one, leads to nothing, and every evaluation fails for that
reason, unless it fails for its context first. -/
theorem run_named_after {start : Engine} (bare : start.templates = []) (calls : List Call)
    (name : String) :
    (∀ template, lastRegistered calls name = some template →
        (start.after calls).getTemplate name = some ⟨start.after calls, name, template⟩
        ∧ ∀ evaluation : Evaluation,
          evaluation.runHeld ⟨start.after calls, name, template⟩ =
              evaluation.run (start.after calls) (.named name)
          ∧ ∀ source : Source, source.Hands template →
            (∀ context, evaluation.context = .ok context →
                SameButName name (evaluation.run (start.after calls) (.named name))
                  (evaluation.run (start.after calls) source))
            ∧ ∀ error, evaluation.context = .error error →
                evaluation.run (start.after calls) (.named name) = .error error
                ∧ evaluation.run (start.after calls) source = .error error)
      ∧ (lastRegistered calls name = none →
        (start.after calls).getTemplate name = none
        ∧ ∀ evaluation : Evaluation, evaluation.run (start.after calls) (.named name) =
            (do let _ ← evaluation.context; fail (.unknownTemplate name)))
      ∧ lastRegistered calls "" = none
      ∧ ∀ (evaluation : Evaluation) (error : Error),
        evaluation.context = .error error → error.IsRefusal := by
  have held : (start.after calls).templates.lookup name = lastRegistered calls name := by
    rw [lookup_templates_after, bare, List.lookup_nil, Option.or_none]
  refine ⟨fun template registered => ?_, fun absent => ?_, lastRegistered_empty calls,
    fun _ _ => Evaluation.isRefusal_of_context⟩
  · rw [registered] at held
    refine ⟨by rw [getTemplate, held]; rfl, fun evaluation => ⟨evaluation.runHeld_eq _, ?_⟩⟩
    intro source hands
    refine ⟨fun context found => ?_, fun error refused => ?_⟩
    -- both apply the same tree, and one of them puts the name on the error
    · rw [evaluation.run_eq, evaluation.run_eq, found, ok_bind, ok_bind,
        apply_named held hands context]
      exact sameButName_mapError name _
    · rw [evaluation.run_eq, evaluation.run_eq, refused]
      exact ⟨rfl, rfl⟩
  · rw [absent] at held
    refine ⟨by rw [getTemplate, held]; rfl, fun evaluation => ?_⟩
    rw [evaluation.run_eq]
    exact congrArg _ (funext fun context => apply_named_of_absent held context)

/-- A page that took the place of another is evaluated under its name, and nothing is under the empty
name, which was refused. -/
theorem run_named_after_replacement :
    let page : Template := ⟨.element "p" none [.block "nope" .this []]⟩
    let calls : List Call :=
      [.addTemplate "page" ⟨.literal (.string "old")⟩, .addHelper "wrap" Helper.nodes,
        .addTemplate "page" page, .addTemplate "" page, .setMaxDepth 2]
    let engine := Engine.new.after calls
    let trail : List Label := [.element "p", .block "nope" .this]
    Engine.new.templates = [] ∧ lastRegistered calls "page" = some page
      ∧ lastRegistered calls "" = none
      ∧ engine.getTemplate "page" = some ⟨engine, "page", page⟩
      ∧ engine.expandFrom (.tree page.root) .none = .error ⟨.helperNotFound "nope", trail, none⟩
      ∧ engine.expandFrom (.named "page") .none =
          .error ⟨.helperNotFound "nope", trail, some "page"⟩
      ∧ engine.getTemplate "" = none
      ∧ engine.toSyntax (.named "") = fail (.unknownTemplate "")
      ∧ engine.expand (.named "") (.refusal "no") = fail (.refused "no") := by
  intro page calls engine trail
  have bare : Engine.new.templates = [] := rfl
  have registered : lastRegistered calls "page" = some page := rfl
  have absent : lastRegistered calls "" = none := rfl
  have fails : engine.expandFrom (.tree page.root) .none =
      .error ⟨.helperNotFound "nope", trail, none⟩ := rfl
  obtain ⟨held, each⟩ := (run_named_after bare calls "page").1 page registered
  obtain ⟨nothing, unknown⟩ := (run_named_after bare calls "").2.1 absent
  have byName : SameButName "page" (engine.expandFrom (.named "page") .none)
      (engine.expandFrom (.tree page.root) .none) :=
    ((each (.expandFrom .none)).2 (.tree page.root) .tree).1 _ rfl
  refine ⟨bare, registered, absent, held, fails, ?_, nothing, unknown .toSyntax,
    unknown (.expand (.refusal "no"))⟩
  rw [fails] at byName
  exact byName.eq_error

/-- Where the data for the context is refused, the error does not have the name of the template in
it. -/
theorem run_named_of_refused_context :
    let calls : List Call := [.addTemplate "page" ⟨.literal (.string "hi")⟩]
    let engine := Engine.new.after calls
    let error : Error := ⟨.refused "no", [], none⟩
    lastRegistered calls "page" = some ⟨.literal (.string "hi")⟩
      ∧ engine.expand (.tree (.literal (.string "hi"))) (.refusal "no") = .error error
      ∧ engine.expand (.named "page") (.refusal "no") = .error error
      ∧ error.template ≠ some "page" := by
  intro calls engine error
  exact ⟨rfl, rfl, rfl, by intro same; cases same⟩

end Engine

end TreeTemplate
