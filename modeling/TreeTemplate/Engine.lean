import TreeTemplate.Expansion
import TreeTemplate.Form.Decode
import TreeTemplate.Helper.Builtin
import TreeTemplate.Placeholders
import TreeTemplate.Serial

/-!
# Engines

An engine holds helpers and templates by name, and the limit on nested blocks.  It evaluates a
template in two ways: against a context, which expands it, or without one, which renders it to
placeholder syntax.  The template is given as a tree, by its name, or by a function that makes it.
Errors of a template that was given by its name carry that name.
-/

namespace TreeTemplate

/-- Helpers, named templates, and how many blocks may be nested. -/
structure Engine where
  helpers : Entries Helper := []
  templates : Entries Template := []
  maxDepth : UInt64 := 64

/-- A template to evaluate. -/
inductive Source where
  /-- A tree as it is. -/
  | tree (node : Node)
  /-- The name of a template that an engine holds. -/
  | named (name : String)
  /-- A function that makes the template. -/
  | deferred (make : Unit → Template)

/-- A template taken as a source is its tree. -/
def Source.ofTemplate (template : Template) : Source :=
  .tree template.root

namespace Engine

/-- An engine without helpers. -/
def empty : Engine :=
  {}

/-- An engine with the builtin helpers. -/
def new : Engine :=
  { helpers := Helper.builtins }

/-- Registers a helper, in place of an earlier one of the same name. -/
def addHelper (engine : Engine) (name : String) (helper : Helper) : Engine :=
  { engine with helpers := Entries.insert name helper engine.helpers }

/-- Registers a template, in place of an earlier one of the same name.  The name must not be empty.
-/
def addTemplate (engine : Engine) (name : String) (template : Template) : Except Error Engine :=
  if name = "" then fail .emptyTemplateName
  else .ok { engine with templates := Entries.insert name template engine.templates }

/-- Sets how many blocks may be nested. -/
def setMaxDepth (engine : Engine) (depth : UInt64) : Engine :=
  { engine with maxDepth := depth }

/-- The expansion of a template in this engine against a context. -/
def expansion (engine : Engine) (context : Value) : Expansion :=
  { helper? := fun name => engine.helpers.lookup name
    limit := engine.maxDepth
    top := context }

/-- The tree of a source, and the name of the template if it was given by name. -/
def find (engine : Engine) : Source → Except Error (Node × Option String)
  | .tree node => .ok (node, none)
  | .named name =>
    match engine.templates.lookup name with
    | some template => .ok (template.root, some name)
    | none => fail (.unknownTemplate name)
  | .deferred make => .ok ((make ()).root, none)

/-- Evaluates a template: with a context it is expanded against it, and without one it is rendered
to placeholder syntax. -/
def apply (engine : Engine) (source : Source) (context : Option Value) : Except Error Node := do
  let (root, name) ← engine.find source
  let result := match context with
    | some context => (engine.expansion context).expand root
    | none => .ok root.toSyntax
  match name with
  | some name => result.mapError (Error.inTemplate name)
  | none => result

/-- Expands a template against a value. -/
def expandFrom (engine : Engine) (source : Source) (context : Value) : Except Error Node :=
  engine.apply source (some context)

/-- Expands a template against serializable data, which is taken as a value before the template is
looked for. -/
def expand (engine : Engine) (source : Source) (context : Serial) : Except Error Node := do
  engine.apply source (some (← context.toValue))

/-- Renders a template to placeholder syntax. -/
def toSyntax (engine : Engine) (source : Source) : Except Error Node :=
  engine.apply source none

end Engine

/-- A template held by an engine, under its name. -/
structure TemplateRef where
  engine : Engine
  name : String
  template : Template

/-- The template that an engine holds under a name. -/
def Engine.getTemplate (engine : Engine) (name : String) : Option TemplateRef :=
  (engine.templates.lookup name).map fun template => ⟨engine, name, template⟩

namespace TemplateRef

/-- Expands the template against serializable data. -/
def expand (ref : TemplateRef) (context : Serial) : Except Error Node :=
  ref.engine.expand (.named ref.name) context

/-- Expands the template against a value. -/
def expandFrom (ref : TemplateRef) (context : Value) : Except Error Node :=
  ref.engine.expandFrom (.named ref.name) context

/-- Renders the template to placeholder syntax. -/
def toSyntax (ref : TemplateRef) : Except Error Node :=
  ref.engine.toSyntax (.named ref.name)

end TemplateRef

/-- Reads a template from serializable data in data form. -/
def Template.ofSerial (data : Serial) : Except Error Template := do
  Template.ofValue (← data.toValue)

end TreeTemplate
