import TreeTemplate.Fragment
import TreeTemplate.Token

/-!
# Placeholder syntax

A template rendered for a renderer elsewhere: every placeholder is replaced by its token, and the
markup around it is kept.  No context is consulted and no helper is called.

Tokens are markup for that other renderer, so they are never escaped.
-/

namespace TreeTemplate

/-- A token as a node. -/
def Token.toNode (token : Token) : Node :=
  .unescaped (.string token.text)

namespace Node

mutual

/-- What a node turns into, its placeholders replaced by tokens. -/
def tokenized : Node → Fragment
  | .element tag attrs children =>
    let attrs := match attrs with
      | none => none
      | some attrs => some (tokenizedAttrs attrs)
    [.element tag attrs (tokenizedEach children).flatten]
  | .var path => [(Token.var path).toNode]
  | .raw path => [(Token.raw path).toNode]
  | .block helper arg body =>
    (Token.opening helper arg).toNode ::
      (tokenizedEach body).flatten ++ [(Token.closing helper).toNode]
  | .join children => Fragment.spaced (tokenizedEach children)
  | .concat children => (tokenizedEach children).flatten
  | .group children => (tokenizedEach children).flatten
  | .literal value => [.literal value]
  | .unescaped value => [.unescaped value]
termination_by structural node => node

/-- What each node of a row turns into. -/
def tokenizedEach : List Node → List Fragment
  | [] => []
  | node :: rest => node.tokenized :: tokenizedEach rest
termination_by structural nodes => nodes

/-- Attributes with the placeholders in their values replaced by tokens. -/
def tokenizedAttrs : List (String × Node) → List (String × Node)
  | [] => []
  | (name, node) :: rest => (name, Fragment.toAttribute node.tokenized) :: tokenizedAttrs rest
termination_by structural attrs => attrs

end

/-- A tree in placeholder syntax. -/
def toSyntax (node : Node) : Node :=
  Fragment.toRoot node.tokenized

end Node

end TreeTemplate
