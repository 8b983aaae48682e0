import TreeTemplate.Error
import TreeTemplate.Text.Quoted
import TreeTemplate.Unicode.Width

/-!
# Error reports

An error is shown on one line, or in several lines with its trail underlined, or with its fields for
developers.  An error without a trail has nothing to underline, so the long report is then the short
one; and an error with a trail is shown to developers as the long report.
-/

namespace TreeTemplate.Error

/-- The trail on one line, outermost place first. -/
def trailText (error : Error) : String :=
  String.intercalate " > " (error.trail.map Label.text)

/-- The report on one line. -/
def display (error : Error) : String :=
  let trail := if error.trail.isEmpty then "" else " at `" ++ error.trailText ++ "`"
  let template := match error.template with
    | none => ""
    | some name => s!" in template `{name}`"
  let source := match error.cause.source? with
    | none => ""
    | some reason => ": " ++ reason
  error.message ++ trail ++ template ++ source

/-- The report in several lines: the template, the trail, and the message beside carets that stand
under the innermost place.  At least one caret is drawn. -/
def underlined (error : Error) : String :=
  let innermost := (error.trail.getLast?.map Label.text).getD ""
  let width := Unicode.textWidth innermost
  let column := Unicode.textWidth error.trailText - width
  let template := match error.template with
    | none => ""
    | some name => s!"  --> {name}\n"
  "\n" ++ template
    ++ "   |\n"
    ++ "   | " ++ error.trailText ++ "\n"
    ++ "   | " ++ String.ofList (List.replicate column ' ')
    ++ String.ofList (List.replicate (max 1 width) '^') ++ " " ++ error.message ++ "\n"

/-- The long report. -/
def pretty (error : Error) : String :=
  if error.trail.isEmpty then error.display else error.underlined

/-- The report for developers. -/
def debug (error : Error) : String :=
  if error.trail.isEmpty then
    let template := match error.template with
      | none => "None"
      | some name => "Some(" ++ Text.quoted name ++ ")"
    "Error \x7b kind: " ++ error.kind.name ++ ", msg: " ++ Text.quoted error.message
      ++ ", name: " ++ template ++ " \x7d"
  else error.underlined

end TreeTemplate.Error
