import LambdaStack.Document.Fragment
import LambdaStack.Json.Printer

/-!
# Templates

Finished documents. The body of a template can be merged into a larger stack; a standalone template
begins with the format version and a description.
-/

namespace LambdaStack

/-- A finished document. -/
structure Template where
  /-- Version of the format, of a standalone template. -/
  formatVersion : Option String := none
  /-- Description, of a standalone template. -/
  description : Option String := none
  /-- Remarks. -/
  metadata : OrderedMap Json
  /-- Values that are asked for when the stack is made. -/
  parameters : OrderedMap Json
  /-- Constant tables. -/
  mappings : OrderedMap Json
  /-- Named conditions. -/
  conditions : OrderedMap Json
  /-- What the stack consists of. -/
  resources : OrderedMap Json
  /-- Values that the stack gives out. -/
  outputs : OrderedMap Json
  deriving DecidableEq

/-- Numbers of entries of a template. -/
structure Summary where
  /-- Number of resources. -/
  resources : Nat
  /-- Number of parameters. -/
  parameters : Nat
  /-- Number of conditions. -/
  conditions : Nat
  /-- Number of outputs. -/
  outputs : Nat
  deriving DecidableEq

namespace Template

/-- The body of a template: a fragment without its variables and policies. -/
def ofFragment (fragment : Fragment) : Template where
  metadata := fragment.metadata
  parameters := fragment.parameters
  mappings := fragment.mappings
  conditions := fragment.conditions
  resources := fragment.resources
  outputs := fragment.outputs

/-- The standalone template of a body. -/
def standalone (template : Template) (description : String) : Template :=
  { template with formatVersion := some "2010-09-09", description := some description }

/-- Member of a section that is left out when empty. -/
def optionalSection (part : Section) (entries : OrderedMap Json) : List (String × Json) :=
  if entries.isEmpty then [] else [(part.name, .ofMap entries)]

/-- The document as a JSON object. -/
def toJson (template : Template) : Json :=
  .object <|
    template.formatVersion.toList.map (fun version =>
      ("AWSTemplateFormatVersion", Json.string version)) ++
    template.description.toList.map (fun text => ("Description", Json.string text)) ++
    optionalSection .metadata template.metadata ++
    [(Section.parameters.name, .ofMap template.parameters)] ++
    optionalSection .mappings template.mappings ++
    [(Section.conditions.name, .ofMap template.conditions),
      (Section.resources.name, .ofMap template.resources),
      (Section.outputs.name, .ofMap template.outputs)]

/-- The document as text, with one item a line. -/
def text (template : Template) : String :=
  template.toJson.pretty

/-- Numbers of entries. -/
def summary (template : Template) : Summary where
  resources := template.resources.size
  parameters := template.parameters.size
  conditions := template.conditions.size
  outputs := template.outputs.size

end Template

/-- A label padded to twelve characters and a count aligned to the right of three. -/
def Summary.line (label : String) (count : Nat) : String :=
  let number := toString count
  "▸ " ++ label ++ String.ofList (List.replicate (12 - label.length) ' ') ++ " " ++
    String.ofList (List.replicate (3 - number.length) ' ') ++ number

/-- One line for each number. -/
def Summary.lines (summary : Summary) : List String :=
  [
    line "resources" summary.resources,
    line "parameters" summary.parameters,
    line "conditions" summary.conditions,
    line "outputs" summary.outputs
  ]

end LambdaStack
