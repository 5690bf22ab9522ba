import Rollout.Text.Blank
import Rollout.Text.Quoted

/-!
# URL templates

A URL with placeholders: names in braces between pieces of literal text. A name holds no
brace and is not blank; literal text holds no brace.
-/

namespace Rollout

inductive TemplatePart where
  | literal (text : String)
  | param (name : String)
deriving DecidableEq

/-- A URL with placeholders. -/
structure UrlTemplate where
  parts : List TemplatePart
deriving DecidableEq

inductive TemplateFault where
  | unclosed
  | unopened
  | emptyParam
deriving DecidableEq

structure TemplateError where
  fault : TemplateFault
  text : String
deriving DecidableEq

def TemplateError.message (e : TemplateError) : String :=
  let subject := "URL template " ++ Text.quote e.text
  match e.fault with
  | .unclosed => subject ++ " has an unclosed `\x7b`"
  | .unopened => subject ++ " has a `\x7d` without a matching `\x7b`"
  | .emptyParam => subject ++ " has an empty parameter name"

namespace TemplatePart

def text : TemplatePart → String
  | .literal text => text
  | .param name => "\x7b" ++ name ++ "\x7d"

/-- Puts a character in front of literal text. -/
def consLiteral (c : Char) : List TemplatePart → List TemplatePart
  | .literal text :: parts => .literal (String.ofList (c :: text.toList)) :: parts
  | parts => .literal (String.singleton c) :: parts

/-- The pieces of a text. After an opening brace the characters of the name so far are kept,
the last one first. -/
def scan : Option (List Char) → List Char → Except TemplateFault (List TemplatePart)
  | none, [] => .ok []
  | none, c :: rest =>
    if c = '\x7b' then scan (some []) rest
    else if c = '\x7d' then .error .unopened
    else (scan none rest).map (consLiteral c)
  | some _, [] => .error .unclosed
  | some name, c :: rest =>
    if c = '\x7b' then .error .unclosed
    else if c = '\x7d' then
      if name.all Text.isBlank then .error .emptyParam
      else (scan none rest).map (.param (String.ofList name.reverse) :: ·)
    else scan (some (c :: name)) rest

end TemplatePart

namespace UrlTemplate

/-- The template that a text writes. -/
def ofText (text : String) : Except TemplateError UrlTemplate :=
  match TemplatePart.scan none text.toList with
  | .ok parts => .ok ⟨parts⟩
  | .error fault => .error ⟨fault, text⟩

def text (template : UrlTemplate) : String :=
  String.join (template.parts.map TemplatePart.text)

/-- The names of the placeholders in order, repeated ones included. -/
def params (template : UrlTemplate) : List String :=
  template.parts.filterMap fun
    | .param name => some name
    | .literal _ => none

end UrlTemplate

end Rollout
