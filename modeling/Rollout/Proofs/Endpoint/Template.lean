import Rollout.Endpoint.Template

/-!
# The text of a template

A template writes the text that it was made of.
-/

namespace Rollout

namespace TemplatePart

/-- The characters of the pieces, one after the other. -/
def chars (parts : List TemplatePart) : List Char := parts.flatMap fun part => part.text.toList

@[simp] theorem chars_nil : chars [] = [] := rfl

@[simp] theorem chars_cons (part : TemplatePart) (parts : List TemplatePart) :
    chars (part :: parts) = part.text.toList ++ chars parts := rfl

theorem chars_consLiteral (c : Char) (parts : List TemplatePart) :
    chars (consLiteral c parts) = c :: chars parts := by
  cases parts with
  | nil => simp [consLiteral, text]
  | cons part parts => cases part <;> simp [consLiteral, text]

/-- The characters that have been read of an open name, the brace included. -/
def openChars : Option (List Char) → List Char
  | none => []
  | some name => '\x7b' :: name.reverse

theorem chars_of_scan {name : Option (List Char)} {cs : List Char} {parts : List TemplatePart}
    (h : scan name cs = .ok parts) : chars parts = openChars name ++ cs := by
  induction cs generalizing name parts with
  | nil =>
    cases name with
    | none =>
      obtain rfl := Except.ok.inj h
      rfl
    | some name => cases h
  | cons c rest ih =>
    cases name with
    | none =>
      rw [scan] at h
      split at h
      · rename_i hopen
        rw [ih h, hopen]
        rfl
      split at h
      · cases h
      cases hrest : scan none rest with
      | error fault =>
        rw [hrest] at h
        cases h
      | ok found =>
        rw [hrest] at h
        obtain rfl := Except.ok.inj h
        rw [chars_consLiteral, ih hrest]
        rfl
    | some name =>
      rw [scan] at h
      split at h
      · cases h
      split at h
      · rename_i hclose
        split at h
        · cases h
        cases hrest : scan none rest with
        | error fault =>
          rw [hrest] at h
          cases h
        | ok found =>
          rw [hrest] at h
          obtain rfl := Except.ok.inj h
          rw [chars_cons, ih hrest, hclose]
          simp [text, openChars]
      · rw [ih h]
        simp [openChars]

end TemplatePart

namespace UrlTemplate

variable {text : String} {template : UrlTemplate}

theorem toList_text : template.text.toList = TemplatePart.chars template.parts := by
  rw [UrlTemplate.text, String.toList_join, List.flatMap_map]
  rfl

theorem text_of_ofText (h : ofText text = .ok template) : template.text = text := by
  rw [ofText] at h
  split at h
  · rename_i parts hparts
    obtain rfl := Except.ok.inj h
    rw [← String.toList_inj, toList_text]
    exact TemplatePart.chars_of_scan hparts
  · cases h

end UrlTemplate

end Rollout
