import Mathlib.Data.List.TakeWhile
import Rollout.Proofs.Request.Placeholders
import Rollout.Proofs.Text.Percent

/-!
# Values in URLs

A URL is the text of its template with the encoded texts of the values in place of the
placeholders. Encoded text holds no character that URLs are divided by, so those come from the
template alone. Where literal text with such a character stands between each two placeholders, the
values can be told from the URL.
-/

namespace Rollout

/-- A character of literal text, or a placeholder. -/
inductive TemplateSymbol where
  | char (c : Char)
  | param (name : String)
deriving DecidableEq

namespace TemplateSymbol

variable {c : Char} {name : String} {symbol : TemplateSymbol} {symbols : List TemplateSymbol}
  {texts others : String → String}

/-- What a symbol writes, given the texts of the placeholders. -/
def written (texts : String → String) : TemplateSymbol → List Char
  | .char c => [c]
  | .param name => (texts name).toList

def spelled (texts : String → String) (symbols : List TemplateSymbol) : List Char :=
  symbols.flatMap (written texts)

@[simp] theorem spelled_nil : spelled texts [] = [] := rfl

@[simp] theorem spelled_cons :
    spelled texts (symbol :: symbols) = symbol.written texts ++ spelled texts symbols := rfl

@[simp] theorem spelled_append {more : List TemplateSymbol} :
    spelled texts (symbols ++ more) = spelled texts symbols ++ spelled texts more :=
  List.flatMap_append

/-- Between each two placeholders next to each other stands a literal character that no encoded
text has. -/
def Separated (symbols : List TemplateSymbol) : Prop :=
  ∀ before first between next after,
    symbols = before ++ .param first :: between ++ .param next :: after →
    (∀ name, .param name ∉ between) → ∃ c, .char c ∈ between ∧ Text.isEncodedChar c = false

theorem Separated.tail (h : Separated (symbol :: symbols)) : Separated symbols := by
  intro before first between next after hsymbols
  exact h (symbol :: before) first between next after (by rw [hsymbols]; rfl)

theorem spelled_congr (h : ∀ name, .param name ∈ symbols → texts name = others name) :
    spelled texts symbols = spelled others symbols := by
  apply List.flatMap_congr
  rintro (c | name) hsymbol
  · rfl
  · rw [written, written, h name hsymbol]

/-- The symbols up to the first placeholder, and the rest. -/
theorem exists_front (symbols : List TemplateSymbol) : ∃ front rest, symbols = front ++ rest ∧
    (∀ name, .param name ∉ front) ∧ (rest = [] ∨ ∃ name after, rest = .param name :: after) := by
  induction symbols with
  | nil => exact ⟨[], [], rfl, fun _ => List.not_mem_nil, .inl rfl⟩
  | cons symbol symbols ih =>
    cases symbol with
    | char c =>
      obtain ⟨front, rest, rfl, hfront, hrest⟩ := ih
      exact ⟨.char c :: front, rest, rfl, by simpa using hfront, hrest⟩
    | param name =>
      exact ⟨[], .param name :: symbols, rfl, fun _ => List.not_mem_nil, .inr ⟨name, symbols, rfl⟩⟩

/-- Literal text that has a character that no encoded text has ends the encoded text before it. -/
theorem takeWhile_encoded {s : String} {literal rest : List Char}
    (h : ∃ c ∈ literal, Text.isEncodedChar c = false) :
    ((Text.percentEncode s).toList ++ (literal ++ rest)).takeWhile Text.isEncodedChar =
      (Text.percentEncode s).toList ++ literal.takeWhile Text.isEncodedChar := by
  have hlength : (literal.takeWhile Text.isEncodedChar).length ≠ literal.length := by
    intro hlength
    obtain ⟨c, hc, hforeign⟩ := h
    have hwhole := (List.takeWhile_prefix Text.isEncodedChar).eq_of_length hlength
    rw [List.takeWhile_eq_self_iff] at hwhole
    rw [hwhole c hc] at hforeign
    cases hforeign
  rw [List.takeWhile_append_of_pos fun c hc => Text.isEncodedChar_of_mem_percentEncode hc,
    List.takeWhile_append, if_neg hlength]

/-- The text of a placeholder can be told from what separated symbols write from it on. -/
theorem text_eq_of_spelled_eq (hseparated : Separated (.param name :: symbols))
    (h : spelled (Text.percentEncode ∘ texts) (.param name :: symbols) =
      spelled (Text.percentEncode ∘ others) (.param name :: symbols)) :
    texts name = others name := by
  apply Text.percentEncode_injective
  apply String.toList_injective
  have hfree {front : List TemplateSymbol} (hfront : ∀ name, .param name ∉ front) :
      spelled (Text.percentEncode ∘ texts) front = spelled (Text.percentEncode ∘ others) front :=
    spelled_congr fun name hname => absurd hname (hfront name)
  obtain ⟨front, rest, rfl, hfront, rfl | ⟨next, after, rfl⟩⟩ := exists_front symbols
  · simp only [List.append_nil, spelled_cons, written, Function.comp_apply, hfree hfront] at h
    exact List.append_cancel_right h
  · obtain ⟨c, hc, hforeign⟩ := hseparated [] name front next after rfl hfront
    have hmem : c ∈ spelled (Text.percentEncode ∘ others) front :=
      List.mem_flatMap.mpr ⟨_, hc, List.mem_singleton_self c⟩
    have htaken := congrArg (List.takeWhile Text.isEncodedChar) h
    simp only [spelled_cons, written, Function.comp_apply, spelled_append, hfree hfront] at htaken
    rw [takeWhile_encoded ⟨c, hmem, hforeign⟩, takeWhile_encoded ⟨c, hmem, hforeign⟩] at htaken
    exact List.append_cancel_right htaken

theorem texts_eq_of_spelled_eq (hseparated : Separated symbols)
    (h : spelled (Text.percentEncode ∘ texts) symbols =
      spelled (Text.percentEncode ∘ others) symbols) :
    ∀ name, .param name ∈ symbols → texts name = others name := by
  induction symbols with
  | nil => simp
  | cons symbol symbols ih =>
    cases symbol with
    | char c =>
      have hrest := ih hseparated.tail (List.append_cancel_left h)
      simpa using hrest
    | param first =>
      have hfirst : texts first = others first := text_eq_of_spelled_eq hseparated h
      simp only [spelled_cons, written, Function.comp_apply, hfirst] at h
      have hrest := ih hseparated.tail (List.append_cancel_left h)
      simp only [List.mem_cons, param.injEq]
      rintro name (rfl | hname)
      · exact hfirst
      · exact hrest name hname

end TemplateSymbol

namespace UrlTemplate

variable {template : UrlTemplate} {params : Table FieldPath} {entity : Entity} {name : String}
  {texts : String → String}

/-! ## Templates with texts in place of the placeholders -/

/-- The symbols of a template in order. -/
def symbols (template : UrlTemplate) : List TemplateSymbol :=
  template.parts.flatMap fun
    | .literal text => text.toList.map .char
    | .param name => [.param name]

/-- The characters of the literal text of a template. -/
def literalChars (template : UrlTemplate) : List Char :=
  template.parts.flatMap fun
    | .literal text => text.toList
    | .param _ => []

/-- A template with a text in place of each placeholder. -/
def withTexts (template : UrlTemplate) (texts : String → String) : String :=
  String.join (template.parts.map fun
    | .literal text => text
    | .param name => texts name)

theorem param_mem_symbols : .param name ∈ template.symbols ↔ name ∈ template.params := by
  simp only [symbols, params, List.mem_flatMap, List.mem_filterMap]
  apply exists_congr
  rintro (text | other)
  · simp
  · simp [eq_comm]

theorem toList_withTexts :
    (template.withTexts texts).toList = TemplateSymbol.spelled texts template.symbols := by
  rw [withTexts, String.toList_join, List.flatMap_map, symbols, TemplateSymbol.spelled,
    List.flatMap_assoc]
  apply List.flatMap_congr
  rintro (text | name) _
  · rw [List.flatMap_map]
    exact (List.flatMap_singleton' _).symm
  · exact (List.flatMap_singleton _ _).symm

/-- A character that no text of a placeholder has comes from the literal text. -/
theorem count_withTexts {c : Char} (h : ∀ name, c ∉ (texts name).toList) :
    (template.withTexts texts).toList.count c = template.literalChars.count c := by
  rw [withTexts, String.toList_join, List.flatMap_map, literalChars, List.count_flatMap,
    List.count_flatMap]
  congr 1
  apply List.map_congr_left
  rintro (text | name) _
  · rfl
  · exact List.count_eq_zero.mpr (h name)

/-! ## The texts of values -/

/-- The text of a placeholder's value, if that is a string, a number or a truth value. -/
def textOf? (params : Table FieldPath) (entity : Entity) (name : String) : Option String :=
  (valueOf? params entity name).bind Json.scalarText?

/-- The same, empty if there is none. -/
def textOf (params : Table FieldPath) (entity : Entity) (name : String) : String :=
  (textOf? params entity name).getD ""

theorem textOf?_of_filled (h : isFilled params entity name = true) :
    textOf? params entity name = some (textOf params entity name) := by
  obtain ⟨value, hvalue, hscalar⟩ := (Option.any_eq_true _ _).mp h
  obtain ⟨text, htext⟩ := Option.isSome_iff_exists.mp (Json.isScalar_iff.mp hscalar)
  rw [textOf, textOf?, hvalue, Option.bind_some, htext, Option.getD_some]

theorem url_of_fill {built : BuiltUrl} (h : (template.fill params entity).outcome = .ok built) :
    built.url = template.withTexts (Text.percentEncode ∘ textOf params entity) :=
  (outcome_fill_eq_ok_iff.mp h).url

theorem textOf?_of_fill {built : BuiltUrl}
    (h : (template.fill params entity).outcome = .ok built) (hname : name ∈ template.params) :
    textOf? params entity name = some (textOf params entity name) :=
  textOf?_of_filled ((outcome_fill_eq_ok_iff.mp h).filled name hname)

theorem count_url {built : BuiltUrl} (h : (template.fill params entity).outcome = .ok built)
    {c : Char} (hc : Text.isEncodedChar c = false) :
    built.url.toList.count c = template.literalChars.count c := by
  rw [url_of_fill h]
  refine count_withTexts fun name hmem => ?_
  rw [Text.isEncodedChar_of_mem_percentEncode hmem] at hc
  cases hc

theorem not_mem_url {built : BuiltUrl} (h : (template.fill params entity).outcome = .ok built)
    {c : Char} (hc : Text.isEncodedChar c = false) (hliteral : c ∉ template.literalChars) :
    c ∉ built.url.toList := by
  rw [← List.count_eq_zero, count_url h hc]
  exact List.count_eq_zero.mpr hliteral

/-- Values stand in a URL as encoded text, so that each other character stands in it as often as in
the literal text of the template. Where one of these stands between each two placeholders, two
entities have the same URL only if the values have the same texts. -/
theorem fill_encodes_values (template : UrlTemplate) :
    (∀ (params : Table FieldPath) (entity : Entity) (built : BuiltUrl),
      (template.fill params entity).outcome = .ok built →
      (∃ encoded : String → String, built.url = template.withTexts encoded ∧
        ∀ name ∈ template.params, ∃ text, textOf? params entity name = some text ∧
          Text.Encodes (encoded name) text) ∧
      ∀ c, Text.isEncodedChar c = false →
        built.url.toList.count c = template.literalChars.count c) ∧
    (TemplateSymbol.Separated template.symbols →
      ∀ (params : Table FieldPath) (entity other : Entity) (built otherBuilt : BuiltUrl),
        (template.fill params entity).outcome = .ok built →
        (template.fill params other).outcome = .ok otherBuilt → built.url = otherBuilt.url →
        ∀ name ∈ template.params, textOf? params entity name = textOf? params other name) := by
  constructor
  · intro params entity built hbuilt
    refine ⟨⟨_, url_of_fill hbuilt, fun name hname => ?_⟩, fun c hc => count_url hbuilt hc⟩
    exact ⟨_, textOf?_of_fill hbuilt hname, Text.encodes_percentEncode _⟩
  · intro hseparated params entity other built otherBuilt hbuilt hother hurl name hname
    rw [url_of_fill hbuilt, url_of_fill hother, ← String.toList_inj, toList_withTexts,
      toList_withTexts] at hurl
    have htext : textOf params entity name = textOf params other name :=
      TemplateSymbol.texts_eq_of_spelled_eq hseparated hurl name (param_mem_symbols.mpr hname)
    rw [textOf?_of_fill hbuilt hname, textOf?_of_fill hother hname, htext]

/-- A template that looks between its placeholders like encoded text, but for one slash. -/
def keyThenId : UrlTemplate := ⟨[.literal "/", .param "key", .literal "%2F/", .param "id"]⟩

/-- An entity with a key in which there are characters that URLs are divided by. -/
def markedKey (id : Json) : Entity :=
  ⟨⟨"adapter", "T", "x"⟩, ObjectType.plain, [("key", .string "a/b?é"), ("id", id)], []⟩

private theorem separated_keyThenId : TemplateSymbol.Separated keyThenId.symbols := by
  intro before first between next after hsymbols _
  have hkeyThenId : keyThenId.symbols = [.char '/', .param "key", .char '%', .char '2', .char 'F',
      .char '/', .param "id"] := by decide
  obtain ⟨_, _, rfl, _⟩ : before = [.char '/'] ∧ first = "key" ∧
      between = [.char '%', .char '2', .char 'F', .char '/'] ∧ next = "id" ∧ after = [] := by
    simpa [hkeyThenId, List.cons_eq_append_iff, List.append_eq_cons_iff] using hsymbols
  exact ⟨'/', by decide, by decide⟩

/-- The marks in the key are encoded, and a text and a truth value that have the same text are not
told apart. -/
theorem fill_encodes_values_markedKey :
    let url := "/a%2Fb%3F%C3%A9%2F/true"
    let consumed := ["id", "key"]
    (keyThenId.fill Table.empty (markedKey (.bool true))).outcome = .ok ⟨url, consumed⟩ ∧
    url.toList.count '/' = keyThenId.literalChars.count '/' ∧
    TemplateSymbol.Separated keyThenId.symbols ∧
    (keyThenId.fill Table.empty (markedKey (.string "true"))).outcome = .ok ⟨url, consumed⟩ ∧
    textOf? Table.empty (markedKey (.bool true)) "id" =
      textOf? Table.empty (markedKey (.string "true")) "id" := by
  intro url consumed
  obtain ⟨hencoded, htold⟩ := fill_encodes_values keyThenId
  have hbool : (keyThenId.fill Table.empty (markedKey (.bool true))).outcome =
      .ok ⟨url, consumed⟩ := by decide
  have hstring : (keyThenId.fill Table.empty (markedKey (.string "true"))).outcome =
      .ok ⟨url, consumed⟩ := by decide
  have hcount := (hencoded _ _ _ hbool).2 '/' (by decide)
  have hsame := htold separated_keyThenId _ _ _ _ _ hbool hstring rfl "id" (by decide)
  exact ⟨hbool, hcount, separated_keyThenId, hstring, hsame⟩

end UrlTemplate

end Rollout
