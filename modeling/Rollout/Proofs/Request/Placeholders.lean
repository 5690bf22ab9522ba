import Mathlib.Data.List.Sort
import Rollout.Proofs.Reading.Declared
import Rollout.Request.Url

/-!
# How placeholders are filled in

A placeholder takes its value from the path that its name is mapped to or, if it is not mapped,
from the field of its name. A URL is filled in if and only if all these values are strings, numbers
or truth values; else the first one that is not tells what is wrong. Mapped names that are fields
with another value are warned of as far as the placeholders are looked at.
-/

namespace Rollout

theorem FieldPath.resolve?_field (name : String) (entity : Entity) :
    (FieldPath.field name).resolve? entity = Fields.get? entity.value name := by
  simp only [resolve?, FieldPath.field, start?, Option.bind_some, Json.at?, Json.child?]
  cases Fields.get? entity.value name <;> rfl

/-- A path that leads somewhere starts with a field that is there. -/
theorem FieldPath.mem_names_of_resolve? {path : FieldPath} {entity : Entity} {field : String}
    {value : Json} (hfield : path.topLevelField? = some field)
    (hvalue : path.resolve? entity = some value) : field ∈ Fields.names entity.value := by
  obtain ⟨root, segments⟩ := path
  cases root with
  | ancestor index => cases hfield
  | value =>
    cases segments with
    | nil => cases hfield
    | cons first steps =>
      obtain rfl := Option.some.inj hfield
      simp only [resolve?, start?, Option.bind_some, Json.at?, Json.child?] at hvalue
      obtain ⟨child, hchild, _⟩ := Option.bind_eq_some_iff.mp hvalue
      exact List.mem_map.mpr ⟨_, Fields.mem_of_get? hchild, rfl⟩

namespace UrlTemplate

/-! ## The rule -/

section Rule

variable (template : UrlTemplate) (params : Table FieldPath) (entity : Entity)

/-- The path that the value of a placeholder is read from. -/
def pathOf (name : String) : FieldPath := (params.get? name).getD (FieldPath.field name)

/-- What the path that a name is mapped to leads to, or the field of the name if it is not
mapped. -/
def valueOf? (name : String) : Option Json :=
  match params.get? name with
  | some path => path.resolve? entity
  | none => Fields.get? entity.value name

/-- The value of a placeholder is a string, a number or a truth value. -/
def isFilled (name : String) : Bool := (valueOf? params entity name).any Json.isScalar

/-- What stands in a URL for a part of the template. -/
def written : TemplatePart → String
  | .literal text => text
  | .param name => Text.percentEncode (((valueOf? params entity name).bind Json.scalarText?).getD "")

/-- What is wrong with a placeholder: its name is neither mapped nor a field, its value is missing
or null, or it is an array or an object. -/
inductive Refuses (name : String) : BuildError → Prop where
  | unmapped (unmapped : params.get? name = none) (missing : Fields.get? entity.value name = none) :
    Refuses name (.unmappedParam name template entity.elemId)
  | unresolved (known : params.get? name ≠ none ∨ Fields.get? entity.value name ≠ none)
    (empty : valueOf? params entity name = none ∨ valueOf? params entity name = some .null) :
    Refuses name (.unresolvedParam name (pathOf params name) entity.elemId)
  | array {items : List Json} (value : valueOf? params entity name = some (.array items)) :
    Refuses name (.nonScalarParam name (pathOf params name) entity.elemId)
  | object {members : Fields} (value : valueOf? params entity name = some (.object members)) :
    Refuses name (.nonScalarParam name (pathOf params name) entity.elemId)

/-- The first placeholder that cannot be filled in tells what is wrong. -/
def FirstRefusal (e : BuildError) : Prop :=
  ∃ before name after, template.params = before ++ name :: after ∧
    (∀ earlier ∈ before, isFilled params entity earlier = true) ∧
    Refuses template params entity name e

/-- A URL with all placeholders filled in, and the fields of the entity that supplied a value. -/
structure FilledIn (built : BuiltUrl) : Prop where
  filled : ∀ name ∈ template.params, isFilled params entity name = true
  url : built.url = String.join (template.parts.map (written params entity))
  ascending : built.consumed.Pairwise (· < ·)
  mem_consumed : ∀ field, field ∈ built.consumed ↔
    ∃ name ∈ template.params, (pathOf params name).topLevelField? = some field
  consumed_fields : ∀ field ∈ built.consumed, field ∈ Fields.names entity.value

/-- The placeholders that are looked at: those up to the first that cannot be filled in. -/
def reached : List String → List String
  | [] => []
  | name :: names => if isFilled params entity name then name :: reached names else [name]

/-- A mapped path that does not start with the field of the name resolves, while the entity has that
field with another value. -/
inductive Ambiguous (name : String) : AmbiguousParam → Prop where
  | intro {path : FieldPath} {mapped field : Json} (mapping : params.get? name = some path)
    (resolved : path.resolve? entity = some mapped)
    (named : Fields.get? entity.value name = some field)
    (elsewhere : path.topLevelField? ≠ some name) (differ : mapped.same field = false) :
    Ambiguous name ⟨name, template, path, mapped, entity.elemId, field⟩

end Rule

variable {template : UrlTemplate} {params : Table FieldPath} {entity : Entity} {name : String}

/-! ## One placeholder -/

theorem valueOf?_eq : valueOf? params entity name = (pathOf params name).resolve? entity := by
  rw [valueOf?, pathOf]
  cases params.get? name with
  | some path => rfl
  | none => exact (FieldPath.resolve?_field name entity).symm

theorem source?_eq : source? params entity name =
    if params.get? name = none ∧ Fields.get? entity.value name = none then none
    else some (pathOf params name) := by
  rw [source?, pathOf]
  cases params.get? name with
  | some path => simp
  | none => cases Fields.get? entity.value name <;> simp

theorem ambiguity?_eq_some_iff {w : AmbiguousParam} :
    ambiguity? template params entity name = some w ↔ Ambiguous template params entity name w := by
  simp only [ambiguity?, bind, Option.bind_eq_some_iff, Option.ite_none_right_eq_some,
    Option.some.injEq, Bool.not_eq_true']
  constructor
  · rintro ⟨path, hpath, mapped, hmapped, field, hfield, ⟨helsewhere, hdiffer⟩, rfl⟩
    exact .intro hpath hmapped hfield helsewhere hdiffer
  · rintro ⟨hpath, hmapped, hfield, helsewhere, hdiffer⟩
    exact ⟨_, hpath, _, hmapped, _, hfield, ⟨helsewhere, hdiffer⟩, rfl⟩

theorem known_of_valueOf? {value : Json} (h : valueOf? params entity name = some value) :
    params.get? name ≠ none ∨ Fields.get? entity.value name ≠ none := by
  rw [valueOf?] at h
  cases hpath : params.get? name with
  | some path => exact .inl (by simp)
  | none =>
    rw [hpath] at h
    exact .inr (by simp [h])

theorem paramText_of_known
    (h : params.get? name ≠ none ∨ Fields.get? entity.value name ≠ none) :
    paramText template params entity name =
      match valueOf? params entity name with
      | none => .error (.unresolvedParam name (pathOf params name) entity.elemId)
      | some .null => .error (.unresolvedParam name (pathOf params name) entity.elemId)
      | some value =>
        match value.scalarText? with
        | some text => .ok (text, pathOf params name)
        | none => .error (.nonScalarParam name (pathOf params name) entity.elemId) := by
  have hsource : ¬ (params.get? name = none ∧ Fields.get? entity.value name = none) := by tauto
  rw [valueOf?_eq]
  cases hvalue : (pathOf params name).resolve? entity with
  | none => simp only [paramText, source?_eq, if_neg hsource, hvalue]
  | some value =>
    cases value <;> simp only [paramText, source?_eq, if_neg hsource, hvalue, Json.scalarText?]

theorem paramText_of_filled (h : isFilled params entity name = true) :
    paramText template params entity name =
      .ok (((valueOf? params entity name).bind Json.scalarText?).getD "", pathOf params name) := by
  obtain ⟨value, hvalue, hscalar⟩ := (Option.any_eq_true _ _).mp h
  rw [paramText_of_known (known_of_valueOf? hvalue), hvalue]
  cases value with
  | null => cases hscalar
  | array items => cases hscalar
  | object members => cases hscalar
  | _ => rfl

theorem paramText_of_refuses {e : BuildError} (h : Refuses template params entity name e) :
    paramText template params entity name = .error e := by
  cases h with
  | unmapped hunmapped hmissing =>
    rw [paramText, source?_eq, if_pos ⟨hunmapped, hmissing⟩]
  | unresolved hknown hempty =>
    rw [paramText_of_known hknown]
    rcases hempty with hempty | hempty <;> rw [hempty]
  | array hvalue =>
    rw [paramText_of_known (known_of_valueOf? hvalue), hvalue]
    rfl
  | object hvalue =>
    rw [paramText_of_known (known_of_valueOf? hvalue), hvalue]
    rfl

theorem exists_refuses (template : UrlTemplate) (h : isFilled params entity name = false) :
    ∃ e, Refuses template params entity name e := by
  by_cases hknown : params.get? name ≠ none ∨ Fields.get? entity.value name ≠ none
  · cases hvalue : valueOf? params entity name with
    | none => exact ⟨_, .unresolved hknown (.inl hvalue)⟩
    | some value =>
      rw [isFilled, hvalue, Option.any_some] at h
      cases value with
      | null => exact ⟨_, .unresolved hknown (.inr hvalue)⟩
      | array items => exact ⟨_, .array hvalue⟩
      | object members => exact ⟨_, .object hvalue⟩
      | _ => cases h
  · rw [not_or, not_not, not_not] at hknown
    exact ⟨_, .unmapped hknown.1 hknown.2⟩

/-! ## All placeholders -/

section Parts

variable {parts : List TemplatePart}

@[simp] theorem params_nil : UrlTemplate.params ⟨[]⟩ = [] := rfl

@[simp] theorem params_literal (text : String) :
    UrlTemplate.params ⟨.literal text :: parts⟩ = UrlTemplate.params ⟨parts⟩ := rfl

@[simp] theorem params_param :
    UrlTemplate.params ⟨.param name :: parts⟩ = name :: UrlTemplate.params ⟨parts⟩ := rfl

/-- A placeholder that is filled in is looked at, and so are the parts after it. -/
theorem fillParts_param_of_filled (template : UrlTemplate) (parts : List TemplatePart)
    (h : isFilled params entity name = true) :
    fillParts template params entity (.param name :: parts) =
      ⟨(fillParts template params entity parts).outcome.map fun (url, paths) =>
          (written params entity (.param name) ++ url, pathOf params name :: paths),
        (ambiguity? template params entity name).toList ++
          (fillParts template params entity parts).warnings⟩ := by
  rw [fillParts, paramText_of_filled h]
  rfl

/-- A placeholder that is refused is looked at, but no part after it. -/
theorem fillParts_param_of_refuses (parts : List TemplatePart) {e : BuildError}
    (h : Refuses template params entity name e) :
    fillParts template params entity (.param name :: parts) =
      ⟨.error e, (ambiguity? template params entity name).toList⟩ := by
  rw [fillParts, paramText_of_refuses h]

theorem outcome_fillParts_of_filled (template : UrlTemplate)
    (h : ∀ name ∈ UrlTemplate.params ⟨parts⟩, isFilled params entity name = true) :
    (fillParts template params entity parts).outcome =
      .ok (String.join (parts.map (written params entity)),
        (UrlTemplate.params ⟨parts⟩).map (pathOf params)) := by
  induction parts with
  | nil => rfl
  | cons part parts ih =>
    cases part with
    | literal text =>
      rw [params_literal] at h ⊢
      rw [fillParts, ih h, List.map_cons, String.join_cons]
      rfl
    | param name =>
      rw [params_param, List.forall_mem_cons] at h
      rw [fillParts_param_of_filled template parts h.1, ih h.2, List.map_cons, String.join_cons]
      rfl

theorem outcome_fillParts_of_refuses {before after : List String} {e : BuildError}
    (hparams : UrlTemplate.params ⟨parts⟩ = before ++ name :: after)
    (hbefore : ∀ earlier ∈ before, isFilled params entity earlier = true)
    (h : Refuses template params entity name e) :
    (fillParts template params entity parts).outcome = .error e := by
  induction parts generalizing before with
  | nil => simp at hparams
  | cons part parts ih =>
    cases part with
    | literal text =>
      rw [params_literal] at hparams
      rw [fillParts, ih hparams hbefore]
      rfl
    | param first =>
      rw [params_param] at hparams
      cases before with
      | nil =>
        obtain ⟨rfl, _⟩ := List.cons.inj hparams
        rw [fillParts_param_of_refuses parts h]
      | cons earlier before =>
        obtain ⟨rfl, hrest⟩ := List.cons.inj hparams
        rw [List.forall_mem_cons] at hbefore
        rw [fillParts_param_of_filled template parts hbefore.1, ih hrest hbefore.2]
        rfl

theorem warnings_fillParts (template : UrlTemplate) (parts : List TemplatePart) :
    (fillParts template params entity parts).warnings =
      (reached params entity (UrlTemplate.params ⟨parts⟩)).filterMap
        (ambiguity? template params entity) := by
  induction parts with
  | nil => rfl
  | cons part parts ih =>
    cases part with
    | literal text => exact ih
    | param name =>
      rw [params_param, reached]
      cases hfilled : isFilled params entity name with
      | true =>
        rw [fillParts_param_of_filled template parts hfilled, ih, if_pos rfl, List.filterMap_cons]
        cases ambiguity? template params entity name <;> rfl
      | false =>
        obtain ⟨e, he⟩ := exists_refuses template hfilled
        rw [fillParts_param_of_refuses parts he, if_neg Bool.false_ne_true, List.filterMap_cons]
        cases ambiguity? template params entity name <;> rfl

end Parts

theorem filled_or_firstRefusal (template : UrlTemplate) (params : Table FieldPath)
    (entity : Entity) :
    (∀ name ∈ template.params, isFilled params entity name = true) ∨
      ∃ e, FirstRefusal template params entity e := by
  cases hfind : template.params.find? fun name => !isFilled params entity name with
  | none =>
    rw [List.find?_eq_none] at hfind
    exact .inl fun name hname => by simpa using hfind name hname
  | some name =>
    obtain ⟨hname, before, after, hparams, hbefore⟩ := List.find?_eq_some_iff_append.mp hfind
    obtain ⟨e, he⟩ := exists_refuses template (Bool.not_eq_true' _ ▸ hname)
    exact .inr ⟨e, before, name, after, hparams,
      fun earlier hearlier => by simpa using hbefore earlier hearlier, he⟩

theorem mem_ascendingNames {names : List String} :
    name ∈ ascendingNames names ↔ name ∈ names := by
  rw [← not_iff_not, ascendingNames, ← Table.get?_eq_none_iff, Table.get?_ofList,
    List.lookup_eq_none_iff]
  simp [List.forall_mem_ne]

/-- What a template is filled in to if all placeholders are. -/
def filledUrl (template : UrlTemplate) (params : Table FieldPath) (entity : Entity) : BuiltUrl :=
  ⟨String.join (template.parts.map (written params entity)),
    ascendingNames ((template.params.map (pathOf params)).filterMap FieldPath.topLevelField?)⟩

theorem outcome_fill_of_filled
    (h : ∀ name ∈ template.params, isFilled params entity name = true) :
    (template.fill params entity).outcome = .ok (template.filledUrl params entity) := by
  rw [fill, outcome_fillParts_of_filled template h]
  rfl

theorem outcome_fill_of_firstRefusal {e : BuildError}
    (h : FirstRefusal template params entity e) :
    (template.fill params entity).outcome = .error e := by
  obtain ⟨before, name, after, hparams, hbefore, hrefuses⟩ := h
  rw [fill, outcome_fillParts_of_refuses hparams hbefore hrefuses]
  rfl

theorem mem_consumed_filledUrl {field : String} :
    field ∈ (template.filledUrl params entity).consumed ↔
      ∃ name ∈ template.params, (pathOf params name).topLevelField? = some field := by
  rw [filledUrl, mem_ascendingNames, List.filterMap_map, List.mem_filterMap]
  rfl

theorem filledIn_of_filled (h : ∀ name ∈ template.params, isFilled params entity name = true) :
    FilledIn template params entity (template.filledUrl params entity) where
  filled := h
  url := rfl
  ascending := Table.names_ascending _
  mem_consumed _ := mem_consumed_filledUrl
  consumed_fields field hfield := by
    obtain ⟨name, hname, hpath⟩ := mem_consumed_filledUrl.mp hfield
    obtain ⟨value, hvalue, _⟩ := (Option.any_eq_true _ _).mp (h name hname)
    exact FieldPath.mem_names_of_resolve? hpath (valueOf?_eq ▸ hvalue)

theorem FilledIn.unique {built other : BuiltUrl} (h : FilledIn template params entity built)
    (hother : FilledIn template params entity other) : built = other := by
  obtain ⟨url, consumed⟩ := built
  obtain ⟨otherUrl, otherConsumed⟩ := other
  have hurl : url = otherUrl := h.url.trans hother.url.symm
  have hconsumed : consumed = otherConsumed :=
    h.ascending.eq_of_mem_iff hother.ascending fun field =>
      (h.mem_consumed field).trans (hother.mem_consumed field).symm
  rw [hurl, hconsumed]

/-! ## Following the rule -/

theorem outcome_fill_eq_ok_iff {built : BuiltUrl} :
    (template.fill params entity).outcome = .ok built ↔
      FilledIn template params entity built := by
  constructor
  · intro houtcome
    rcases filled_or_firstRefusal template params entity with hfilled | ⟨e, he⟩
    · rw [outcome_fill_of_filled hfilled] at houtcome
      obtain rfl := Except.ok.inj houtcome
      exact filledIn_of_filled hfilled
    · rw [outcome_fill_of_firstRefusal he] at houtcome
      cases houtcome
  · intro h
    rw [outcome_fill_of_filled h.filled, (filledIn_of_filled h.filled).unique h]

theorem outcome_fill_eq_error_iff {e : BuildError} :
    (template.fill params entity).outcome = .error e ↔
      FirstRefusal template params entity e := by
  refine ⟨fun houtcome => ?_, outcome_fill_of_firstRefusal⟩
  rcases filled_or_firstRefusal template params entity with hfilled | ⟨first, hfirst⟩
  · rw [outcome_fill_of_filled hfilled] at houtcome
    cases houtcome
  · rw [outcome_fill_of_firstRefusal hfirst] at houtcome
    exact Except.error.inj houtcome ▸ hfirst

/-- A URL is filled in if and only if every placeholder has a string, a number or a truth value,
and gives the fields of the entity that supplied one. Else the first placeholder that cannot be
filled in is refused. Warnings are issued of the ambiguous ones of those looked at, in order and
as often as they occur. -/
theorem fill_follows_rule (template : UrlTemplate) (params : Table FieldPath) (entity : Entity) :
    ((∃ built, (template.fill params entity).outcome = .ok built) ↔
      ∀ name ∈ template.params, isFilled params entity name = true) ∧
    (∀ built, (template.fill params entity).outcome = .ok built ↔
      FilledIn template params entity built) ∧
    (∀ e, (template.fill params entity).outcome = .error e ↔
      FirstRefusal template params entity e) ∧
    (template.fill params entity).warnings =
      (reached params entity template.params).filterMap (ambiguity? template params entity) ∧
    ∀ name w, ambiguity? template params entity name = some w ↔
      Ambiguous template params entity name w := by
  refine ⟨⟨?_, fun hfilled => ⟨_, outcome_fill_of_filled hfilled⟩⟩,
    fun _ => outcome_fill_eq_ok_iff, fun _ => outcome_fill_eq_error_iff,
    warnings_fillParts template template.parts, fun _ _ => ambiguity?_eq_some_iff⟩
  rintro ⟨built, hbuilt⟩
  exact (outcome_fill_eq_ok_iff.mp hbuilt).filled

-- The last placeholder stands after one that is refused, and is not warned of.
example :
    let template : UrlTemplate :=
      ⟨[.param "id", .literal "/", .param "id", .param "row", .param "id"]⟩
    let entity : Entity := ⟨⟨"adapter", "T", "x"⟩, ⟨Table.empty⟩,
      [("id", .bool true), ("key", .string "k"), ("row", .null)], []⟩
    (template.fill (Table.empty.insert "id" (FieldPath.field "key")) entity).warnings.map
      AmbiguousParam.param = ["id", "id"] := by
  decide

end UrlTemplate

end Rollout
