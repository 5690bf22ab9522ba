import Rollout.Proofs.Path.Deletion
import Rollout.Request.Build

/-!
# Withheld fields

Fields that may not be sent do not show in a request: two changes that differ in no other
fields have the same request, or the same error, if the URL reads none of these fields. The
body depends on the other fields alone, since every deletion goes well with leaving fields out;
the URL depends on the fields that it reads.
-/

namespace Rollout

/-- The annotations of a field that keep it from being sent for an action. -/
def FieldRules.forbids (rules : FieldRules) : Action → Bool
  | .add => rules.creatable = some false
  | .modify => rules.updatable = some false
  | .remove => false

theorem FieldRules.permits_eq (rules : FieldRules) (action : Action) :
    rules.permits action = !rules.forbids action := by
  cases action <;> simp [permits, forbids]

theorem Entity.all_permits_eq (entity : Entity) (field : String) (action : Action) :
    ((entity.rules? field).all fun rules => rules.permits action) =
      !(entity.rules? field).any fun rules => rules.forbids action := by
  cases entity.rules? field with
  | none => rfl
  | some rules => exact rules.permits_eq action

namespace Change

/-- A field may not be sent to an endpoint: its annotations forbid it for the action, the
endpoint ignores it, or the caller leaves it out. -/
def withholds (change : Change) (endpoint : Endpoint) (leftOut : LeftOut) (field : String) :
    Bool :=
  (change.data.rules? field).any (fun rules => rules.forbids change.action) ||
    decide (FieldPath.field field ∈ endpoint.ignored) || leftOut field change.elemId

/-- Two changes of one action to one element, with the same type and ancestors, whose data have
the same fields but for hidden ones. -/
structure EqBut (hidden : String → Bool) (a b : Change) : Prop where
  action : a.action = b.action
  elemId : a.elemId = b.elemId
  objectType : a.data.objectType = b.data.objectType
  parents : a.data.parents = b.data.parents
  shown : (a.data.value.filter fun field => !hidden field.1) =
    b.data.value.filter fun field => !hidden field.1

end Change

/-- The field of the entity that a placeholder takes its value from, if it is one. -/
def Endpoint.fieldRead? (endpoint : Endpoint) (param : String) : Option String :=
  match endpoint.urlParams.get? param with
  | some path => path.topLevelField?
  | none => some param

/-! ## The body -/

section Body

variable (change : Change) (endpoint : Endpoint) (leftOut : LeftOut)

/-- All fields are sent but for the withheld ones, in the order of the entity. -/
theorem names_sentValues (h : change.data.value.Distinct) :
    (change.sentValues endpoint leftOut).names =
      change.data.value.names.filter fun field => !change.withholds endpoint leftOut field := by
  have hpermitted : (change.data.permittedValue change.action).Distinct :=
    h.sublist (List.filter_sublist.map Prod.fst)
  rw [Change.sentValues, Fields.withoutIgnored,
    Fields.names_filter fun field => !leftOut field change.elemId,
    Fields.names_deleteAll endpoint.ignored hpermitted, Entity.permittedValue,
    Fields.names_filter fun field =>
      (change.data.rules? field).all fun rules => rules.permits change.action,
    List.filter_filter, List.filter_filter]
  refine List.filter_congr fun field _ => ?_
  rw [Entity.all_permits_eq, Change.withholds, Bool.not_or, Bool.not_or, decide_not, Bool.and_comm,
    Bool.and_comm (!leftOut field change.elemId), Bool.and_assoc]

/-- What is sent depends on the fields alone that are not withheld. -/
theorem sentValues_eq (h : change.data.value.Distinct) :
    change.sentValues endpoint leftOut =
      Fields.withoutIgnored
        ((change.data.value.filter fun field => !change.withholds endpoint leftOut field.1).filter
          fun field => (change.data.rules? field.1).all fun rules => rules.permits change.action)
        change.elemId endpoint.ignored leftOut := by
  have hsent : (change.sentValues endpoint leftOut).filter
      (fun field => !change.withholds endpoint leftOut field.1) =
        change.sentValues endpoint leftOut := by
    rw [List.filter_eq_self]
    intro field hfield
    have hname : field.1 ∈ (change.sentValues endpoint leftOut).names := List.mem_map_of_mem hfield
    rw [names_sentValues change endpoint leftOut h] at hname
    exact (List.mem_filter.mp hname).2
  rw [← hsent, Change.sentValues, Fields.withoutIgnored, Fields.withoutIgnored,
    Entity.permittedValue, List.filter_comm,
    ← Fields.deleteAll_filter endpoint.ignored
      (fun field => !change.withholds endpoint leftOut field),
    List.filter_comm]

end Body

/-! ## The URL -/

/-- A path leads to the same in two entities with the same ancestors, if these have the same
value of the field that it starts with. -/
theorem FieldPath.resolve?_congr {entity other : Entity} (path : FieldPath)
    (hparents : entity.parents = other.parents)
    (hfield : ∀ field, path.topLevelField? = some field →
      Fields.get? entity.value field = Fields.get? other.value field) :
    path.resolve? entity = path.resolve? other := by
  obtain ⟨root, segments⟩ := path
  cases segments with
  | nil => rfl
  | cons field steps =>
    cases root with
    | ancestor index => simp only [resolve?, start?, hparents]
    | value =>
      have hget := hfield field rfl
      simp only [resolve?, start?, Option.bind_some, Json.at?, Json.child?, hget]

namespace UrlTemplate

variable (template : UrlTemplate) {params : Table FieldPath} {entity other : Entity}

/-- The value of a placeholder depends on the field that it reads. -/
theorem paramText_congr (hid : entity.elemId = other.elemId)
    (hparents : entity.parents = other.parents) {name : String}
    (hmapped : ∀ path, params.get? name = some path → ∀ field,
      path.topLevelField? = some field →
        Fields.get? entity.value field = Fields.get? other.value field)
    (hnamed : params.get? name = none →
      Fields.get? entity.value name = Fields.get? other.value name) :
    paramText template params entity name = paramText template params other name := by
  cases hget : params.get? name with
  | some path =>
    have hresolve := path.resolve?_congr hparents (hmapped path hget)
    simp only [paramText, source?, hget, hresolve, hid]
  | none =>
    have hvalue := hnamed hget
    have hresolve : (FieldPath.field name).resolve? entity =
        (FieldPath.field name).resolve? other := by
      apply FieldPath.resolve?_congr _ hparents
      intro field hfield
      obtain rfl : name = field := Option.some.inj hfield
      exact hvalue
    simp only [paramText, source?, hget, hvalue]
    cases Fields.get? other.value name <;>
      simp only [Option.map_none, Option.map_some, hid, hresolve]

theorem outcome_fillParts_congr (parts : List TemplatePart)
    (h : ∀ name, .param name ∈ parts →
      paramText template params entity name = paramText template params other name) :
    (fillParts template params entity parts).outcome =
      (fillParts template params other parts).outcome := by
  induction parts with
  | nil => rfl
  | cons part parts ih =>
    have hrest := ih fun name hname => h name (List.mem_cons_of_mem _ hname)
    cases part with
    | literal text => simp only [fillParts, hrest]
    | param name =>
      rw [fillParts, fillParts, h name List.mem_cons_self]
      cases paramText template params other name with
      | error e => rfl
      | ok found => simp only [hrest]

theorem outcome_fill_congr
    (h : ∀ name ∈ template.params,
      paramText template params entity name = paramText template params other name) :
    (template.fill params entity).outcome = (template.fill params other).outcome := by
  have hparts := outcome_fillParts_congr template template.parts fun name hname =>
    h name (List.mem_filterMap.mpr ⟨_, hname, rfl⟩)
  rw [fill, fill, hparts]

end UrlTemplate

/-! ## The request -/

namespace Change.EqBut

variable {hidden hidden' : String → Bool} {a b : Change}

/-- Changes that differ in some fields differ in no fields but more. -/
theorem mono (h : EqBut hidden a b) (hmore : ∀ field, hidden field = true → hidden' field = true) :
    EqBut hidden' a b where
  action := h.action
  elemId := h.elemId
  objectType := h.objectType
  parents := h.parents
  shown := by
    have hfilter (fields : Fields) : (fields.filter fun field => !hidden' field.1) =
        (fields.filter fun field => !hidden field.1).filter fun field => !hidden' field.1 := by
      rw [List.filter_filter]
      apply List.filter_congr
      intro field _
      cases hfield : hidden field.1 with
      | false => simp
      | true => simp [hmore field.1 hfield]
    rw [hfilter, h.shown, ← hfilter]

theorem get?_eq (h : EqBut hidden a b) {field : String} (hfield : hidden field = false) :
    Fields.get? a.data.value field = Fields.get? b.data.value field := by
  have hkept : (!hidden field) = true := by rw [hfield, Bool.not_false]
  rw [← Fields.get?_filter (fun name => !hidden name) hkept, h.shown,
    Fields.get?_filter (fun name => !hidden name) hkept]

end Change.EqBut

/-- Two changes that differ in nothing but withheld fields have the same request, or the same
error, if no placeholder of the URL takes its value from a field in which they differ. A withheld
field that they have in common may be in the URL. -/
theorem requestFor_eq_of_eqBut_withheld (endpoint : Endpoint) (leftOut : LeftOut)
    {change other : Change} (hdistinct : change.data.value.Distinct)
    (hdistinct' : other.data.value.Distinct) {differs : String → Bool}
    (hwithheld : ∀ field, differs field = true → change.withholds endpoint leftOut field = true)
    (h : change.EqBut differs other)
    (hread : ∀ param ∈ endpoint.url.params, ∀ field, endpoint.fieldRead? param = some field →
      differs field = false) :
    (change.requestFor endpoint leftOut).outcome = (other.requestFor endpoint leftOut).outcome := by
  have hrules : change.data.rules? = other.data.rules? := by
    funext field
    rw [Entity.rules?, Entity.rules?, h.objectType]
  have hsame : change.withholds endpoint leftOut = other.withholds endpoint leftOut := by
    funext field
    rw [Change.withholds, Change.withholds, hrules, h.action, h.elemId]
  -- the body sees neither the fields that differ nor any other withheld one
  have hsent : change.sentValues endpoint leftOut = other.sentValues endpoint leftOut := by
    rw [sentValues_eq change endpoint leftOut hdistinct,
      sentValues_eq other endpoint leftOut hdistinct', (h.mono hwithheld).shown, hsame, hrules,
      h.action, h.elemId]
  have hbody : change.body endpoint leftOut = other.body endpoint leftOut := by
    rw [Change.body, Change.body, hsent]
  have hurl : (endpoint.url.fill endpoint.urlParams change.data).outcome =
      (endpoint.url.fill endpoint.urlParams other.data).outcome := by
    apply UrlTemplate.outcome_fill_congr
    intro param hparam
    apply UrlTemplate.paramText_congr _ h.elemId h.parents
    · intro path hpath field hfield
      apply h.get?_eq (hread param hparam field _)
      rw [Endpoint.fieldRead?, hpath]
      exact hfield
    · intro hpath
      apply h.get?_eq (hread param hparam param _)
      rw [Endpoint.fieldRead?, hpath]
  simp only [Change.requestFor, hurl, hbody]

/-- Elements are created under their first ancestor, wrapped, and with a field ignored in part
and another one as a whole. -/
def creatingUnder : Endpoint where
  url := ⟨[.literal "/under/", .param "parent", .literal "/", .param "name"]⟩
  method := .post
  urlParams := Table.empty.insert "parent" ⟨.ancestor 0, ["id"]⟩
  omitBody := false
  ignored := [⟨.value, ["place", "row"]⟩, ⟨.value, ["notes"]⟩]
  query := none
  wrapper := some "element"

/-- Elements are modified under their number, and fields are ignored as in their addition. -/
def modifyingByNumber : Endpoint :=
  { creatingUnder with
    url := ⟨[.literal "/elements/", .param "number"]⟩
    method := .put }

/-- The modification of an element whose number stands. -/
def modificationTo (value : Fields) : Change :=
  let data : Entity :=
    { elemId := ⟨"adapter", "T", "x"⟩
      objectType := ⟨Table.empty.insert "number" ⟨none, some false, false⟩⟩
      value
      parents := [] }
  .modify data data

/-- One number and one name, given with notes, or with a mark. -/
def givenWithNotes : Fields :=
  [("name", .string "a b"), ("number", .string "1"), ("notes", .null),
    ("place", .object [("row", .null), ("column", .string "2")])]

def givenWithMark : Fields :=
  [("mark", .bool true), ("name", .string "a b"), ("number", .string "1"),
    ("place", .object [("row", .null), ("column", .string "2")])]

theorem requestFor_eq_of_eqBut_withheld_modifyingByNumber :
    let leftOut : LeftOut := fun name _ => name = "mark"
    let change := modificationTo givenWithNotes
    let other := modificationTo givenWithMark
    let differs : String → Bool := fun field => field = "notes" || field = "mark"
    change.data.value.Distinct ∧ other.data.value.Distinct ∧
    (∀ field, differs field = true →
      change.withholds modifyingByNumber leftOut field = true) ∧
    change.EqBut differs other ∧
    (∀ param ∈ modifyingByNumber.url.params, ∀ field,
      modifyingByNumber.fieldRead? param = some field → differs field = false) ∧
    change.withholds modifyingByNumber leftOut "number" = true ∧
    ((change.requestFor modifyingByNumber leftOut).outcome.toOption.map Request.url) =
      some "/elements/1" ∧
    (change.requestFor modifyingByNumber leftOut).outcome =
      (other.requestFor modifyingByNumber leftOut).outcome := by
  intro leftOut change other differs
  have hdistinct : change.data.value.Distinct := by decide
  have hdistinct' : other.data.value.Distinct := by decide
  have hwithheld : ∀ field, differs field = true →
      change.withholds modifyingByNumber leftOut field = true := by
    intro field hfield
    simp only [differs, Bool.or_eq_true, decide_eq_true_eq] at hfield
    rcases hfield with rfl | rfl <;> decide
  have heq : change.EqBut differs other := ⟨rfl, rfl, rfl, rfl, rfl⟩
  have hread : ∀ param ∈ modifyingByNumber.url.params, ∀ field,
      modifyingByNumber.fieldRead? param = some field → differs field = false := by
    intro param hparam field hfield
    obtain rfl : param = "number" := List.mem_singleton.mp hparam
    obtain rfl : "number" = field := Option.some.inj hfield
    decide
  refine ⟨hdistinct, hdistinct', hwithheld, heq, hread, by decide, by decide, ?_⟩
  exact requestFor_eq_of_eqBut_withheld modifyingByNumber leftOut hdistinct hdistinct' hwithheld
    heq hread

end Rollout
