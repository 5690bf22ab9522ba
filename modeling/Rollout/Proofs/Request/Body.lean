import Rollout.Proofs.Path.AtOnce
import Rollout.Proofs.Request.Withheld

/-!
# What a request carries

A request carries the permitted part of the value of an entity: all fields that are not withheld,
in their order, each as it is but for what the ignored paths lead to in it. Whether a field is
hidden or supplies the URL does not matter.
-/

namespace Rollout

/-- What a path leaves of the value of a field. -/
def FieldPath.leaves (path : FieldPath) (name : String) (value : Json) : Json :=
  if path.topLevelField? = some name then value.deleted path.segments.tail else value

namespace Fields

variable {name : String}

theorem get?_delete {path : FieldPath} (h : path ≠ FieldPath.field name) (fields : Fields) :
    get? (path.delete fields).2 name = (fields.get? name).map (path.leaves name) := by
  have hsame : path.topLevelField? ≠ some name →
      (fields.get? name).map (path.leaves name) = fields.get? name := by
    intro hfield
    have hid : path.leaves name = id := funext fun value => if_neg hfield
    rw [hid, Option.map_id_fun, id]
  obtain ⟨root, segments⟩ := path
  cases root with
  | ancestor index => exact (hsame fun heq => by cases heq).symm
  | value =>
    cases segments with
    | nil => exact (hsame fun heq => by cases heq).symm
    | cons first steps =>
      rw [FieldPath.delete_cons]
      by_cases hfirst : first = name
      · subst hfirst
        split
        · rename_i hnone
          rw [hnone, Option.map_none]
        · exact absurd rfl h
        · rename_i child step steps hchild
          have hleaves : (⟨.value, first :: step :: steps⟩ : FieldPath).leaves first child =
              child.deleted (step :: steps) := if_pos rfl
          rw [hchild, Option.map_some, hleaves, Json.deleted]
          split
          · rename_i hdelete
            rw [get?_put, if_pos rfl, hdelete]
            rfl
          · rename_i hdelete
            rw [hchild, hdelete]
            rfl
      · rw [hsame fun heq => hfirst (Option.some.inj heq)]
        split
        · rfl
        · exact get?_erase_of_ne hfirst
        · split
          · rw [get?_put, if_neg hfirst]
          · rfl

theorem get?_deleteAll {paths : List FieldPath} (h : FieldPath.field name ∉ paths)
    (fields : Fields) : get? (deleteAll paths fields) name =
      (fields.get? name).map fun value =>
        paths.foldl (fun left path => path.leaves name left) value := by
  induction paths generalizing fields with
  | nil => exact Option.map_id'.symm
  | cons path paths ih =>
    rw [List.mem_cons, not_or] at h
    rw [deleteAll_cons, ih h.2, get?_delete (Ne.symm h.1), Option.map_map]
    rfl

end Fields

namespace Change

/-- The permitted part of the data of a change, as an endpoint sends it: all fields that are not
withheld, in their order, with their own values but for what longer ignored paths lead to. -/
structure PermittedPart (change : Change) (endpoint : Endpoint) (leftOut : LeftOut)
    (values : Fields) : Prop where
  names : values.names =
    change.data.value.names.filter fun name => !change.withholds endpoint leftOut name
  whole : ∀ name ∈ values.names,
    (∀ path ∈ endpoint.ignored, path.topLevelField? ≠ some name) →
      values.get? name = change.data.value.get? name
  cut : ∀ name ∈ values.names, values.get? name =
    (change.data.value.get? name).map fun value =>
      endpoint.ignored.foldl (fun left path => path.leaves name left) value

/-- What a request carries: nothing if the endpoint omits the body, else the permitted part, as the
one field that the endpoint wraps it in if it does. -/
inductive Carries (change : Change) (endpoint : Endpoint) (leftOut : LeftOut) :
    Option Json → Prop where
  | omitted (omits : endpoint.omitBody = true) : Carries change endpoint leftOut none
  | plain {values : Fields} (sends : endpoint.omitBody = false)
    (unwrapped : endpoint.wrapper = none)
    (part : change.PermittedPart endpoint leftOut values) :
    Carries change endpoint leftOut (some (.object values))
  | wrapped {field : String} {values : Fields} (sends : endpoint.omitBody = false)
    (wraps : endpoint.wrapper = some field)
    (part : change.PermittedPart endpoint leftOut values) :
    Carries change endpoint leftOut (some (.object [(field, .object values)]))

variable {change : Change} (endpoint : Endpoint) (leftOut : LeftOut)

theorem permittedPart_sentValues (h : change.data.value.Distinct) :
    change.PermittedPart endpoint leftOut (change.sentValues endpoint leftOut) := by
  have hnames := names_sentValues change endpoint leftOut h
  have hcut : ∀ name ∈ (change.sentValues endpoint leftOut).names,
      (change.sentValues endpoint leftOut).get? name =
        (change.data.value.get? name).map fun value =>
          endpoint.ignored.foldl (fun left path => path.leaves name left) value := by
    intro name hname
    rw [hnames, List.mem_filter, Bool.not_eq_true', withholds, Bool.or_eq_false_iff,
      Bool.or_eq_false_iff, decide_eq_false_iff_not] at hname
    obtain ⟨_, ⟨hforbidden, hignored⟩, hkept⟩ := hname
    have hpermitted : (change.data.rules? name).all
        (fun rules => rules.permits change.action) = true := by
      rw [Entity.all_permits_eq, hforbidden, Bool.not_false]
    rw [sentValues, Fields.withoutIgnored,
      Fields.get?_filter (fun name => !leftOut name change.elemId) (by rw [hkept, Bool.not_false]),
      Fields.get?_deleteAll hignored, Entity.permittedValue,
      Fields.get?_filter (fun name => (change.data.rules? name).all
        fun rules => rules.permits change.action) hpermitted]
  refine ⟨hnames, fun name hname hwhole => ?_, hcut⟩
  have hleaves : ∀ value : Json,
      endpoint.ignored.foldl (fun left path => path.leaves name left) value = value := fun value =>
    (List.foldl_ext _ (fun left _ => left) value fun left path hpath =>
      if_neg (hwhole path hpath)).trans (List.foldl_fixed _)
  rw [hcut name hname]
  simp only [hleaves, Option.map_id']

theorem carries_body (h : change.data.value.Distinct) :
    change.Carries endpoint leftOut (change.body endpoint leftOut) := by
  have hpart := permittedPart_sentValues endpoint leftOut h
  rw [body]
  split
  · rename_i homits
    exact .omitted homits
  · rename_i hsends
    rw [Bool.not_eq_true] at hsends
    split
    · rename_i field hwraps
      exact .wrapped hsends hwraps hpart
    · rename_i hunwrapped
      exact .plain hsends hunwrapped hpart

end Change

/-- A change has a request if its URL can be filled in from the whole entity, and else the error of
the URL. The request has the method and the query of the endpoint and that URL, and it carries the
permitted part of the entity. -/
theorem requestFor_carries_permitted_part {change : Change} (endpoint : Endpoint)
    (leftOut : LeftOut) (hdistinct : change.data.value.Distinct) :
    (∀ e, (endpoint.url.fill endpoint.urlParams change.data).outcome = .error e →
      (change.requestFor endpoint leftOut).outcome = .error e) ∧
    ∀ built, (endpoint.url.fill endpoint.urlParams change.data).outcome = .ok built →
      ∃ request, (change.requestFor endpoint leftOut).outcome = .ok request ∧
        request.method = endpoint.method ∧ request.query = endpoint.query ∧
        request.url = built.url ∧ change.Carries endpoint leftOut request.data := by
  have houtcome : (change.requestFor endpoint leftOut).outcome =
      (endpoint.url.fill endpoint.urlParams change.data).outcome.map fun built =>
        ⟨endpoint.method, built.url, change.body endpoint leftOut, endpoint.query⟩ := rfl
  constructor
  · intro e hfill
    rw [houtcome, hfill]
    rfl
  · intro built hfill
    refine ⟨⟨endpoint.method, built.url, change.body endpoint leftOut, endpoint.query⟩, ?_, rfl,
      rfl, rfl, Change.carries_body endpoint leftOut hdistinct⟩
    rw [houtcome, hfill]
    rfl

/-- An element with a field that the service chooses, a hidden one, and some that are ignored. -/
def guarded : Change :=
  .add
    { elemId := ⟨"adapter", "T", "x"⟩
      objectType := ⟨(Table.empty.insert "number" ⟨some false, none, false⟩).insert "secret"
        ⟨none, some false, true⟩⟩
      value := [("secret", .string "s"), ("number", .string "1"), ("name", .string "a b"),
        ("mark", .bool true), ("place", .object [("row", .null), ("column", .string "2")]),
        ("notes", .null)]
      parents := [⟨⟨"adapter", "T", "p"⟩, [("id", .string "7")]⟩] }

theorem requestFor_carries_permitted_part_guarded :
    let leftOut : LeftOut := fun name _ => name = "mark"
    let values : Fields := [("secret", .string "s"), ("name", .string "a b"),
      ("place", .object [("column", .string "2")])]
    guarded.data.value.Distinct ∧
    ∃ request, (guarded.requestFor creatingUnder leftOut).outcome = .ok request ∧
      request.method = .post ∧ request.query = none ∧ request.url = "/under/7/a%20b" ∧
      guarded.Carries creatingUnder leftOut request.data ∧
      request.data = some (.object [("element", .object values)]) := by
  intro leftOut values
  have hdistinct : guarded.data.value.Distinct := by decide
  have hfill : (creatingUnder.url.fill creatingUnder.urlParams guarded.data).outcome =
      .ok ⟨"/under/7/a%20b", ["name"]⟩ := by decide
  obtain ⟨request, hrequest, hmethod, hquery, hurl, hcarries⟩ :=
    (requestFor_carries_permitted_part creatingUnder leftOut hdistinct).2 _ hfill
  have hdata : request.data = guarded.body creatingUnder leftOut := by
    simp only [Change.requestFor, hfill] at hrequest
    rw [← Except.ok.inj hrequest]
  exact ⟨hdistinct, request, hrequest, hmethod, hquery, hurl, hcarries, hdata⟩

end Rollout
