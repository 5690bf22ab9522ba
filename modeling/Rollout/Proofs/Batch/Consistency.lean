import Rollout.Proofs.Batch.Snapshots
import Rollout.Proofs.Order.Orderly

/-!
# Consistent results

The applied changes of an orderly batch that is deployed in order fit together: where one of
them has a snapshot of what another one added or modified, the snapshot has the value with which
the other one is reported. An ancestor has its turn before the change, its value is known from
then on, and no later turn knows another one.
-/

namespace Rollout

/-- The snapshots in one change of the entity that stands after another one have the value of
that entity. -/
def Change.AgreesWith (child parent : Change) : Prop :=
  ∀ entity, parent.after? = some entity → ∀ snapshot ∈ child.data.parents,
    snapshot.elemId = entity.elemId → snapshot.value = entity.value

theorem Change.mem_parents_withSnapshots {change : Change} {latest : ElemId → Option Fields}
    {snapshot : Parent} (h : snapshot ∈ (change.withSnapshots latest).data.parents) :
    ∃ given ∈ change.data.parents, given.elemId = snapshot.elemId ∧
      snapshot.value = (latest snapshot.elemId).getD given.value := by
  have hdata : (change.withSnapshots latest).data.parents = change.data.parents.map fun given =>
      { given with value := (latest given.elemId).getD given.value } := by
    cases change <;> rfl
  rw [hdata] at h
  obtain ⟨given, hgiven, rfl⟩ := List.mem_map.mp h
  exact ⟨given, hgiven, rfl, rfl⟩

namespace Batch

variable {σ : Type}

/-- The change of an outcome, if it was applied. -/
def Outcome.applied? (outcome : Outcome) : Option Change :=
  match outcome.result with
  | .ok _ => some outcome.change
  | .error _ => none

theorem applied_ofOutcomes (outcomes : List Outcome) :
    (Result.ofOutcomes outcomes).applied = outcomes.filterMap Outcome.applied? := rfl

@[simp] theorem parents_settled (change : Change) (answer : Json) :
    (settled change answer).data.parents = change.data.parents := by
  cases change with
  | add after => rw [settled, Change.data, Entity.merged_eq, Change.data]
  | modify before after => rfl
  | remove before => rfl

namespace Turn

variable {turn : Turn σ} (hsettles : turn.outcome.Settles turn.change) {applied : Change}
  (happlied : turn.outcome.applied? = some applied)

include hsettles happlied

/-- An applied change has the snapshots with which it was handed over. -/
theorem parents_applied : applied.data.parents = turn.change.data.parents := by
  obtain ⟨change, run, outcome, result⟩ := turn
  cases result with
  | error e => cases happlied
  | ok answer =>
    obtain rfl := Option.some.inj happlied
    rw [show outcome = settled change answer from hsettles, parents_settled]

/-- The turn of an applied change left the entity after the change at the service. -/
theorem left?_applied {entity : Entity} (hafter : applied.after? = some entity) :
    turn.left? entity.elemId = some entity.value := by
  obtain ⟨change, run, outcome, result⟩ := turn
  rw [Turn.left?_eq hsettles]
  cases result with
  | error e => cases happlied
  | ok answer =>
    obtain rfl := Option.some.inj happlied
    simp [Outcome.deployed?, hafter]

end Turn

section Turns

variable {deploy : Deployer σ} (hdeploy : Settling deploy) {changes : List Change}
  (horderly : Orderly changes) (heeds : Bool) (run : Run σ)

include hdeploy

/-- What the turns leave at the service comes from the additions and modifications. -/
theorem kept_of_left {n : Nat} {turn : Turn σ}
    (hturn : (Mode.turns (.inOrder heeds) deploy changes run)[n]? = some turn) {id : ElemId}
    {value : Fields} (hleft : turn.left? id = some value) :
    ∃ input, (ordered changes)[n]? = some input ∧ input.isRemoval = false ∧
      input.elemId = id := by
  obtain ⟨input, hinput, hchange⟩ := Mode.input_of_turn hdeploy (.inOrder heeds) changes run hturn
  obtain ⟨hid, haction⟩ := Turn.left?_eq_some hleft
  rw [hchange, Change.elemId_withSnapshots] at hid
  rw [hchange, Change.action_withSnapshots] at haction
  refine ⟨input, hinput, ?_, hid⟩
  rcases haction with haction | ⟨haction, _⟩ <;> simp [Change.isRemoval, haction]

include horderly

/-- In an orderly batch an element is left at the service in one turn only. -/
theorem eq_of_left {m n : Nat} {turn turn' : Turn σ}
    (hturn : (Mode.turns (.inOrder heeds) deploy changes run)[m]? = some turn)
    (hturn' : (Mode.turns (.inOrder heeds) deploy changes run)[n]? = some turn')
    {id : ElemId} {value value' : Fields} (hleft : turn.left? id = some value)
    (hleft' : turn'.left? id = some value') : m = n := by
  by_contra hne
  obtain ⟨input, hinput, hkept, hid⟩ := kept_of_left hdeploy heeds run hturn hleft
  obtain ⟨input', hinput', hkept', hid'⟩ := kept_of_left hdeploy heeds run hturn' hleft'
  have hordered := horderly.perm (ordered_perm changes).symm
  exact hordered.elemId_ne hne hinput hinput' hkept hkept' (hid.trans hid'.symm)

/-- What a turn leaves at the service is the latest value in every later turn. -/
theorem latest_after_left {m n : Nat} (hmn : m < n) {turn : Turn σ}
    (hturn : (Mode.turns (.inOrder heeds) deploy changes run)[m]? = some turn)
    {id : ElemId} {value : Fields} (hleft : turn.left? id = some value) :
    latestValue? ((Mode.turns (.inOrder heeds) deploy changes run).take n) id = some value := by
  have hmem : turn ∈ (Mode.turns (.inOrder heeds) deploy changes run).take n := by
    apply List.mem_of_getElem? (i := m)
    rwa [List.getElem?_take_of_lt hmn]
  apply latest_of_left hmem hleft
  intro other hother value' hleft'
  obtain ⟨k, hk⟩ := List.mem_iff_getElem?.mp (List.mem_of_mem_take hother)
  obtain rfl := eq_of_left hdeploy horderly heeds run hturn hk hleft hleft'
  obtain rfl := Option.some.inj (hturn.symm.trans hk)
  exact Option.some.inj (hleft'.symm.trans hleft)

/-- Of two applied changes, the later one holds the value of the earlier one, and the earlier one
has no snapshot of what the later one added or modified. -/
theorem agree_of_turns {m n : Nat} (hmn : m < n) {earlier later : Turn σ}
    (hearlier : (Mode.turns (.inOrder heeds) deploy changes run)[m]? = some earlier)
    (hlater : (Mode.turns (.inOrder heeds) deploy changes run)[n]? = some later)
    {first second : Change} (hfirst : earlier.outcome.applied? = some first)
    (hsecond : later.outcome.applied? = some second) :
    first.AgreesWith second ∧ second.AgreesWith first := by
  have hsettles : ∀ turn ∈ Mode.turns (.inOrder heeds) deploy changes run,
      turn.outcome.Settles turn.change := by
    intro turn hturn
    rw [Mode.outcome_of_mem_turns _ _ _ _ hturn]
    exact hdeploy.attempt _ _ _
  have hbefore := hsettles earlier (List.mem_of_getElem? hearlier)
  have hafter := hsettles later (List.mem_of_getElem? hlater)
  obtain ⟨input, hinput, hchange⟩ :=
    Mode.input_of_turn hdeploy (.inOrder heeds) changes run hearlier
  obtain ⟨input', _, hchange'⟩ :=
    Mode.input_of_turn hdeploy (.inOrder heeds) changes run hlater
  constructor
  · intro entity hentity snapshot hsnapshot hid
    -- the ancestor would have its turn after the change
    have hleft := Turn.left?_applied hafter hsecond hentity
    obtain ⟨parent, hparent, hkept, hparentId⟩ := kept_of_left hdeploy heeds run hlater hleft
    rw [Turn.parents_applied hbefore hfirst, hchange] at hsnapshot
    obtain ⟨given, hgiven, hgivenId, _⟩ := Change.mem_parents_withSnapshots hsnapshot
    have hchild : input.IsChildOf parent := ⟨given, hgiven, by rw [hgivenId, hid, hparentId]⟩
    exact absurd hchild (horderly.not_isChildOf hmn hinput hparent hkept)
  · intro entity hentity snapshot hsnapshot hid
    have hleft := Turn.left?_applied hbefore hfirst hentity
    have hknown : Mode.known? (.inOrder heeds)
        ((Mode.turns (.inOrder heeds) deploy changes run).take n) entity.elemId =
          some entity.value :=
      latest_after_left hdeploy horderly heeds run hmn hearlier hleft
    rw [Turn.parents_applied hafter hsecond, hchange'] at hsnapshot
    obtain ⟨given, _, _, hvalue⟩ := Change.mem_parents_withSnapshots hsnapshot
    rw [hvalue, hid, hknown, Option.getD_some]

end Turns

/-- The applied changes of an orderly batch agree with each other: a snapshot of what another one
of them added or modified has the value with which that one is reported. -/
theorem applied_changes_agree (service : Service σ) (config : DeployConfig) (leftOut : LeftOut)
    (meanwhile : Change → Run σ → σ × Bool) (heeds : Bool) {changes : List Change}
    (horderly : Orderly changes) (run : Run σ) :
    let deploy := amid meanwhile (standardDeployer service config leftOut)
    let result := (Mode.deploy (.inOrder heeds) deploy changes run).1
    ∀ (i j : Nat) (child parent : Change), i ≠ j → result.applied[i]? = some child →
      result.applied[j]? = some parent → child.AgreesWith parent := by
  intro deploy result i j child parent hij hchild hparent
  have hdeploy : Settling deploy :=
    (standardDeployer_settling service config leftOut).amid meanwhile
  have hpairwise : result.applied.Pairwise fun first second =>
      first.AgreesWith second ∧ second.AgreesWith first := by
    have hresult : result = .ofOutcomes
        ((Mode.turns (.inOrder heeds) deploy changes run).map Turn.outcome) :=
      congrArg Prod.fst (Mode.deploy_eq (.inOrder heeds) deploy changes run)
    rw [hresult, applied_ofOutcomes, List.filterMap_map, List.pairwise_filterMap,
      List.pairwise_iff_getElem]
    intro m n hm hn hmn first hfirst second hsecond
    exact agree_of_turns hdeploy horderly heeds run hmn (List.getElem?_eq_getElem hm)
      (List.getElem?_eq_getElem hn) hfirst hsecond
  obtain ⟨hi, rfl⟩ := List.getElem?_eq_some_iff.mp hchild
  obtain ⟨hj, rfl⟩ := List.getElem?_eq_some_iff.mp hparent
  rcases Nat.lt_or_gt_of_ne hij with hlt | hgt
  · exact (List.pairwise_iff_getElem.mp hpairwise i j hi hj hlt).1
  · exact (List.pairwise_iff_getElem.mp hpairwise j i hj hi hgt).2

/-- Three generations, the youngest first. -/
def generations : List Change :=
  [.add (namedEntity "grandchild" ["child", "parent"]), .add (namedEntity "child" ["parent"]),
    .add (namedEntity "parent" [])]

theorem applied_changes_agree_generations :
    let deploy := amid (fun _ run => (run.service, false))
      (standardDeployer accepting addingOnly LeftOut.nothing)
    let result := (Mode.deploy (.inOrder true) deploy generations (.start ())).1
    Orderly generations ∧
    result.applied.map (fun change => change.elemId.name) = ["parent", "child", "grandchild"] ∧
    ∀ child parent, result.applied[2]? = some child → result.applied[0]? = some parent →
      child.AgreesWith parent := by
  intro deploy result
  have horderly : Orderly generations :=
    .of_rank (fun change => change.data.parents.length) (by decide) (by decide)
  refine ⟨horderly, by decide, fun child parent hchild hparent => ?_⟩
  exact applied_changes_agree accepting addingOnly LeftOut.nothing _ true horderly (.start ())
    2 0 child parent (by decide) hchild hparent

end Batch

end Rollout
