import Mathlib.Data.List.Pairwise
import Mathlib.Data.List.Perm.Basic
import Rollout.Proofs.Batch.Calls
import Rollout.Proofs.Order.Orderly

/-!
# Batches in another order

If the answers of the service depend on the requests alone, the result of an orderly batch that
is deployed in order does not depend on the order in which its changes were given. Every
ancestor that is added or modified with a change has its turn before it, so by induction on the
turns each change is handed over with the same snapshots.
-/

namespace Rollout.Batch

variable {σ : Type}

/-! ## Values that are known at a turn -/

private theorem left?_congr {turn turn' : Turn σ} (hchange : turn.change = turn'.change)
    (houtcome : turn.outcome = turn'.outcome) (id : ElemId) :
    turn.left? id = turn'.left? id := by
  rw [Turn.left?, Turn.left?, hchange, houtcome]

/-! ## Two runs of the same changes -/

/-- The turns of given changes: each change is handed over with the latest values, what comes of
it depends on nothing else, and no change has its turn before one of its ancestors. -/
structure OrderlyTurns (react : Change → Outcome) (turns : List (Change × Turn σ)) : Prop where
  handed : ∀ before input turn after, turns = before ++ (input, turn) :: after →
    turn.change = input.withSnapshots (latestValue? (before.map Prod.snd))
  outcome : ∀ input turn, (input, turn) ∈ turns → turn.outcome = react turn.change
  ancestors_first : turns.Pairwise fun earlier later =>
    later.1.isRemoval = false → ¬ earlier.1.IsChildOf later.1
  distinct : turns.Pairwise fun a b =>
    a.1.isRemoval = false → b.1.isRemoval = false → a.1.elemId ≠ b.1.elemId

/-- Some turn of a given change hands it over as it then is. -/
def HandedAs (turns : List (Change × Turn σ)) (input handed : Change) : Prop :=
  ∃ turn, (input, turn) ∈ turns ∧ turn.change = handed

namespace OrderlyTurns

variable {react : Change → Outcome} {turns turns' : List (Change × Turn σ)}

private theorem kept_of_left (h : OrderlyTurns react turns) {input : Change} {turn : Turn σ}
    (hmem : (input, turn) ∈ turns) {id : ElemId} {value : Fields}
    (hleft : turn.left? id = some value) : input.isRemoval = false ∧ input.elemId = id := by
  obtain ⟨before, after, hsplit⟩ := List.append_of_mem hmem
  obtain ⟨hid, haction⟩ := Turn.left?_eq_some hleft
  simp only [h.handed before input turn after hsplit, Change.elemId_withSnapshots,
    Change.action_withSnapshots] at hid haction
  refine ⟨?_, hid⟩
  rcases haction with haction | ⟨haction, _⟩ <;> simp [Change.isRemoval, haction]

/-- An element is added or modified in one turn only. -/
private theorem eq_of_elemId_eq (h : OrderlyTurns react turns) {a b : Change × Turn σ}
    (ha : a ∈ turns) (hb : b ∈ turns) (hkept : a.1.isRemoval = false)
    (hkept' : b.1.isRemoval = false) (hid : a.1.elemId = b.1.elemId) : a = b := by
  by_contra hne
  have : Std.Symm fun a b : Change × Turn σ =>
      a.1.isRemoval = false → b.1.isRemoval = false → a.1.elemId ≠ b.1.elemId :=
    ⟨fun a b hab hb ha => (hab ha hb).symm⟩
  exact h.distinct.forall ha hb hne hkept hkept' hid

/-- The turn of an ancestor that is added or modified comes before that of the change, unless
the change is its own ancestor. -/
private theorem mem_before (h : OrderlyTurns react turns) {before after : List (Change × Turn σ)}
    {input parent : Change} {turn turn' : Turn σ}
    (hsplit : turns = before ++ (input, turn) :: after) (hmem : (parent, turn') ∈ turns)
    (hkept : parent.isRemoval = false) (hchild : input.IsChildOf parent)
    (hne : parent ≠ input) : (parent, turn') ∈ before := by
  have hfirst := h.ancestors_first
  rw [hsplit] at hmem hfirst
  rcases List.mem_append.mp hmem with hmem | hmem
  · exact hmem
  rcases List.mem_cons.mp hmem with heq | hmem
  · exact absurd (congrArg Prod.fst heq) hne
  · have hlater := (List.pairwise_cons.mp (List.pairwise_append.mp hfirst).2.1).1 _ hmem
    exact absurd hchild (hlater hkept)

/-- What is known at the turn of a change in one run is known at its turn in the other one, if
the turns before it in both runs are of the same changes. -/
private theorem latest_of_latest (h : OrderlyTurns react turns) (h' : OrderlyTurns react turns')
    (hinputs : ∀ input ∈ turns.map Prod.fst, input ∈ turns'.map Prod.fst)
    {before after before' after' : List (Change × Turn σ)} {input : Change} {turn turn' : Turn σ}
    (hsplit : turns = before ++ (input, turn) :: after)
    (hsplit' : turns' = before' ++ (input, turn') :: after')
    (hbefore : ∀ parent s s', (parent, s) ∈ before → (parent, s') ∈ before' →
      s.change = s'.change)
    {snapshot : Parent} (hsnapshot : snapshot ∈ input.data.parents) {value : Fields}
    (hvalue : latestValue? (before.map Prod.snd) snapshot.elemId = some value) :
    latestValue? (before'.map Prod.snd) snapshot.elemId = some value := by
  obtain ⟨s, hs, hleft⟩ := exists_left_of_latest hvalue
  obtain ⟨⟨parent, s⟩, hparent, rfl⟩ := List.mem_map.mp hs
  have hmem : (parent, s) ∈ turns := by simp [hsplit, hparent]
  obtain ⟨hkept, hid⟩ := h.kept_of_left hmem hleft
  have hne : parent ≠ input := by
    intro heq
    subst heq
    have hdistinct := h.distinct
    rw [hsplit] at hdistinct
    exact (List.pairwise_append.mp hdistinct).2.2 _ hparent _ List.mem_cons_self hkept hkept rfl
  obtain ⟨⟨parent', s'⟩, hmem', rfl⟩ :=
    List.mem_map.mp (hinputs parent (List.mem_map.mpr ⟨_, hmem, rfl⟩))
  have hparent' := h'.mem_before hsplit' hmem' hkept ⟨snapshot, hsnapshot, hid.symm⟩ hne
  have hchange := hbefore parent' s s' hparent hparent'
  have houtcome : s.outcome = s'.outcome := by
    rw [h.outcome _ s hmem, h'.outcome _ s' hmem', hchange]
  rw [left?_congr hchange houtcome] at hleft
  apply latest_of_left (List.mem_map.mpr ⟨_, hparent', rfl⟩) hleft
  intro other hother value' hother'
  obtain ⟨⟨parent'', s''⟩, hmem'', rfl⟩ := List.mem_map.mp hother
  have hturns'' : (parent'', s'') ∈ turns' := by simp [hsplit', hmem'']
  obtain ⟨hkept'', hid''⟩ := h'.kept_of_left hturns'' hother'
  have heq := h'.eq_of_elemId_eq hturns'' hmem' hkept'' hkept (hid''.trans hid.symm)
  obtain ⟨rfl, rfl⟩ := Prod.mk.inj heq
  exact Option.some.inj (hother'.symm.trans hleft)

/-- A change is handed over alike in both runs, by induction on the turns before it. -/
private theorem handed_eq (h : OrderlyTurns react turns) (h' : OrderlyTurns react turns')
    (hinputs : ∀ input, input ∈ turns.map Prod.fst ↔ input ∈ turns'.map Prod.fst)
    (n : Nat) : ∀ before input turn after, before.length = n →
      turns = before ++ (input, turn) :: after →
      ∀ before' turn' after', turns' = before' ++ (input, turn') :: after' →
        turn.change = turn'.change := by
  induction n using Nat.strong_induction_on with
  | _ n ih =>
    intro before input turn after hlength hsplit before' turn' after' hsplit'
    have hbefore : ∀ parent s s', (parent, s) ∈ before → (parent, s') ∈ before' →
        s.change = s'.change := by
      intro parent s s' hs hs'
      obtain ⟨x, y, hx⟩ := List.append_of_mem hs
      obtain ⟨x', y', hx'⟩ := List.append_of_mem hs'
      refine ih x.length ?_ x parent s (y ++ (input, turn) :: after) rfl ?_ x' s'
        (y' ++ (input, turn') :: after') ?_
      · simp only [← hlength, hx, List.length_append, List.length_cons]
        omega
      · simp [hsplit, hx]
      · simp [hsplit', hx']
    rw [h.handed before input turn after hsplit, h'.handed before' input turn' after' hsplit']
    refine input.withSnapshots_congr fun snapshot hsnapshot => Option.ext fun value => ?_
    constructor
    · exact latest_of_latest h h' (fun c hc => (hinputs c).mp hc) hsplit hsplit' hbefore
        hsnapshot
    · exact latest_of_latest h' h (fun c hc => (hinputs c).mpr hc) hsplit' hsplit
        (fun parent s s' hs hs' => (hbefore parent s' s hs' hs).symm) hsnapshot

private theorem change_eq (h : OrderlyTurns react turns) (h' : OrderlyTurns react turns')
    (hinputs : ∀ input, input ∈ turns.map Prod.fst ↔ input ∈ turns'.map Prod.fst)
    {input : Change} {turn turn' : Turn σ} (hmem : (input, turn) ∈ turns)
    (hmem' : (input, turn') ∈ turns') : turn.change = turn'.change := by
  obtain ⟨before, after, hsplit⟩ := List.append_of_mem hmem
  obtain ⟨before', after', hsplit'⟩ := List.append_of_mem hmem'
  exact h.handed_eq h' hinputs before.length before input turn after rfl hsplit before' turn'
    after' hsplit'

/-- The same changes are handed over in both runs. -/
theorem handed_perm (h : OrderlyTurns react turns) (h' : OrderlyTurns react turns')
    (hperm : (turns.map Prod.fst).Perm (turns'.map Prod.fst)) :
    (turns.map fun entry => entry.2.change).Perm (turns'.map fun entry => entry.2.change) := by
  have hunique : Relator.RightUnique (HandedAs turns') := by
    intro input handed handed' hhands hhands'
    obtain ⟨turn, hturn, rfl⟩ := hhands
    obtain ⟨turn', hturn', rfl⟩ := hhands'
    exact h'.change_eq h' (fun _ => Iff.rfl) hturn hturn'
  have hhands : List.Forall₂ (HandedAs turns') (turns.map Prod.fst)
      (turns.map fun entry => entry.2.change) := by
    rw [List.forall₂_map_left_iff, List.forall₂_map_right_iff, List.forall₂_same]
    intro entry hentry
    have hinput := hperm.mem_iff.mp (List.mem_map_of_mem hentry)
    obtain ⟨⟨input, turn'⟩, hturn', heq⟩ := List.mem_map.mp hinput
    obtain rfl : input = entry.1 := heq
    exact ⟨turn', hturn', h'.change_eq h (fun _ => hperm.symm.mem_iff) hturn' hentry⟩
  have hhands' : List.Forall₂ (HandedAs turns') (turns'.map Prod.fst)
      (turns'.map fun entry => entry.2.change) := by
    rw [List.forall₂_map_left_iff, List.forall₂_map_right_iff, List.forall₂_same]
    intro entry hentry
    exact ⟨entry.2, hentry, rfl⟩
  exact List.rel_perm_imp hunique hhands hhands' hperm

end OrderlyTurns

/-! ## Runs of a service without state -/

section Runs

variable {service : Service σ} (config : DeployConfig) (leftOut : LeftOut)

private theorem deployChanges_eq (deploy : Deployer σ) (changes : List Change) (run : Run σ) :
    deployChanges deploy changes run =
      (.ofOutcomes ((Mode.turns (.inOrder false) deploy changes run).map Turn.outcome),
        (Mode.queue (.inOrder false) deploy changes run).run) :=
  Mode.deploy_eq (.inOrder false) deploy changes run

private theorem length_ordered (deploy : Deployer σ) (changes : List Change) (run : Run σ) :
    (ordered changes).length = (Mode.turns (.inOrder false) deploy changes run).length := by
  rw [Mode.length_turns, (ordered_perm changes).length_eq]

private theorem change_of_split {inputs : List Change} {turns : List (Turn σ)}
    (hlength : inputs.length = turns.length)
    (hchanges : turns.map Turn.change = inputs.mapIdx fun n input =>
      input.withSnapshots (latestValue? (turns.take n)))
    {before after : List (Change × Turn σ)} {input : Change} {turn : Turn σ}
    (hsplit : inputs.zip turns = before ++ (input, turn) :: after) :
    turn.change = input.withSnapshots (latestValue? (before.map Prod.snd)) := by
  have hinputs : (inputs.zip turns).map Prod.fst = inputs := List.map_fst_zip hlength.le
  have hturns : (inputs.zip turns).map Prod.snd = turns := List.map_snd_zip hlength.ge
  have hinput : inputs[before.length]? = some input := by
    rw [← hinputs, hsplit]
    simp
  have hturn : turns[before.length]? = some turn := by
    rw [← hturns, hsplit]
    simp
  have hbefore : turns.take before.length = before.map Prod.snd := by
    rw [← hturns, hsplit, ← List.map_take, List.take_left]
  have hchange := congrArg (fun handed => handed[before.length]?) hchanges
  simp only [List.getElem?_map, List.getElem?_mapIdx, hinput, hturn, hbefore,
    Option.map_some] at hchange
  exact Option.some.inj hchange

private theorem outcome_of_mem (hservice : service.Stateless) (changes : List Change)
    (run start : Run σ) {turn : Turn σ} (hturn : turn ∈ Mode.turns (.inOrder false)
      (standardDeployer service config leftOut) changes run) :
    turn.outcome = (standardDeployer service config leftOut turn.change start).1 := by
  rw [Mode.outcome_of_mem_turns _ _ _ _ hturn]
  exact standardDeployer_congr hservice config leftOut turn.change turn.run start

private theorem orderlyTurns (hservice : service.Stateless) {changes : List Change}
    (h : Orderly changes) (run start : Run σ) :
    OrderlyTurns (fun change => (standardDeployer service config leftOut change start).1)
      ((ordered changes).zip
        (Mode.turns (.inOrder false) (standardDeployer service config leftOut) changes run)) := by
  have hlength := length_ordered (standardDeployer service config leftOut) changes run
  have hdistinct := (h.perm (ordered_perm changes).symm).distinct
  have hfirst := h.pairwise_ordered
  rw [← List.map_fst_zip hlength.le, List.pairwise_map] at hdistinct hfirst
  constructor
  · intro before input turn after hsplit
    exact change_of_split hlength (changes_of_turns
      (standardDeployer_settling service config leftOut) false changes run) hsplit
  · intro input turn hmem
    exact outcome_of_mem config leftOut hservice changes run start (List.of_mem_zip hmem).2
  · exact hfirst
  · exact hdistinct

/-- A permuted batch has its changes handed over as before, in another order. -/
private theorem changes_perm (hservice : service.Stateless) {changes changes' : List Change}
    (horderly : Orderly changes) (hperm : changes.Perm changes') (run run' : Run σ) :
    let deploy := standardDeployer service config leftOut
    ((Mode.turns (.inOrder false) deploy changes run).map Turn.change).Perm
      ((Mode.turns (.inOrder false) deploy changes' run').map Turn.change) := by
  intro deploy
  have hlength := length_ordered deploy
  have hchanges : ∀ batch (start : Run σ),
      ((ordered batch).zip (Mode.turns (.inOrder false) deploy batch start)).map
          (fun entry => entry.2.change) =
        (Mode.turns (.inOrder false) deploy batch start).map Turn.change := by
    intro batch start
    conv_rhs => rw [← List.map_snd_zip (hlength batch start).ge]
    simp
  have hturns := orderlyTurns config leftOut hservice horderly run run
  have hturns' := orderlyTurns config leftOut hservice (horderly.perm hperm) run' run
  have hordered := (ordered_perm changes).trans (hperm.trans (ordered_perm changes').symm)
  rw [← hchanges changes run, ← hchanges changes' run']
  apply hturns.handed_perm hturns'
  rwa [List.map_fst_zip (hlength changes run).le, List.map_fst_zip (hlength changes' run').le]

/-- The result of an orderly batch and the calls for it do not depend on the order in which its
changes are given, if the responses of the service depend on the requests alone. -/
theorem deployChanges_perm (hservice : service.Stateless) {changes changes' : List Change}
    (horderly : Orderly changes) (hperm : changes.Perm changes') (run run' : Run σ) :
    let deploy := standardDeployer service config leftOut
    let after := deployChanges deploy changes run
    let after' := deployChanges deploy changes' run'
    after.1.applied.Perm after'.1.applied ∧ after.1.errors.Perm after'.1.errors ∧
    ∃ calls calls', after.2.calls = run.calls ++ calls ∧ after'.2.calls = run'.calls ++ calls' ∧
      calls.Perm calls' := by
  intro deploy after after'
  have hhanded := changes_perm config leftOut hservice horderly hperm run run'
  have hresult : ∀ batch (start : Run σ), (deployChanges deploy batch start).1 =
      .ofOutcomes (((Mode.turns (.inOrder false) deploy batch start).map Turn.change).map
        fun change => (deploy change run).1) := by
    intro batch start
    have houtcomes : (Mode.turns (.inOrder false) deploy batch start).map Turn.outcome =
        ((Mode.turns (.inOrder false) deploy batch start).map Turn.change).map
          fun change => (deploy change run).1 := by
      rw [List.map_map]
      exact List.map_congr_left fun turn hturn =>
        outcome_of_mem config leftOut hservice batch start run hturn
    rw [deployChanges_eq, houtcomes]
  have houtcomes := hhanded.map fun change => (deploy change run).1
  have hcalls := calls_deployChanges config leftOut service changes run
  have hcalls' := calls_deployChanges config leftOut service changes' run'
  refine ⟨?_, ?_, _, _, hcalls, hcalls', ?_⟩
  · rw [hresult changes run, hresult changes' run']
    exact houtcomes.filterMap _
  · rw [hresult changes run, hresult changes' run']
    exact houtcomes.filterMap _
  · have hrequests := hhanded.flatMap_right fun change =>
      (requestOf? config leftOut change).toList
    rwa [List.flatMap_map, List.flatMap_map] at hrequests

/-- A child and, after it, its parent. -/
def childFirst : List Change :=
  [.add (namedEntity "child" ["parent"]), .add (namedEntity "parent" [])]

private theorem orderly_childFirst : Orderly childFirst :=
  .of_rank (fun change => if change.elemId.name = "parent" then 0 else 1) (by decide) (by decide)

theorem deployChanges_perm_childFirst :
    let deploy := standardDeployer accepting addingOnly LeftOut.nothing
    let after := deployChanges deploy childFirst (.start ())
    let after' := deployChanges deploy childFirst.reverse (.start ())
    accepting.Stateless ∧ Orderly childFirst ∧ childFirst.Perm childFirst.reverse ∧
      after.1.applied.length = 2 ∧ after.1.applied.Perm after'.1.applied ∧
      after.1.errors.Perm after'.1.errors ∧ after.2.calls.Perm after'.2.calls := by
  intro deploy after after'
  have hstateless : accepting.Stateless := fun _ _ _ => rfl
  have hreverse := childFirst.reverse_perm.symm
  obtain ⟨happlied, herrors, calls, calls', hcalls, hcalls', hperm⟩ :=
    deployChanges_perm addingOnly LeftOut.nothing hstateless orderly_childFirst hreverse
      (.start ()) (.start ())
  refine ⟨hstateless, orderly_childFirst, hreverse, by decide, happlied, herrors, ?_⟩
  rwa [show after.2.calls = calls from hcalls, show after'.2.calls = calls' from hcalls']

end Runs

end Rollout.Batch
