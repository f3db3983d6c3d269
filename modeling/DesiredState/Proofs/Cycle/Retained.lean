import DesiredState.Proofs.Cycle.Basic
import DesiredState.Proofs.Store.Filled
/-!
Cycles one after the other. Main statement: `specContent_after_success`, that after every cycle
that succeeds the stored specification is what the parameters of that cycle ask for, whatever was
asked for before and even where nothing was found to change.
-/

set_option autoImplicit false
set_option relaxedAutoImplicit false

namespace DesiredState

/-- The content of the specification, without what is ignored in volume claim templates. -/
def StatefulSet.specContent (o : StatefulSet) : Json :=
  ((IgnoreRule.applyAll [.claimTypeMetaAndStatus, .claimVolatile] o.toJson).memberOrNull
    "spec").content

private theorem StatefulSet.specContent_of_spec {o : StatefulSet} {s : Record .statefulSetSpec}
    (h : o.get? StatefulSet.spec = some s) :
    o.specContent = (IgnoreRule.compared s.toJson).content := by
  have hspec : o.toJson.member? "spec" = (o.get? StatefulSet.spec).map Value.toJson :=
    Value.member?_toJson o StatefulSet.spec
  have hmember : (IgnoreRule.applyAll [.claimTypeMetaAndStatus, .claimVolatile] o.toJson).member?
      "spec" = some (IgnoreRule.compared s.toJson) := by
    simp only [IgnoreRule.applyAll, List.foldl_cons, List.foldl_nil,
      IgnoreRule.apply_claimTypeMetaAndStatus, IgnoreRule.apply_claimVolatile]
    rw [Json.member?_mapMember, if_pos rfl, Json.member?_mapMember, if_pos rfl, hspec, h]
    rfl
  rw [specContent, Json.memberOrNull, hmember, Option.getD_some]

def Memory.filled (serverDefaults : Bool) (o : StatefulSet) : StatefulSet :=
  if serverDefaults then ServerDefaults.apply o else o

private theorem Memory.get?_filled_spec (serverDefaults : Bool) (o : StatefulSet) :
    (filled serverDefaults o).get? StatefulSet.spec =
      (o.get? StatefulSet.spec).map (filledSpec serverDefaults) := by
  cases serverDefaults with
  | false => exact (congrFun Option.map_id (o.get? StatefulSet.spec)).symm
  | true => exact ServerDefaults.get?_apply_spec o

private theorem synthesized_spec (s : Settings) (claims : List VolumeClaim) (c : Container) :
    ServerDefaults.Synthesized (Synthesis.spec s claims c) := by
  constructor
  · rw [Synthesis.spec, Value.get?_set_of_ne _ (by decide), Value.get?_put_of_ne _ (by decide),
      Value.get?_put_of_ne _ (by decide), Value.get?_put_of_ne _ (by decide),
      Value.get?_put_of_ne _ (by decide)]
    decide
  · rw [Synthesis.pod_spec]
    rfl

namespace Memory

/-- Under a name stands nothing, or what a cycle once wrote there. -/
def Retains (key ns name : String) (serverDefaults : Bool) (m : Memory) : Prop :=
  m.serverDefaults = serverDefaults ∧ ∀ stored, m.peek ns name = some stored →
    ∃ x w, x.get? StatefulSet.spec = some w ∧ ServerDefaults.Synthesized w ∧
      Stands key serverDefaults x stored

/-- The stored object and the desired one agree in what they specify. -/
def Faithful (ns name : String) (p : Parameters) (m : Memory) : Prop :=
  ∃ desired stored, render p = .ok desired ∧ m.peek ns name = some stored ∧
    (filled m.serverDefaults desired).specContent.same stored.specContent = true

variable {key ns name : String} {serverDefaults : Bool} {m m' : Memory}

private theorem Retains.of_kept (hm : Retains key ns name serverDefaults m) (hk : m.Kept m') :
    Retains key ns name serverDefaults m' := by
  refine ⟨hk.serverDefaults.trans hm.1, fun stored hp => hm.2 stored ?_⟩
  rwa [← hk.peek]

private theorem specContent_of_stands {x stored desired : StatefulSet}
    (hs : Stands key serverDefaults x stored)
    (hx : x.get? StatefulSet.spec = desired.get? StatefulSet.spec)
    {d : Record .statefulSetSpec} (hd : desired.get? StatefulSet.spec = some d) :
    (filled serverDefaults desired).specContent = stored.specContent := by
  have hfilled := get?_filled_spec serverDefaults desired
  have hstored := hs.spec
  rw [hx, hd] at hstored
  rw [hd] at hfilled
  rw [StatefulSet.specContent_of_spec hfilled, StatefulSet.specContent_of_spec hstored]

/-- A comparison that finds nothing to change is right. -/
private theorem specContent_of_calculate {x stored desired : StatefulSet}
    {w d : Record .statefulSetSpec} {patch : Patch} (hs : Stands key serverDefaults x stored)
    (hx : x.get? StatefulSet.spec = some w) (hw : ServerDefaults.Synthesized w)
    (hd : desired.get? StatefulSet.spec = some d) (hsynth : ServerDefaults.Synthesized d)
    (hcalc : Patch.calculate key IgnoreRule.defaults stored.subject
      (copyStoreOwned stored desired).subject = .ok patch) (hempty : patch.isEmpty = true) :
    (filled serverDefaults desired).specContent.same stored.specContent = true := by
  obtain ⟨applied, c, m, hread, hc, hm, rfl⟩ := Patch.calculate_eq_ok_iff.1 hcalc
  cases hc
  cases hm
  have hfilled := get?_filled_spec serverDefaults desired
  have hstored := hs.spec
  have hshape := Snapshot.shape_appliedBefore hs.snapshot hread
  have hdesired := (get?_copyStoreOwned_spec stored desired).trans hd
  rw [hx] at hstored
  rw [hd] at hfilled
  rw [StatefulSet.specContent_of_spec hfilled, StatefulSet.specContent_of_spec hstored]
  rw [IgnoreRule.applyAll_defaults_toJson, hx] at hshape
  rw [Patch.isEmpty, IgnoreRule.applyAll_defaults_toJson, IgnoreRule.applyAll_defaults_toJson,
    hdesired, hstored] at hempty
  have hdiff := ((Json.diff_obj_eq_none_iff (List.pairwise_singleton _ _)).1
    (Option.isNone_iff_eq_none.1 hempty)).1 "spec" _ rfl
  have hspec := Json.shape_memberOrNull_congr hshape "spec"
  have hsettled : Json.Settled (IgnoreRule.compared w.toJson) (IgnoreRule.compared d.toJson)
      (IgnoreRule.compared (filledSpec serverDefaults w).toJson)
      (IgnoreRule.compared (filledSpec serverDefaults d).toJson) := by
    cases serverDefaults with
    | false =>
      exact Json.settled_self (IgnoreRule.ordered_compared w.ordered_toJson)
        (IgnoreRule.ordered_compared d.ordered_toJson)
    | true => exact ServerDefaults.settled_spec hw hsynth
  -- alike objects may still differ in members without content
  have halike := hsettled _ hspec hdiff
  obtain ⟨ms, hms, _⟩ := ServerDefaults.exists_compared_eq_obj (filledSpec serverDefaults d)
  obtain ⟨ns, hns, _⟩ := ServerDefaults.exists_compared_eq_obj (filledSpec serverDefaults w)
  rw [hms, hns] at halike ⊢
  exact halike.same_content_of_obj

private theorem retains_of_ran {moment : Moment} {p : Parameters}
    {result : Except CycleError Outcome}
    (hm : Retains key p.ns p.name serverDefaults m)
    (h : Ran moment key IgnoreRule.defaults p m result m') :
    Retains key p.ns p.name serverDefaults m' ∧
      ∀ outcome, result = .ok outcome → Faithful p.ns p.name p m' := by
  cases result with
  | error e =>
    cases h with
    | failed kept => exact ⟨hm.of_kept kept, fun _ he => by cases he⟩
  | ok outcome =>
    obtain ⟨desired, hrender, hdefaults, -, hcases⟩ := h.stands
    obtain ⟨-, claims, c, -, -, hspec⟩ := render_eq_ok hrender
    have hsynth := synthesized_spec p.settings claims c
    have hdefaults' : m'.serverDefaults = serverDefaults := hdefaults.trans hm.1
    rcases hcases with ⟨x, stored, -, hx, hpeek, hstands⟩ |
      ⟨stored, patch, -, hold, hpeek, hcalc, hempty⟩
    · -- written just now, from the parameters of this cycle
      rw [hm.1] at hstands
      refine ⟨⟨hdefaults', fun stored' hp => ?_⟩, fun _ _ => ⟨desired, stored, hrender, hpeek, ?_⟩⟩
      · cases hpeek.symm.trans hp
        exact ⟨x, _, hx.trans hspec, hsynth, hstands⟩
      · rw [hdefaults', specContent_of_stands hstands hx hspec]
        exact Json.same_refl _
    · -- found to be right: what is stored, with its snapshot, is from an earlier cycle
      obtain ⟨x, w, hx, hw, hstands⟩ := hm.2 stored hold
      refine ⟨⟨hdefaults', fun stored' hp => ?_⟩, fun _ _ => ⟨desired, stored, hrender, hpeek, ?_⟩⟩
      · cases hpeek.symm.trans hp
        exact ⟨x, w, hx, hw, hstands⟩
      · rw [hdefaults']
        exact specContent_of_calculate hstands hx hw hspec hsynth hcalc hempty

end Memory

/-- A cycle that is attempted for one name: with any parameters for it, at any moment, and with any
failures of the store injected. -/
structure Attempt (ns name : String) where
  parameters : Parameters
  failures : PerOperation (Option String)
  moment : Moment
  ns_eq : parameters.ns = ns
  name_eq : parameters.name = name

namespace Attempt

variable {ns name : String}

def cycle (key : String) (a : Attempt ns name) (m : Memory) : Cycle Memory :=
  reconcile (Memory.asStore a.moment) (.threeWay key) IgnoreRule.defaults a.parameters
    { m with failures := a.failures }

def run (key : String) (attempts : List (Attempt ns name)) (m : Memory) : Memory :=
  attempts.foldl (fun m a => (a.cycle key m).store) m

theorem ran_cycle (key : String) (a : Attempt ns name) (m : Memory) :
    Memory.Ran a.moment key IgnoreRule.defaults a.parameters { m with failures := a.failures }
      (a.cycle key m).result (a.cycle key m).store :=
  Memory.ran_reconcile a.moment key IgnoreRule.defaults a.parameters _

private theorem retains_cycle {key : String} {serverDefaults : Bool} {m : Memory}
    (hm : Memory.Retains key ns name serverDefaults m) (a : Attempt ns name) :
    Memory.Retains key ns name serverDefaults (a.cycle key m).store ∧
      ∀ outcome, (a.cycle key m).result = .ok outcome →
        Memory.Faithful ns name a.parameters (a.cycle key m).store := by
  have hran := a.ran_cycle key m
  obtain ⟨p, failures, moment, rfl, rfl⟩ := a
  have hm' : Memory.Retains key p.ns p.name serverDefaults { m with failures := failures } :=
    hm
  exact Memory.retains_of_ran hm' hran

private theorem retains_run {key : String} {serverDefaults : Bool} {m : Memory}
    (hm : Memory.Retains key ns name serverDefaults m)
    (attempts : List (Attempt ns name)) :
    Memory.Retains key ns name serverDefaults (run key attempts m) := by
  induction attempts generalizing m with
  | nil => exact hm
  | cons a attempts ih => exact ih (retains_cycle hm a).1

end Attempt

/-- Whatever was attempted before for a name that the store did not hold: after a cycle that
succeeds the stored specification is in content what its parameters ask for, with the defaults of
the server where the store fills them in. -/
theorem specContent_after_success (key : String) {ns name : String} (m : Memory)
    (hfresh : m.peek ns name = none) (attempts : List (Attempt ns name))
    (last : Attempt ns name) {outcome : Outcome}
    (hok : (last.cycle key (Attempt.run key attempts m)).result = .ok outcome) :
    ∃ desired stored, render last.parameters = .ok desired ∧
      (last.cycle key (Attempt.run key attempts m)).store.peek ns name =
        some stored ∧
      (if m.serverDefaults then ServerDefaults.apply desired else desired).specContent.same
        stored.specContent = true := by
  have hstart : Memory.Retains key ns name m.serverDefaults m :=
    ⟨rfl, fun stored hp => by rw [hfresh] at hp; cases hp⟩
  obtain ⟨hretains, hfaithful⟩ := Attempt.retains_cycle (Attempt.retains_run hstart attempts) last
  obtain ⟨desired, stored, hrender, hpeek, hsame⟩ := hfaithful outcome hok
  rw [hretains.1] at hsame
  exact ⟨desired, stored, hrender, hpeek, hsame⟩

def failedAttempts : List (Attempt "prod" "db") :=
  [⟨databaseParameters, ⟨none, some "down", none⟩, ⟨⟨0, 0⟩, "u1"⟩, databaseParameters_ns,
      databaseParameters_name⟩,
    ⟨{ databaseParameters with
        storage := { databaseParameters.storage with size := some "lots" } },
      .of none, ⟨⟨1, 0⟩, "u2"⟩, rfl, by decide⟩]

def grownAttempt : Attempt "prod" "db" :=
  ⟨grownParameters, .of none, ⟨⟨2, 0⟩, "u3"⟩, rfl, by decide⟩

theorem specContent_after_failed_attempts :
    (Memory.empty true).peek "prod" "db" = none ∧
      (grownAttempt.cycle "applied" (Attempt.run "applied" failedAttempts
        (Memory.empty true))).result = .ok .created ∧
      ∃ desired stored, render grownAttempt.parameters = .ok desired ∧
        (grownAttempt.cycle "applied" (Attempt.run "applied" failedAttempts
          (Memory.empty true))).store.peek "prod" "db" = some stored ∧
        (ServerDefaults.apply desired).specContent.same stored.specContent = true := by
  have hok : (grownAttempt.cycle "applied" (Attempt.run "applied" failedAttempts
      (Memory.empty true))).result = .ok .created := by
    decide
  exact ⟨rfl, hok, specContent_after_success "applied" (Memory.empty true) rfl failedAttempts
    grownAttempt hok⟩

end DesiredState
