import DesiredState.Proofs.Cycle.Session
import DesiredState.Store.Remote
/-!
Objects of different names on one store. Main statement: `isolation`, that what happens for one name
is not seen under another one exactly where the two have different keys, and that neither keys nor
addresses coincide as long as no slash stands in the namespaces, or none in the names.
-/

set_option autoImplicit false
set_option relaxedAutoImplicit false

namespace DesiredState

/-- The text can be told from what follows a slash after it. -/
def Slashless (s : String) : Prop := '/' ∉ s.toList

section Joined

variable {a a' b b' : String}

private theorem append_cons_inj {xs xs' ys ys' : List Char} (h : '/' ∉ xs) (h' : '/' ∉ xs')
    (he : xs ++ '/' :: ys = xs' ++ '/' :: ys') : xs = xs' ∧ ys = ys' := by
  induction xs generalizing xs' with
  | nil =>
    cases xs' with
    | nil => exact ⟨rfl, (List.cons.inj he).2⟩
    | cons c cs =>
      have hc : '/' = c := (List.cons.inj he).1
      exact absurd (List.mem_cons_self) (hc ▸ h')
  | cons c cs ih =>
    cases xs' with
    | nil =>
      have hc : c = '/' := (List.cons.inj he).1
      exact absurd (List.mem_cons_self) (hc ▸ h)
    | cons d ds =>
      obtain ⟨hcd, hrest⟩ := List.cons.inj he
      obtain ⟨hcs, hys⟩ := ih (fun hm => h (List.mem_cons_of_mem _ hm))
        (fun hm => h' (List.mem_cons_of_mem _ hm)) hrest
      exact ⟨congrArg₂ List.cons hcd hcs, hys⟩

private theorem joined_inj_of_left (h : Slashless a) (h' : Slashless a')
    (he : a ++ "/" ++ b = a' ++ "/" ++ b') : a = a' ∧ b = b' := by
  have hlist := congrArg String.toList he
  simp only [String.toList_append, List.append_assoc] at hlist
  obtain ⟨ha, hb⟩ := append_cons_inj h h' hlist
  exact ⟨String.toList_inj.1 ha, String.toList_inj.1 hb⟩

private theorem joined_inj_of_right (h : Slashless b) (h' : Slashless b')
    (he : a ++ "/" ++ b = a' ++ "/" ++ b') : a = a' ∧ b = b' := by
  have hlist := congrArg (fun s : String => s.toList.reverse) he
  simp only [String.toList_append, List.reverse_append] at hlist
  obtain ⟨hb, ha⟩ := append_cons_inj (fun hm => h (List.mem_reverse.1 hm))
    (fun hm => h' (List.mem_reverse.1 hm)) hlist
  exact ⟨String.toList_inj.1 (List.reverse_inj.1 ha), String.toList_inj.1 (List.reverse_inj.1 hb)⟩

end Joined

private theorem objectUrl_statefulSet_inj {server : Server} {ns name ns' name' : String} :
    server.objectUrl (.statefulSet ns name) = server.objectUrl (.statefulSet ns' name') ↔
      ns ++ "/statefulsets/" ++ name = ns' ++ "/statefulsets/" ++ name' := by
  have hurl : ∀ ns name : String, server.objectUrl (.statefulSet ns name) =
      server.base ++ "/apis/apps/v1/namespaces/" ++ (ns ++ "/statefulsets/" ++ name) := by
    intro ns name
    have hprefix : "/" ++ ResourceKind.statefulSet.apiPath ++ "/namespaces/" =
        "/apis/apps/v1/namespaces/" := by
      decide
    have hresource : "/" ++ ResourceKind.statefulSet.resourceName ++ "/" = "/statefulsets/" := by
      decide
    rw [← hprefix, ← hresource]
    simp only [Server.objectUrl, ResourceKey.path, ResourceKey.collectionPath,
      ResourceKey.statefulSet, String.append_assoc]
  rw [hurl, hurl, String.append_right_inj]

section Slashless

variable {ns name ns' name' : String} (hne : (ns, name) ≠ (ns', name'))
  (hslashless : Slashless ns ∧ Slashless ns' ∨ Slashless name ∧ Slashless name')

include hne hslashless

private theorem key_ne_of_slashless : Memory.key ns name ≠ Memory.key ns' name' := by
  intro he
  rcases hslashless with ⟨h, h'⟩ | ⟨h, h'⟩
  · obtain ⟨rfl, rfl⟩ := joined_inj_of_left h h' he
    exact hne rfl
  · obtain ⟨rfl, rfl⟩ := joined_inj_of_right h h' he
    exact hne rfl

private theorem objectUrl_ne_of_slashless (server : Server) :
    server.objectUrl (.statefulSet ns name) ≠ server.objectUrl (.statefulSet ns' name') := by
  intro he
  have hjoined := objectUrl_statefulSet_inj.1 he
  rcases hslashless with ⟨h, h'⟩ | ⟨h, h'⟩
  · -- the first slash ends the namespace
    have hsplit : ∀ ns name : String, ns ++ "/statefulsets/" ++ name =
        ns ++ "/" ++ ("statefulsets/" ++ name) := by
      intro ns name
      have hslash : "/statefulsets/" = "/" ++ "statefulsets/" := rfl
      simp only [hslash, String.append_assoc]
    rw [hsplit, hsplit] at hjoined
    obtain ⟨rfl, hname⟩ := joined_inj_of_left h h' hjoined
    exact hne (congrArg _ ((String.append_right_inj _).1 hname))
  · -- the last slash precedes the name
    have hslash : "/statefulsets/" = "/statefulsets" ++ "/" := rfl
    rw [hslash, ← String.append_assoc, ← String.append_assoc] at hjoined
    obtain ⟨hns, rfl⟩ := joined_inj_of_right h h' hjoined
    exact hne (congrArg (·, name) ((String.append_left_inj _).1 hns))

end Slashless

def Step.identity? : Step → Option (String × String)
  | .request (.get ns name) => some (ns, name)
  | .request (.create _ ns o) => some (ns, o.objectName)
  | .request (.update _ ns o) => some (ns, o.objectName)
  | .request (.failOn _ _) => none
  | .request .clearFailures => none
  | .insert ns o => some (ns, o.objectName)
  | .reconcile _ _ p => some (p.ns, p.name)

namespace Memory

/-- Of what is stored, only the object of a key may have changed. -/
structure Touched (k : String) (m m' : Memory) : Prop where
  others : ∀ k' ≠ k, m'.objects.get? k' = m.objects.get? k'
  failures : m'.failures = m.failures

variable {k : String} {m m' m'' : Memory} {new : StatefulSet}

private theorem Touched.refl (k : String) (m : Memory) : Touched k m m := ⟨fun _ _ => rfl, rfl⟩

private theorem Touched.trans (h : Touched k m m') (h' : Touched k m' m'') : Touched k m m'' :=
  ⟨fun k' hk => (h'.others k' hk).trans (h.others k' hk), h'.failures.trans h.failures⟩

private theorem Kept.touched (k : String) (h : m.Kept m') : Touched k m m' := by
  refine ⟨fun k' _ => ?_, h.failures⟩
  rw [h.objects]

private theorem Written.touched (h : m.Written k new m') : Touched k m m' := by
  refine ⟨fun k' hk => ?_, h.failures⟩
  rw [h.objects, Members.get?_insert_of_ne hk]

private theorem touched_insert (ns : String) (o : StatefulSet) (m : Memory) :
    Touched (key ns o.objectName) m (m.insert ns o) :=
  ⟨fun _ hk => Members.get?_insert_of_ne hk _ _, rfl⟩

private theorem Ran.touched {moment : Moment} {annotationKey : String} {rules : List IgnoreRule}
    {p : Parameters} {result : Except CycleError Outcome}
    (h : Ran moment annotationKey rules p m result m') : Touched (key p.ns p.name) m m' := by
  cases h with
  | failed kept => exact kept.touched _
  | created rendered missing recorded written => exact written.touched
  | unchanged rendered found calculated empty kept => exact kept.touched _
  | updated rendered found calculated changed recorded written => exact written.touched

private theorem Touched.peek {ns name : String} (h : Touched k m m') (hk : key ns name ≠ k) :
    m'.peek ns name = m.peek ns name := h.others _ hk

private theorem Touched.get_result {ns name : String} (h : Touched k m m') (hk : key ns name ≠ k) :
    (Memory.get ns name m').result = (Memory.get ns name m).result := by
  rw [Memory.get_result, Memory.get_result, h.failures, h.peek hk]

end Memory

private theorem Step.touched_perform {s : Step} {ns name : String}
    (hs : s.identity? = some (ns, name)) (m : Memory) :
    Memory.Touched (Memory.key ns name) m (s.perform m).2 := by
  cases s with
  | request r =>
    cases r with
    | get ns' name' => exact (Memory.kept_get ns' name' m).touched _
    | create moment ns' o =>
      cases hs
      rcases Memory.create_cases moment ns o m with ⟨-, hkept⟩ | ⟨-, -, hwritten⟩
      · exact hkept.touched _
      · exact hwritten.touched
    | update moment ns' o =>
      cases hs
      rcases Memory.update_cases moment ns o m with ⟨-, hkept⟩ | ⟨_, -, -, -, hwritten⟩
      · exact hkept.touched _
      · exact hwritten.touched
    | failOn | clearFailures => cases hs
  | insert ns' o =>
    cases hs
    exact Memory.touched_insert ns o m
  | reconcile moment config p =>
    cases hs
    exact (Memory.ran_reconcile moment config.annotationKey config.ignoreRules p m).touched

private theorem Step.touched_run {steps : List Step} {ns name : String}
    (hs : ∀ s ∈ steps, s.identity? = some (ns, name)) (m : Memory) :
    Memory.Touched (Memory.key ns name) m (Step.run steps m) := by
  induction steps generalizing m with
  | nil => exact .refl _ m
  | cons s rest ih =>
    have hstep := s.touched_perform (hs s List.mem_cons_self) m
    have hrest := ih (fun s' hm => hs s' (List.mem_cons_of_mem _ hm)) (s.perform m).2
    exact hstep.trans hrest

def bareObject (name : String) : StatefulSet :=
  (Record.blank .statefulSet).put StatefulSet.metadata
    ((Record.blank .objectMeta).put ObjectMeta.name (.ofText name))

private theorem objectName_bareObject (name : String) : (bareObject name).objectName = name := by
  rw [bareObject, StatefulSet.objectName, Value.get_put_self, ObjectMeta.text?,
    Value.get?_put_self]
  rfl

/-- Nothing that happens for the first name is seen under the second one. -/
def Isolated (ns name ns' name' : String) : Prop :=
  ∀ (steps : List Step) (m : Memory), (∀ s ∈ steps, s.identity? = some (ns, name)) →
    (Step.run steps m).peek ns' name' = m.peek ns' name' ∧
      (Memory.get ns' name' (Step.run steps m)).result = (Memory.get ns' name' m).result

private theorem isolated_iff {ns name ns' name' : String} :
    Isolated ns name ns' name' ↔ Memory.key ns name ≠ Memory.key ns' name' := by
  constructor
  · intro hisolated hkey
    have hplaced := (hisolated [.insert ns (bareObject name)] (Memory.empty false) (by
      intro s hs
      rw [List.mem_singleton.1 hs, Step.identity?, objectName_bareObject])).1
    have hseen : (Step.run [.insert ns (bareObject name)] (Memory.empty false)).peek ns' name' =
        some (bareObject name) := by
      rw [Memory.peek, ← hkey]
      have hself := Members.get?_insert_self (Memory.key ns (bareObject name).objectName)
        (bareObject name) (Memory.empty false).objects
      rw [objectName_bareObject] at hself
      exact hself
    cases show none = some (bareObject name) from hplaced.symm.trans hseen
  · intro hkey steps m hs
    have htouched := Step.touched_run hs m
    exact ⟨htouched.peek hkey.symm, htouched.get_result hkey.symm⟩

/-- Two names are isolated from each other in every store exactly where their keys differ, and have
different addresses on every server exactly where what is put together of them differs. Both is so
for any two names, as long as both namespaces or both names hold no slash. -/
theorem isolation (ns name ns' name' : String) :
    (Isolated ns name ns' name' ↔ ns ++ "/" ++ name ≠ ns' ++ "/" ++ name') ∧
      (∀ server : Server,
        server.objectUrl (.statefulSet ns name) ≠ server.objectUrl (.statefulSet ns' name') ↔
          ns ++ "/statefulsets/" ++ name ≠ ns' ++ "/statefulsets/" ++ name') ∧
      ((ns, name) ≠ (ns', name') →
        Slashless ns ∧ Slashless ns' ∨ Slashless name ∧ Slashless name' →
        Isolated ns name ns' name' ∧ ∀ server : Server,
          server.objectUrl (.statefulSet ns name) ≠ server.objectUrl (.statefulSet ns' name')) := by
  refine ⟨isolated_iff, fun server => not_congr objectUrl_statefulSet_inj, ?_⟩
  intro hne hslashless
  exact ⟨isolated_iff.2 (key_ne_of_slashless hne hslashless),
    objectUrl_ne_of_slashless hne hslashless⟩

theorem isolation_of_namespaces :
    Isolated "prod" "db/0" "test" "db/0" ∧ ∀ server : Server,
      server.objectUrl (.statefulSet "prod" "db/0") ≠
        server.objectUrl (.statefulSet "test" "db/0") :=
  (isolation "prod" "db/0" "test" "db/0").2.2 (by decide) (.inl (by
    constructor <;> (rw [Slashless]; decide)))

/-- A cycle for `db` in the namespace `prod/eu` creates what is then found as `eu/db` in `prod`; and
addresses coincide where a slash and the name of the resource stand in the names. -/
theorem aliased_by_slash :
    let c := reconcile (Memory.asStore ⟨⟨0, 0⟩, "u"⟩) Config.default.engine
      Config.default.ignoreRules { databaseParameters with ns := "prod/eu" } (Memory.empty true)
    c.result = .ok .created ∧ (Memory.empty true).peek "prod" "eu/db" = none ∧
      (c.store.peek "prod" "eu/db").map StatefulSet.objectName = some "db" ∧
      ∀ server : Server, server.objectUrl (.statefulSet "a/statefulsets/b" "c") =
        server.objectUrl (.statefulSet "a" "b/statefulsets/c") := by
  intro c
  refine ⟨by decide, rfl, by decide, fun server => ?_⟩
  rw [objectUrl_statefulSet_inj]
  rfl

end DesiredState
