import CompositeApps.Proofs.Cluster.Ownership
import CompositeApps.Proofs.Reconcile.Calls

/-!
What the gate of a pass guards, whatever the store and the hook do. The objects of targets are
touched only for a live and valid app that carries the finalizer. The finalizer comes off only after
the hook has run, and with it comes off nothing else. A gate that does not open leaves the cluster
as it was.
-/

namespace CompositeApps

namespace Cluster

variable {c after : Cluster} {key : ObjectKey}

def Holds (c : Cluster) (key : ObjectKey) : Prop :=
  ∃ app, c.get? key = some (.app app) ∧ finalizer ∈ app.metadata.finalizerList

theorem Holds.of_eq (h : c.Holds key) (hsame : after.get? key = c.get? key) : after.Holds key := by
  obtain ⟨app, hstored, hheld⟩ := h
  exact ⟨app, hsame.trans hstored, hheld⟩

theorem Holds.put (h : c.Holds key) {r : Resource}
    (hr : r.key = key → ∃ app, r = .app app ∧ finalizer ∈ app.metadata.finalizerList) :
    (c.put r).Holds key := by
  by_cases hkey : r.key = key
  · obtain ⟨app, rfl, hheld⟩ := hr hkey
    exact ⟨app, by rw [get?_put, if_pos hkey], hheld⟩
  · exact h.of_eq (get?_put_of_ne (Ne.symm hkey))

/-- An app that is held is taken away only with an object that it goes with. -/
theorem Holds.remove (h : c.Holds key) (other : ObjectKey) :
    Holds { c with objects := c.objects.remove other } key ∨
      get? { c with objects := c.objects.remove other } key = none ∧ c.GoesWith key other := by
  by_cases hgoes : c.GoesWith key other
  · cases hafter : get? { c with objects := c.objects.remove other } key with
    | none => exact Or.inr ⟨rfl, hgoes⟩
    | some r =>
      refine Or.inl (h.of_eq (hafter.trans ?_))
      exact (Objects.getElem?_of_remove hafter).symm
  · exact Or.inl (h.of_eq (get?_remove_of_not_goesWith hgoes))

theorem finalizerList_replacement (stored incoming : Resource) (version : Nat) :
    (replacement stored incoming version).metadata.finalizerList =
      incoming.metadata.finalizerList := by
  rw [metadata_replacement]
  rfl

/-- A status write leaves the finalizers of an app as they are. -/
theorem exists_reported (app : CompositeApp) (incoming : Resource) (version : Nat) :
    ∃ a, stamped version ((Resource.app app).withStatusOf incoming) = .app a ∧
      a.metadata.finalizerList = app.metadata.finalizerList := by
  cases incoming with
  | app source => exact ⟨_, rfl, rfl⟩
  | child source => exact ⟨_, rfl, rfl⟩

end Cluster

namespace CompositeApp

variable {app : CompositeApp} {past : List Exchange} {c after : Cluster} {call : Call}
  {reply : Option Resource} {key : ObjectKey}

/-- A call by which a pass takes the finalizer off its app: the app is being deleted, and before
the call the hook has run for it, and nothing else has been done. -/
structure Releases (app : CompositeApp) (past : List Exchange) (call : Call) : Prop where
  going : app.metadata.isTerminating = true
  hooked : past = [.hooked app (.ok ())]
  call : call = .replace (.app app.withoutFinalizer)

/-- What is written about an app that is not on its way out leaves it to the finalizer. -/
theorem Licensed.holds_of_replace {r stored : Resource} (h : app.Licensed past (.replace r))
    (hstate : FinalizerState.of app ≠ .finalizing) (hkeyed : c.Keyed) (hheld : c.Holds key)
    (version : Nat) : (c.put (Cluster.replacement stored r version)).Holds key := by
  refine hheld.put ?_
  intro hkey
  rw [Cluster.key_replacement] at hkey
  cases h with
  | update kind target seen object _ hobject =>
    obtain ⟨a, ha, -⟩ := hheld
    exact absurd (hobject.symm.trans hkey) (targetKey_ne_of_keyed hkeyed ha kind target)
  | register =>
    obtain ⟨copy, hcopy, -⟩ := app.withFinalizer.exists_replacement stored version
    have hlist := Cluster.finalizerList_replacement stored (.app app.withFinalizer) version
    rw [hcopy] at hlist
    refine ⟨copy, hcopy, ?_⟩
    change finalizer ∈ (Resource.app copy).metadata.finalizerList
    rw [hlist]
    exact List.mem_append_right _ (List.mem_singleton.2 rfl)
  | release hgoing => exact absurd hgoing hstate

/-- A call about an app that is not on its way out leaves what the finalizer holds, but for what
goes with an object that is deleted. -/
theorem Licensed.holds (h : app.Licensed past call)
    (hstate : FinalizerState.of app ≠ .finalizing) (hc : c.Current past)
    (heffect : c.Effect call reply after) (hheld : c.Holds key) :
    after.Holds key ∨
      after.get? key = none ∧ ∃ gone, call = .delete gone ∧ c.GoesWith key gone := by
  cases heffect with
  | found | missed => exact Or.inl hheld
  | created r hfree =>
    refine Or.inl (hheld.put fun hkey => ?_)
    obtain ⟨a, ha, -⟩ := hheld
    rw [Cluster.key_newborn] at hkey
    rw [hkey, ha] at hfree
    exact absurd hfree (by simp)
  | replaced r stored => exact Or.inl (h.holds_of_replace hstate hc.keyed hheld _)
  | released r stored hstored _ hreleased =>
    rw [h.isReleased_eq_false hstate hc hstored] at hreleased
    exact absurd hreleased (by simp)
  | reported r stored hstored =>
    refine Or.inl (hheld.put fun hkey => ?_)
    obtain ⟨a, ha, hin⟩ := hheld
    rw [Cluster.key_stamped, Cluster.key_withStatusOf, hc.keyed _ _ hstored] at hkey
    rw [hkey, ha] at hstored
    obtain rfl := Option.some.inj hstored
    obtain ⟨later, hlater, hlist⟩ := Cluster.exists_reported a r (c.version + 1)
    exact ⟨later, hlater, by rwa [hlist]⟩
  | doomed other stored hstored =>
    cases h with
    | delete kind target =>
      refine Or.inl (hheld.put fun hkey => ?_)
      obtain ⟨a, ha, -⟩ := hheld
      rw [Cluster.key_doomed, hc.keyed _ _ hstored] at hkey
      exact absurd hkey (targetKey_ne_of_keyed hc.keyed ha kind target)
  | removed other =>
    rcases hheld.remove other with hstill | ⟨hgone, hgoes⟩
    · exact Or.inl hstill
    · exact Or.inr ⟨hgone, other, rfl, hgoes⟩

end CompositeApp

/-- What holds of each call of a pass over an app. -/
structure Attempt.Gated (app : CompositeApp) (m : Attempt) : Prop where
  /-- What the finalizer holds it still holds after the call, unless the call takes it off, or the
  object goes with another one that is deleted. -/
  held : ∀ key, m.before.Holds key → m.after.Holds key ∨ app.Releases m.past m.call ∨
    m.after.get? key = none ∧ ∃ gone, m.call = .delete gone ∧ m.before.GoesWith key gone
  /-- A write of the app keeps the finalizers of others as they are in the copy that was read, and
  ours is at most once among them. -/
  others : ∀ written, m.call = .replace (.app written) →
    written.metadata.finalizerList.filter (· ≠ finalizer) =
      app.metadata.finalizerList.filter (· ≠ finalizer) ∧
    written.metadata.finalizerList.count finalizer ≤ 1
  /-- A write of the app does nothing, or stores it with these finalizers, or lets it go. -/
  stored : ∀ written, m.call = .replace (.app written) → m.after = m.before ∨
    ∀ r, m.after.get? app.storeKey = some r →
      r.metadata.finalizerList = written.metadata.finalizerList

namespace CompositeApp

variable {app : CompositeApp} {past : List Exchange} {c after : Cluster}

theorem others_withFinalizer (h : finalizer ∉ app.metadata.finalizerList) :
    app.withFinalizer.metadata.finalizerList.filter (· ≠ finalizer) =
      app.metadata.finalizerList.filter (· ≠ finalizer) ∧
    app.withFinalizer.metadata.finalizerList.count finalizer ≤ 1 := by
  have hlist : app.withFinalizer.metadata.finalizerList =
      app.metadata.finalizerList ++ [finalizer] := rfl
  rw [hlist, List.filter_append, List.count_append, List.count_eq_zero_of_not_mem h]
  constructor
  · simp
  · simp

theorem others_withoutFinalizer (app : CompositeApp) :
    app.withoutFinalizer.metadata.finalizerList.filter (· ≠ finalizer) =
      app.metadata.finalizerList.filter (· ≠ finalizer) ∧
    app.withoutFinalizer.metadata.finalizerList.count finalizer ≤ 1 := by
  have hlist : app.withoutFinalizer.metadata.finalizerList =
      app.metadata.finalizerList.filter (· ≠ finalizer) := rfl
  rw [hlist]
  constructor
  · simp
  · rw [List.count_eq_zero_of_not_mem (by simp)]
    exact Nat.zero_le 1

theorem Gates.others {written : CompositeApp} (h : app.Gates past (.replace (.app written))) :
    written.metadata.finalizerList.filter (· ≠ finalizer) =
      app.metadata.finalizerList.filter (· ≠ finalizer) ∧
    written.metadata.finalizerList.count finalizer ≤ 1 := by
  cases h with
  | register hstate =>
    exact others_withFinalizer (FinalizerState.of_eq_unregistered.1 hstate).1
  | release => exact app.others_withoutFinalizer

/-- Each call of a pass is as the gate has it. -/
theorem Undertakes.gated {m : Attempt} (h : app.Undertakes m.past m.call)
    (hc : m.before.Current m.past)
    (hanswer : ∃ reply, m.before.Answers m.call reply m.after) : m.Gated app := by
  obtain ⟨past, call, before, after⟩ := m
  obtain ⟨reply, hanswer⟩ := hanswer
  dsimp only at h hc hanswer
  refine ⟨fun key hheld => ?_, fun written hcall => ?_, fun written hcall => ?_⟩
  · cases hanswer with
    | failed => exact Or.inl hheld
    | done heffect =>
      by_cases hstate : FinalizerState.of app = .finalizing
      · cases h with
        | work copy _ hcopy _ => exact absurd hstate hcopy.not_finalizing
        | gate hgate =>
          cases hgate with
          | register hother => exact absurd (hother.symm.trans hstate) (by simp)
          | release _ hhook =>
            exact Or.inr (Or.inl ⟨(FinalizerState.of_eq_finalizing.1 hstate).2, hhook, rfl⟩)
      · exact (h.licensed.holds hstate hc heffect hheld).imp_right Or.inr
  · dsimp only at hcall
    subst hcall
    exact h.gates.others
  · dsimp only at hcall
    subst hcall
    have hkey : (Resource.app written).key = app.storeKey := h.gates.key_eq
    cases hanswer with
    | failed => exact Or.inl rfl
    | done heffect =>
      refine Or.inr fun r hr => ?_
      dsimp only at hr
      rw [← hkey] at hr
      cases heffect with
      | replaced _ stored =>
        have hnew := Cluster.key_replacement stored (.app written) (before.version + 1)
        rw [Cluster.get?_put, if_pos hnew] at hr
        obtain rfl := Option.some.inj hr
        exact Cluster.finalizerList_replacement stored (.app written) _
      | released _ stored =>
        rw [Cluster.get?, Objects.getElem?_remove_self] at hr
        exact absurd hr (by simp)

end CompositeApp

namespace Pass

section Shut

variable {σ : Type} {h : Handler σ} {cluster : σ → Cluster} {app : CompositeApp} {s : σ}

/-- An app is stored, or the attempt to store it leaves the cluster as it was, or what has been
stored cannot be read. -/
theorem run_persist (hserves : h.Serves cluster) (written : CompositeApp) (s : σ) :
    (∃ copy after, (persist written).run h s = (.ok (.ok (some copy)), after)) ∨
      cluster ((persist written).run h s).2 = cluster s ∨
      written.spec.isFinite = false ∧ ∃ message after,
        (persist written).run h s = (.ok (.error (.store (.malformed message))), after) := by
  rcases hserves.call (.replace (.app written)) s with
    ⟨reply, after, hcall, hreply⟩ | ⟨cause, after, hcall, hsame⟩
  · cases reply with
    | ok reply =>
      left
      refine ⟨(reply.bind (·.app?)).getD written, after, ?_⟩
      simp only [persist, run_bind, perform, run, hcall]
      rfl
    | error e =>
      right
      rcases hreply.eq_or_unread with hsame | ⟨stored, message, heffect, hunread, rfl⟩
      · left
        rw [← hsame]
        simp only [persist, run_bind, perform, run, hcall]
        cases e <;> rfl
      · right
        refine ⟨?_, message, after, ?_⟩
        · generalize cluster after = later at heffect
          cases heffect with
          | replaced _ old | released _ old =>
            exact (Cluster.isFinite_replacement old (.app written) _).symm.trans hunread
        · simp only [persist, run_bind, perform, run, hcall]
          rfl
  · right
    left
    simp only [persist, run_bind, perform, run, hcall]
    exact hsame

/-- A gate that neither opens nor lets the app go leaves the cluster as it was, unless the app has a
number that is not finite, and cannot be read once it is stored. -/
theorem run_gate_of_shut (hserves : h.Serves cluster)
    (hshut : ∀ passed, ((gate app).run h s).1 = .ok (.ok passed) → passed = .retry) :
    cluster ((gate app).run h s).2 = cluster s ∨
      app.spec.isFinite = false ∧ ∃ message,
        ((gate app).run h s).1 = .ok (.error (.store (.malformed message))) := by
  unfold gate at hshut ⊢
  split at hshut
  · simp only [register, run_map] at hshut ⊢
    rcases run_persist hserves app.withFinalizer s with
      ⟨copy, after, hrun⟩ | hsame | ⟨hunread, message, after, hrun⟩
    · rw [hrun] at hshut
      exact absurd (hshut _ rfl) (by simp)
    · exact Or.inl hsame
    · rw [hrun]
      exact Or.inr ⟨hunread, message, rfl⟩
  · exact Or.inl rfl
  · have hhook := hserves.preDelete app s
    simp only [release, runHook, run_bind, run] at hshut ⊢
    rcases hrun : h.preDelete app s with ⟨_ | ⟨reason | _⟩, after⟩
    · rw [hrun] at hhook
      exact Or.inl hhook
    · rw [hrun] at hhook
      exact Or.inl hhook
    · rw [hrun] at hhook hshut
      simp only [run_map] at hshut hhook ⊢
      rcases run_persist hserves app.withoutFinalizer after with
        ⟨copy, last, hrun⟩ | hsame | ⟨hunread, message, last, hrun⟩
      · rw [hrun] at hshut
        exact absurd (hshut _ rfl) (by simp)
      · exact Or.inl (hsame.trans hhook)
      · rw [hrun]
        exact Or.inr ⟨hunread, message, rfl⟩
  · exact Or.inl rfl

/-- A pass behind a gate that does not open ends with what the gate has done. -/
theorem run_reconcile_of_shut
    (hshut : ∀ passed, ((gate app).run h s).1 = .ok (.ok passed) → passed = .retry) :
    ((reconcile app).run h s).2 = ((gate app).run h s).2 := by
  unfold reconcile
  rw [run_bind]
  rcases hrun : (gate app).run h s with ⟨_ | ⟨e | passed⟩, after⟩
  · rfl
  · rfl
  · rw [hrun] at hshut
    obtain rfl := hshut passed rfl
    rfl

/-- If the hook fails, the pass ends without a call. -/
theorem attempts_of_hook_failed (hstate : FinalizerState.of app = .finalizing)
    (hhook : (h.preDelete app s).1 ≠ .ok (.ok ())) (past : List Exchange) :
    (reconcile app).attempts h cluster past s = [] := by
  unfold reconcile gate
  rw [hstate]
  change ((release app).bind _).attempts h cluster past s = []
  change (Pass.preDelete app _).attempts h cluster past s = []
  unfold attempts
  rcases hrun : h.preDelete app s with ⟨_ | ⟨reason | _⟩, after⟩
  · rfl
  · rfl
  · rw [hrun] at hhook
    exact absurd rfl hhook

end Shut

/-- A call about the object of a target is made only once the gate has opened, and for a valid
app. -/
theorem proceed_of_child {σ : Type} {h : Handler σ} {cluster : σ → Cluster} {app : CompositeApp}
    {s : σ} (hserves : h.Serves cluster) {m : Attempt}
    (hm : m ∈ (reconcile app).attempts h cluster [] s) {kind : ChildKind}
    (hkind : m.call.key.kind = .child kind) :
    ∃ copy after, (gate app).run h s = (.ok (.ok (.proceed copy)), after) ∧
      app.LetThrough copy m.past ∧ copy.validate = .ok () := by
  unfold reconcile at hm
  rcases (gate_obeys app).mem_attempts_bind hserves hm with
    hgate | ⟨result, later, after, hrun, hproceed, hwork⟩
  · obtain ⟨hgates, -, -⟩ := (gate_obeys app).attempts (I := fun _ _ => True) hserves
      (fun _ _ _ _ _ _ _ _ => trivial) (fun _ _ _ _ _ => trivial) trivial hgate
    rw [hgates.key_eq] at hkind
    exact absurd hkind (by simp [CompositeApp.storeKey, Resource.key, Resource.kind])
  · rcases result with e | copy | _ | _ | _
    · exact absurd hwork (by simp [attempts, pure])
    · have hcopy := hproceed copy rfl
      have hobeys : (work copy).Obeys Call.Admits
          (fun past call => app.LetThrough copy past ∧ copy.Works past call) later
          fun _ _ => True :=
        (work_obeys copy later).imp fun last call hlater hworks => ⟨hcopy.later hlater, hworks⟩
      obtain ⟨⟨hlet, hworks⟩, -, -⟩ := hobeys.attempts (I := fun _ _ => True) hserves
        (fun _ _ _ _ _ _ _ _ => trivial) (fun _ _ _ _ _ => trivial) trivial hwork
      refine ⟨copy, after, hrun, hlet, ?_⟩
      generalize m.call = call at hworks hkind
      cases hworks with
      | lookup hvalid | write hvalid => exact hvalid
      | report status => exact absurd hkind (by simp [Call.key, Resource.key, Resource.kind])
    · exact absurd hwork (by simp [attempts, pure])
    · exact absurd hwork (by simp [attempts, pure])
    · exact absurd hwork (by simp [attempts, pure])

end Pass

namespace Example

def kiosk : CompositeApp :=
  { metadata := {
      name := some "kiosk", namespaceName := some "default", uid := some "kiosk-uid"
      finalizers := some ["audit", finalizer] }
    spec := {} }

def departing : CompositeApp :=
  { kiosk with metadata := { kiosk.metadata with deletionTimestamp := some Cluster.deletionTime } }

def stuck : World :=
  { store := { cluster := (({} : Cluster).seed (.app departing)).2 }
    hookFailure := some "no backup" }

theorem stuck_keyed : stuck.store.cluster.Keyed :=
  Cluster.Keyed.empty.put _

def inquiry : Attempt :=
  ⟨[], .get ⟨.child .service, "default", "kiosk"⟩, stuck.store.cluster, stuck.store.cluster⟩

theorem inquiry_mem :
    inquiry ∈ (Pass.reconcile kiosk).attempts World.handler (·.store.cluster) [] stuck := by
  refine List.mem_of_mem_head? ?_
  rfl

end Example

end CompositeApps
