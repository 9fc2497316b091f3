import CompositeApps.Proofs.App.Labels
import CompositeApps.Proofs.Reconcile.Isolation
import CompositeApps.Proofs.Reconcile.Survey

/-!
The status that a pass leaves tells what is stored when the pass ends, although it is gathered
before most of the work is done: what comes after does not touch the deployments. Faults may keep
other calls from working, and even from coming back, as long as the status gets written.
-/

namespace CompositeApps

def Fault.tamed : Fault → Fault
  | .status code => .status code
  | .abort => .status 500

def FaultyCluster.tamed (store : FaultyCluster) : FaultyCluster :=
  { store with rules := store.rules.map fun r => { r with fault := r.fault.tamed } }

def World.tamed (w : World) : World :=
  { w with store := w.store.tamed }

namespace FaultyCluster

variable {store after : FaultyCluster}

theorem tamed_answering (store : FaultyCluster) : store.tamed.Answering := by
  intro rule hrule
  obtain ⟨r, -, rfl⟩ := List.mem_map.1 hrule
  cases r.fault <;> exact Fault.noConfusion

theorem faultOf?_tamed (store : FaultyCluster) (verb : Verb) (kind : Kind) :
    store.tamed.faultOf? verb kind = (store.faultOf? verb kind).map Fault.tamed := by
  simp only [faultOf?, tamed, List.find?_map, Option.map_map, Function.comp_def]

/-- A call that comes back does so just as well where all do. -/
theorem perform_tamed {c : Call} {reply : Reply} (h : store.perform c = (.ok reply, after)) :
    store.tamed.perform c = (.ok reply, after.tamed) := by
  have hfault := store.faultOf?_tamed c.verb c.key.kind
  rcases hrule : store.faultOf? c.verb c.key.kind with _ | code | _ <;> rw [hrule] at hfault
  · have hcluster : store.tamed.cluster = store.cluster := rfl
    rw [perform_of_faultless hrule] at h
    rw [perform_of_faultless hfault, hcluster]
    obtain ⟨hreply, rfl⟩ := Prod.mk.inj h
    exact Prod.ext hreply rfl
  · rw [perform_of_fault hrule] at h
    rw [perform_of_fault hfault]
    obtain ⟨hreply, rfl⟩ := Prod.mk.inj h
    exact Prod.ext hreply rfl
  · rw [perform_of_fault hrule] at h
    exact absurd (Prod.mk.inj h).1 (by simp [Fault.outcome])

end FaultyCluster

theorem Pass.run_tamed {α : Type} {p : Pass α} {w after : World} {a : α}
    (h : p.run World.handler w = (.ok a, after)) :
    p.run World.handler w.tamed = (.ok a, after.tamed) := by
  induction p generalizing w with
  | done b =>
    obtain ⟨hb, rfl⟩ := Prod.mk.inj h
    exact Prod.ext hb rfl
  | abort cause => exact absurd (Prod.mk.inj h).1 (by simp)
  | call c next ih =>
    rcases hperform : w.store.perform c with ⟨cause | reply, store⟩
    · have hcall : World.handler.call c w = (.error cause, { w with store }) := by
        simp only [World.handler, World.call, hperform]
      simp only [run, hcall] at h
      exact absurd (Prod.mk.inj h).1 (by simp)
    · have hcall : World.handler.call c w = (.ok reply, { w with store }) := by
        simp only [World.handler, World.call, hperform]
      have htamed : World.handler.call c w.tamed = (.ok reply, World.tamed { w with store }) := by
        have hstore : w.tamed.store.perform c = (.ok reply, store.tamed) :=
          FaultyCluster.perform_tamed hperform
        simp only [World.handler, World.call, hstore]
        rfl
      simp only [run, hcall] at h
      simp only [run, htamed]
      exact ih reply h
  | preDelete app next ih => exact ih _ h
  | publish app event next ih => exact ih h
  | record change next ih => exact ih h

namespace Pass

variable {σ : Type}

/-- A run of a pass comes to where the status is written: the gate has let through a copy of the
app, and this is the status for it, what comes of writing it, and the state after that. -/
inductive Reports (h : Handler σ) (app copy : CompositeApp) (s : σ) :
    AppStatus → Except StoreError StatusWrite → σ → Prop where
  | accepted {start surveyed after : σ} {p : Progress} {write : Except StoreError StatusWrite}
      (hgate : (gate app).run h s = (.ok (.ok (.proceed copy)), start))
      (hvalid : copy.validate = .ok ())
      (hlook : (lookAfterAll copy {} ChildKind.all).run h start = (.ok p, surveyed))
      (hwrite : (writeStatus copy (p.finalStatus copy)).run h (h.announce copy p surveyed) =
        (.ok write, after)) :
      Reports h app copy s (p.finalStatus copy) write after
  | rejected {start after : σ} {cause : ValidationError} {write : Except StoreError StatusWrite}
      (hgate : (gate app).run h s = (.ok (.ok (.proceed copy)), start))
      (hinvalid : copy.validate = .error (.invalid cause))
      (hwrite : (writeStatus copy (copy.rejectedStatus cause)).run h
        (h.publish copy (.invalidSpec cause.message) start) = (.ok write, after)) :
      Reports h app copy s (copy.rejectedStatus cause) write after

namespace Reports

variable {h : Handler σ} {app copy : CompositeApp} {s after : σ} {final : AppStatus}
  {write : Except StoreError StatusWrite}

/-- There the run ends, with what comes of the status write. -/
theorem exists_run_eq (hreports : Reports h app copy s final write after) :
    ∃ outcome, (reconcile app).run h s = (.ok (conclude write outcome), after) := by
  cases hreports with
  | @accepted start surveyed _ p _ hgate hvalid hlook hwrite =>
    refine ⟨p.outcome, ?_⟩
    rw [reconcile, run_bind, hgate]
    dsimp only
    rw [work, hvalid]
    exact bringInLine_run_of_look hlook hwrite
  | @rejected start _ cause _ hgate hinvalid hwrite =>
    refine ⟨.rejected cause, ?_⟩
    rw [reconcile, run_bind, hgate]
    dsimp only
    rw [work, hinvalid]
    change (writeStatus copy (copy.rejectedStatus cause) >>= _).run h _ = _
    rw [run_bind, hwrite]
    rfl

end Reports

/-- Every run that comes to a result behind the gate comes to where the status is written. -/
theorem exists_reports {h : Handler σ} {app copy : CompositeApp} {s start after : σ}
    {result : Except PassError PassOutcome}
    (hgate : (gate app).run h s = (.ok (.ok (.proceed copy)), start))
    (hrun : (reconcile app).run h s = (.ok result, after)) :
    ∃ final write outcome, Reports h app copy s final write after ∧
      result = conclude write outcome := by
  rw [reconcile, run_bind, hgate] at hrun
  dsimp only at hrun
  unfold work at hrun
  rcases hverdict : copy.validate with (cause | cause) | _ <;> rw [hverdict] at hrun
  · change (writeStatus copy (copy.rejectedStatus cause) >>= _).run h _ = _ at hrun
    obtain ⟨write, last, hwrite, hended⟩ := exists_run_of_bind hrun
    obtain ⟨hresult, rfl⟩ := Prod.mk.inj hended
    exact ⟨_, write, _, .rejected hgate hverdict hwrite, (Except.ok.inj hresult).symm⟩
  · exact absurd (Prod.mk.inj hrun).1 (by simp)
  · obtain ⟨p, surveyed, hlook, hrest⟩ := exists_run_of_bind hrun
    have hreport : ((writeStatus copy (p.finalStatus copy)) >>= fun write =>
        pure (conclude write p.outcome)).run h (h.announce copy p surveyed) =
          (.ok result, after) := by
      unfold Handler.announce
      by_cases hnews : p.isNews = true
      · rw [if_pos hnews] at hrest ⊢
        exact hrest
      · rw [if_neg hnews] at hrest ⊢
        exact hrest
    obtain ⟨write, last, hwrite, hended⟩ := exists_run_of_bind hreport
    obtain ⟨hresult, rfl⟩ := Prod.mk.inj hended
    exact ⟨_, write, _, .accepted hgate hverdict hlook hwrite, (Except.ok.inj hresult).symm⟩

section Gate

variable {w : World} {app : CompositeApp}

/-- An app that is let go is not let through. -/
theorem release_returns (app : CompositeApp) :
    (release app).Returns fun result => ∀ copy, result ≠ .ok (.proceed copy) := by
  have hhook : (runHook app).Responds := fun _ => trivial
  refine hhook.bind fun hooked => ?_
  cases hooked with
  | error reason => exact fun copy h => absurd h (by simp)
  | ok _ =>
    refine Returns.bind (persist_returns app.withoutFinalizer) fun result _ copy hcopy => ?_
    obtain ⟨persisted, -, hproceed⟩ := map_eq_ok.1 hcopy
    cases persisted <;> exact absurd hproceed (by simp)

/-- A copy that the gate lets through is stored, whatever faults there are. -/
theorem gate_tends (hanswering : w.store.Answering)
    (hstored : w.store.cluster.get? app.storeKey = some (.app app)) :
    Ends World.handler (gate app) w fun result after => ∀ copy, result = .ok (.proceed copy) →
      w.Keeps app copy after ∧ copy.status = app.status ∧ after.store.rules = w.store.rules := by
  unfold gate
  cases hstate : FinalizerState.of app with
  | unregistered =>
    have hlive := (FinalizerState.of_eq_unregistered.1 hstate).2
    let app' := app.rewritten (some (app.metadata.finalizerList ++ [finalizer]))
      (some (Cluster.versionText (w.store.cluster.version + 1))) app.status
    have heffect : w.store.cluster.Effect (.replace (.app app.withFinalizer)) (some (.app app'))
        (w.store.cluster.put (.app app')) :=
      .replaced_of_current (r := .app app.withFinalizer) hstored rfl hlive
    have hpersist : Ends World.handler (persist app.withFinalizer) w fun result after =>
        ∀ copy, result = .ok (some copy) →
          w.Keeps app copy after ∧ copy.status = app.status ∧
            after.store.rules = w.store.rules := by
      refine (written_tried hanswering hstored ⟨_, _, _, rfl⟩ heffect).bind ?_
      rintro _ after (⟨rfl, hkeeps, hrules⟩ | ⟨⟨e, rfl⟩, -⟩)
      · refine Ends.pure fun copy hcopy => ?_
        obtain rfl := Option.some.inj (Except.ok.inj hcopy)
        exact ⟨hkeeps, rfl, hrules⟩
      · cases e <;> exact Ends.pure fun copy hcopy => absurd hcopy (by simp)
    unfold register
    refine hpersist.bind fun result after hresult => Ends.pure fun copy hcopy => ?_
    obtain ⟨persisted, rfl, hproceed⟩ := map_eq_ok.1 hcopy
    cases persisted with
    | none => exact absurd hproceed (by simp)
    | some stored =>
      obtain rfl := Gate.proceed.inj hproceed
      exact hresult stored rfl
  | registered =>
    refine Ends.pure fun copy hcopy => ?_
    obtain rfl := Gate.proceed.inj (Except.ok.inj hcopy)
    exact ⟨World.keeps_refl hstored, rfl, rfl⟩
  | finalizing =>
    exact ((release_returns app).ends World.handler_steady hanswering).mono
      fun result after hresult copy hcopy => absurd hcopy (hresult.1 copy)
  | released => exact Ends.pure fun copy hcopy => absurd hcopy (by simp)

end Gate

end Pass

def availableIn? : Option Child → Option Int
  | some (.deployment d) => some ((d.status.bind (·.availableReplicas)).getD 0)
  | _ => none

theorem availableIn?_eq_none {found : Option Child} :
    availableIn? found = none ↔ ∀ d, found ≠ some (.deployment d) := by
  unfold availableIn?
  split
  · simp
  · rename_i hother
    simpa using hother

namespace VersionEntry

variable {entries : List VersionEntry} {e : VersionEntry}

theorem of_find? {version : String} (h : entries.find? (·.version = version) = some e) :
    e ∈ entries ∧ e.version = version :=
  ⟨List.mem_of_find?_eq_some h, by simpa using List.find?_some h⟩

theorem exists_find? (he : e ∈ entries) :
    ∃ other, entries.find? (·.version = e.version) = some other ∧ other.version = e.version := by
  have hsome : (entries.find? (·.version = e.version)).isSome :=
    List.find?_isSome.2 ⟨e, he, decide_eq_true rfl⟩
  obtain ⟨other, hother⟩ := Option.isSome_iff_exists.1 hsome
  exact ⟨other, hother, (of_find? hother).2⟩

end VersionEntry

namespace AppStatus

theorem getElem?_observe (status : AppStatus) (e : VersionEntry) (found : Option Child)
    (version : String) :
    (status.observe (some e) found).availableReplicas[version]? =
      if e.version = version then (availableIn? found).or status.availableReplicas[version]?
      else status.availableReplicas[version]? := by
  cases found with
  | none => simp [observe, availableIn?]
  | some child =>
    cases child with
    | deployment d => exact Dict.getElem?_insert _ _ _ _
    | service | virtualService | autoscaler | destinationRule => simp [observe, availableIn?]

/-- What was found of each version is taken in, one after the other. A version that comes up again
adds nothing, as the same is found of it. -/
theorem getElem?_foldl_observe {found : VersionEntry → Option Child}
    (hfound : ∀ e other, e.version = other.version → found e = found other)
    (entries : List VersionEntry) (status : AppStatus) (version : String) :
    (entries.foldl (fun status e => status.observe (some e) (found e))
      status).availableReplicas[version]? =
        ((entries.find? (·.version = version)).bind fun e => availableIn? (found e)).or
          status.availableReplicas[version]? := by
  induction entries generalizing status with
  | nil => rfl
  | cons e rest ih =>
    rw [List.foldl_cons, ih, getElem?_observe]
    by_cases hversion : e.version = version
    · rw [List.find?_cons_of_pos (by simpa using hversion), if_pos hversion]
      cases hagain : rest.find? (·.version = version) with
      | none => rfl
      | some other =>
        have hsame := hfound other e ((VersionEntry.of_find? hagain).2.trans hversion.symm)
        simp only [Option.bind_some, hsame, ← Option.or_assoc, Option.or_self]
    · rw [List.find?_cons_of_neg (by simpa using hversion), if_neg hversion]

end AppStatus

namespace CompositeApp

variable {app : CompositeApp} {c : Cluster}

def deploymentKey (app : CompositeApp) (e : VersionEntry) : ObjectKey :=
  ⟨.child .deployment, app.namespaceName, app.versionName e⟩

def availableOf? (app : CompositeApp) (c : Cluster) (e : VersionEntry) : Option Int :=
  match c.get? (app.deploymentKey e) with
  | some (.child (.deployment d)) => some ((d.status.bind (·.availableReplicas)).getD 0)
  | _ => none

theorem availableOf?_eq_some {e : VersionEntry} {n : Int} : app.availableOf? c e = some n ↔
    ∃ d, c.get? (app.deploymentKey e) = some (.child (.deployment d)) ∧
      n = (d.status.bind (·.availableReplicas)).getD 0 := by
  unfold availableOf?
  split
  · rename_i d hstored
    rw [hstored]
    simp [eq_comm]
  · rename_i hother
    refine ⟨fun h => absurd h (by simp), ?_⟩
    rintro ⟨d, hstored, -⟩
    exact absurd hstored (hother d)

/-- A status shows the app as it is stored: the available replicas of each version whose deployment
is there, and what follows from them and from the app. -/
structure Shows (app : CompositeApp) (c : Cluster) (status : AppStatus) : Prop where
  replicas : ∀ version n, status.availableReplicas[version]? = some n ↔
    ∃ e ∈ app.spec.apps, e.version = version ∧
      ∃ d, c.get? (app.deploymentKey e) = some (.child (.deployment d)) ∧
        n = (d.status.bind (·.availableReplicas)).getD 0
  summary : status.summary = app.summary status
  generation : status.observedGeneration = app.metadata.generation

theorem availableOf?_eq (e : VersionEntry) :
    app.availableOf? c e = availableIn? ((c.get? (app.deploymentKey e)).bind (·.child?)) := by
  unfold availableOf?
  rcases c.get? (app.deploymentKey e) with _ | a | child
  · rfl
  · rfl
  · cases child <;> rfl

/-- Versions of one name have one deployment. -/
theorem deploymentKey_congr {e other : VersionEntry} (hversion : e.version = other.version) :
    app.deploymentKey e = app.deploymentKey other := by
  rw [deploymentKey, deploymentKey, versionName, versionName, hversion]

/-- The deployments are taken in one after the other. -/
theorem getElem?_observedOf (entries : List VersionEntry) (status : AppStatus) (version : String) :
    (app.observedOf c .deployment (entries.map fun e => ⟨app.versionName e, some e⟩)
      status).availableReplicas[version]? =
        ((entries.find? (·.version = version)).bind (app.availableOf? c)).or
          status.availableReplicas[version]? := by
  have hfound : ∀ e other : VersionEntry, e.version = other.version →
      (c.get? (app.deploymentKey e)).bind (·.child?) =
        (c.get? (app.deploymentKey other)).bind (·.child?) :=
    fun e other hversion => by rw [deploymentKey_congr hversion]
  rw [observedOf, List.foldl_map, funext availableOf?_eq]
  exact AppStatus.getElem?_foldl_observe hfound entries status version

/-- Deployments alone have something to tell. -/
theorem foldl_observed_all (app : CompositeApp) (c : Cluster) (status : AppStatus) :
    ChildKind.all.foldl (fun status kind => app.observed c kind status) status =
      app.observedOf c .deployment (app.targets .version) status :=
  rfl

/-- The status that is gathered from the deployments of an app shows them all. -/
theorem shows_finished {status : AppStatus}
    (hstatus : status.availableReplicas =
      (app.observedOf c .deployment (app.targets .version) {}).availableReplicas) :
    app.Shows c (status.finished app) where
  replicas version n := by
    have hgathered : status.availableReplicas[version]? =
        (app.spec.apps.find? (·.version = version)).bind (app.availableOf? c) := by
      rw [hstatus]
      exact (getElem?_observedOf app.spec.apps {} version).trans (Option.or_none ..)
    change status.availableReplicas[version]? = some n ↔ _
    simp only [hgathered, Option.bind_eq_some_iff, availableOf?_eq_some]
    constructor
    · rintro ⟨e, hfound, d, hd, hn⟩
      obtain ⟨he, hversion⟩ := VersionEntry.of_find? hfound
      exact ⟨e, he, hversion, d, hd, hn⟩
    · rintro ⟨e, he, rfl, d, hd, hn⟩
      obtain ⟨other, hfound, hversion⟩ := VersionEntry.exists_find? he
      exact ⟨other, hfound, d, deploymentKey_congr hversion ▸ hd, hn⟩
  summary := rfl
  generation := rfl

end CompositeApp

/-- The app is stored with a status that tells the truth. That of an accepted app shows what is
stored, if deployments can be looked up; that of a rejected one is the one before but for the
violation. -/
structure CompositeApp.TrulyTold (app : CompositeApp) (served : Prop) (c : Cluster)
    (final : AppStatus) : Prop where
  stored : ∃ last, c.get? app.storeKey = some (.app last) ∧ last.Follows app ∧
    last.status = some final
  success : final.success = true ↔ final.message = none
  accepted : app.validate = .ok () → served → app.Shows c final
  rejected : ∀ cause, app.validate = .error (.invalid cause) → final =
    { app.status.getD {} with
      success := false
      message := some cause.message
      observedGeneration := app.metadata.generation }

namespace Pass

section Told

variable {w start surveyed after : World} {app copy : CompositeApp} {final : AppStatus}
  {write : StatusWrite}

theorem success_finalStatus (p : Progress) (app : CompositeApp) :
    (p.finalStatus app).success = true ↔ (p.finalStatus app).message = none := by
  change p.success = true ↔ p.message? = none
  cases hsuccess : p.success <;> simp [Progress.message?, hsuccess]

theorem store_announce (h : World) (app : CompositeApp) (p : Progress) :
    (World.handler.announce app p h).store = h.store := by
  unfold Handler.announce
  split <;> rfl

/-- Work that comes to its report still does so where all calls come back. -/
theorem Reports.tamed {written : Except StoreError StatusWrite}
    (hreports : Reports World.handler app copy w final written after) :
    Reports World.handler app copy w.tamed final written after.tamed := by
  have hannounce : ∀ p s, (World.handler.announce copy p s).tamed =
      World.handler.announce copy p s.tamed := by
    intro p s
    unfold Handler.announce
    split <;> rfl
  cases hreports with
  | accepted hgate hvalid hlook hwrite =>
    have hwrite' := run_tamed hwrite
    rw [hannounce] at hwrite'
    exact .accepted (run_tamed hgate) hvalid (run_tamed hlook) hwrite'
  | rejected hgate hinvalid hwrite =>
    exact .rejected (run_tamed hgate) hinvalid (run_tamed hwrite)

/-- The status of an accepted app is gathered behind the gate. Neither the other kinds nor the write
of the status touch what it shows. -/
theorem trulyTold_of_accepted {p : Progress} (hanswering : start.store.Answering)
    (hkeyed : start.store.cluster.Keyed) (hvalid : app.validate = .ok ())
    (hstored : start.store.cluster.get? app.storeKey = some (.app app))
    (hdeletes : ∀ kind ∈ ChildKind.all, ∀ target ∈ app.targets kind.scope,
      app.DeletesAlone start.store.cluster kind target)
    (hlook : (lookAfterAll app {} ChildKind.all).run World.handler start = (.ok p, surveyed))
    (hstatus : (writeStatus app (p.finalStatus app)).run World.handler
      (World.handler.announce app p surveyed) = (.ok (.ok write), after))
    (hwrite : write ≠ .conflict) :
    app.TrulyTold (start.store.faultOf? .get (.child .deployment) = none) after.store.cluster
      (p.finalStatus app) := by
  obtain ⟨htends, hshown⟩ :=
    (lookAfterAll_tends hanswering hkeyed hvalid (by decide) hdeletes).of_run hlook
  have htold := store_announce surveyed app p
  have hkept : (World.handler.announce app p surveyed).store.cluster.get? app.storeKey =
      some (.app app) := by
    rw [htold, htends.confined.frame app.storeKey fun hcovers =>
      CompositeApp.ne_storeKey_of_covers hcovers rfl, hstored]
  have hanswering' : (World.handler.announce app p surveyed).store.Answering :=
    htold ▸ hanswering.of_rules htends.rules
  obtain ⟨-, hwritten⟩ := (writeStatus_tends hanswering' hkept).of_run hstatus
  obtain ⟨hafter, last, hfound, hlater, -, hfinal⟩ := hwritten write rfl hwrite
  refine ⟨⟨last, hfound, hlater, hfinal⟩, success_finalStatus p app, fun _ hserved => ?_, ?_⟩
  · have hobserves : ∀ kind ∈ ChildKind.all, kind.observes = true →
        start.store.faultOf? .get (.child kind) = none := by
      intro kind _ hobserves
      cases kind with
      | deployment => exact hserved
      | service | virtualService | autoscaler | destinationRule => cases hobserves
    have hgathered := hshown hobserves
    rw [CompositeApp.foldl_observed_all] at hgathered
    have hsame : app.observedOf surveyed.store.cluster .deployment (app.targets .version) {} =
        app.observedOf after.store.cluster .deployment (app.targets .version) {} := by
      refine CompositeApp.observedOf_congr fun target _ => ?_
      rw [hafter.confined.frame _ (app.targetKey_ne_storeKey app .deployment target), htold]
    have havailable := congrArg AppStatus.availableReplicas (hgathered.trans hsame)
    exact CompositeApp.shows_finished havailable
  · intro cause hinvalid
    exact absurd (hvalid.symm.trans hinvalid) (by simp)

/-- The status of a rejected app is written at once. -/
theorem trulyTold_of_rejected {cause : ValidationError} {served : Prop}
    (hanswering : start.store.Answering) (hinvalid : app.validate = .error (.invalid cause))
    (hstored : start.store.cluster.get? app.storeKey = some (.app app))
    (hstatus : (writeStatus app (app.rejectedStatus cause)).run World.handler
      (World.handler.publish app (.invalidSpec cause.message) start) = (.ok (.ok write), after))
    (hwrite : write ≠ .conflict) :
    app.TrulyTold served after.store.cluster (app.rejectedStatus cause) := by
  obtain ⟨-, hwritten⟩ := (writeStatus_tends (w := World.handler.publish app
    (.invalidSpec cause.message) start) hanswering hstored).of_run hstatus
  obtain ⟨-, last, hfound, hlater, -, hfinal⟩ := hwritten write rfl hwrite
  refine ⟨⟨last, hfound, hlater, hfinal⟩, by simp [CompositeApp.rejectedStatus],
    fun hvalid => ?_, fun other hother => ?_⟩
  · exact absurd (hvalid.symm.trans hinvalid) (by simp)
  · obtain rfl := Refusal.invalid.inj (Except.error.inj (hinvalid.symm.trans hother))
    rfl

/-- What is told of the copy that the gate lets through holds of the app. -/
theorem trulyTold_of_copy {served : Prop} {c : Cluster} (hfollows : copy.Follows app)
    (hbefore : copy.status = app.status) (htold : copy.TrulyTold served c final) :
    app.TrulyTold served c final := by
  obtain ⟨⟨last, hfound, hlater, hfinal⟩, hsuccess, haccepted, hrejected⟩ := htold
  obtain ⟨finalizers, version, status, rfl⟩ := hfollows
  obtain rfl : status = app.status := hbefore
  refine ⟨⟨last, hfound, hlater.trans ⟨_, _, _, rfl⟩, hfinal⟩, hsuccess, ?_, hrejected⟩
  intro hvalid hserved
  obtain ⟨hreplicas, hsummary, hgeneration⟩ := haccepted hvalid hserved
  exact ⟨hreplicas, hsummary, hgeneration⟩

end Told

end Pass

def Example.dimWorld : World :=
  { heldWorld with store := heldWorld.store.inject ⟨.get, .child .service, .status 503⟩ }

end CompositeApps
