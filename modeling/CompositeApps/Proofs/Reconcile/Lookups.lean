import CompositeApps.Proofs.Reconcile.TruthfulStatus

/-!
The lookups for the status where each of them may fail on its own. They are made in the order of the
versions, and the first that fails is the last: what the status tells is what was found before it,
although what is behind it could have been found as well.
-/

namespace CompositeApps

variable {σ : Type} {h : Handler σ} {I : σ → Prop} {app : CompositeApp}
  {answer : ObjectKey → Except StoreError (Option Child)} {s : σ}

/-- The deployments of an app can be looked up at any time and in any order, and every time that
comes to the same: some are found, some are not there, and some cannot be looked up. -/
def Handler.Finds (h : Handler σ) (I : σ → Prop) (app : CompositeApp)
    (answer : ObjectKey → Except StoreError (Option Child)) : Prop :=
  ∀ e ∈ app.spec.apps, ∀ s, I s → ∃ after,
    (Pass.lookup (app.deploymentKey e)).run h s = (.ok (answer (app.deploymentKey e)), after) ∧
      I after

namespace CompositeApp

def missed? (app : CompositeApp) (answer : ObjectKey → Except StoreError (Option Child))
    (e : VersionEntry) : Option ApplyError :=
  match answer (app.deploymentKey e) with
  | .ok _ => none
  | .error cause => some (.store "Deployment" (app.versionName e) cause)

/-- The versions whose deployments are looked up before one cannot be. -/
def reached (app : CompositeApp) (answer : ObjectKey → Except StoreError (Option Child)) :
    List VersionEntry :=
  app.spec.apps.takeWhile fun e => (app.missed? answer e).isNone

def noted (app : CompositeApp) (answer : ObjectKey → Except StoreError (Option Child))
    (status : AppStatus) (entries : List VersionEntry) : AppStatus :=
  entries.foldl
    (fun status e => status.observe (some e) (answer (app.deploymentKey e)).toOption.join) status

theorem missed?_eq_none {e : VersionEntry} :
    app.missed? answer e = none ↔ ∃ found, answer (app.deploymentKey e) = .ok found := by
  unfold missed?
  cases answer (app.deploymentKey e) <;> simp

theorem getElem?_noted (entries : List VersionEntry) (status : AppStatus) (version : String) :
    (app.noted answer status entries).availableReplicas[version]? =
      ((entries.find? (·.version = version)).bind fun e =>
        availableIn? (answer (app.deploymentKey e)).toOption.join).or
          status.availableReplicas[version]? :=
  AppStatus.getElem?_foldl_observe
    (fun e other hversion => by rw [deploymentKey_congr hversion]) entries status version

theorem getElem?_noted_of_found {entries : List VersionEntry} {status : AppStatus}
    {e : VersionEntry} {d : Deployment} (he : e ∈ entries)
    (hfound : answer (app.deploymentKey e) = .ok (some (.deployment d))) :
    (app.noted answer status entries).availableReplicas[e.version]? =
      some ((d.status.bind (·.availableReplicas)).getD 0) := by
  obtain ⟨other, hother, hversion⟩ := VersionEntry.exists_find? he
  rw [getElem?_noted, hother, Option.bind_some, deploymentKey_congr hversion, hfound]
  rfl

theorem getElem?_noted_of_hidden {entries : List VersionEntry} {status : AppStatus}
    {version : String} (hhidden : ∀ e ∈ entries, e.version = version →
      ∀ d, answer (app.deploymentKey e) ≠ .ok (some (.deployment d))) :
    (app.noted answer status entries).availableReplicas[version]? =
      status.availableReplicas[version]? := by
  rw [getElem?_noted]
  cases hother : entries.find? (·.version = version) with
  | none => rfl
  | some e =>
    obtain ⟨he, hversion⟩ := VersionEntry.of_find? hother
    have hnone : availableIn? (answer (app.deploymentKey e)).toOption.join = none := by
      refine availableIn?_eq_none.2 fun d hd => ?_
      refine hhidden e he hversion d ?_
      rcases hanswer : answer (app.deploymentKey e) with cause | found <;> rw [hanswer] at hd
      · exact absurd hd (by simp [Except.toOption])
      · exact congrArg Except.ok hd
    rw [Option.bind_some, hnone, Option.none_or]

end CompositeApp

namespace Pass

/-- The lookups go as far as the first that fails. -/
theorem observes_of_finds (hfinds : h.Finds I app answer) {entries : List VersionEntry}
    (hentries : entries ⊆ app.spec.apps) (status : AppStatus) (hs : I s) :
    ∃ after, Observes h app .deployment (entries.map fun e => ⟨app.versionName e, some e⟩) status s
      (app.noted answer status (entries.takeWhile fun e => (app.missed? answer e).isNone))
      (entries.findSome? (app.missed? answer)) after ∧ I after := by
  induction entries generalizing status s with
  | nil => exact ⟨s, .done status s, hs⟩
  | cons e rest ih =>
    obtain ⟨he, hrest⟩ := List.cons_subset.1 hentries
    obtain ⟨mid, hlookup, hmid⟩ := hfinds e he s hs
    rcases hanswer : answer (app.deploymentKey e) with cause | found
    · have hmissed : app.missed? answer e =
          some (.store "Deployment" (app.versionName e) cause) := by
        rw [CompositeApp.missed?, hanswer]
      rw [List.takeWhile_cons, List.findSome?_cons, hmissed]
      rw [hanswer] at hlookup
      exact ⟨mid, .failed hlookup, hmid⟩
    · have hmissed : app.missed? answer e = none := CompositeApp.missed?_eq_none.2 ⟨found, hanswer⟩
      obtain ⟨after, hobserves, hafter⟩ := ih hrest (status.observe (some e) found) hmid
      rw [List.takeWhile_cons_of_pos (by simp [hmissed]), List.findSome?_cons, hmissed,
        CompositeApp.noted, List.foldl_cons, hanswer]
      rw [hanswer] at hlookup
      exact ⟨after, .seen hlookup hobserves, hafter⟩

/-- How far the status of an app gets where each deployment may be found, be missing or not be
looked up. What comes back is the first failure, so there is none just if all lookups work. A
version whose deployment is found is recorded if no lookup up to its own fails; once one has failed,
the versions behind it keep what the status said about them, and so do those without a
deployment. -/
theorem updateStatus_up_to_failure (hfinds : h.Finds I app answer) (hs : I s)
    (status : AppStatus) :
    ∃ status' error after,
      (updateStatus app .deployment status).run h s = (.ok (status', error), after) ∧ I after ∧
      error = app.spec.apps.findSome? (app.missed? answer) ∧
      (error = none ↔ ∀ e ∈ app.spec.apps, ∃ found, answer (app.deploymentKey e) = .ok found) ∧
      (∀ e ∈ app.reached answer, ∀ d, answer (app.deploymentKey e) = .ok (some (.deployment d)) →
        status'.availableReplicas[e.version]? =
          some ((d.status.bind (·.availableReplicas)).getD 0)) ∧
      ∀ version, (∀ e ∈ app.reached answer, e.version = version →
          ∀ d, answer (app.deploymentKey e) ≠ .ok (some (.deployment d))) →
        status'.availableReplicas[version]? = status.availableReplicas[version]? := by
  obtain ⟨after, hobserves, hafter⟩ := observes_of_finds hfinds (List.Subset.refl _) status hs
  refine ⟨app.noted answer status (app.reached answer), _, after, ?_, hafter, rfl, ?_, ?_, ?_⟩
  · rw [updateStatus_eq]
    exact observeAll_run hobserves
  · simp only [List.findSome?_eq_none_iff, CompositeApp.missed?_eq_none]
  · exact fun e he d hfound => CompositeApp.getElem?_noted_of_found he hfound
  · exact fun version hhidden => CompositeApp.getElem?_noted_of_hidden hhidden

end Pass

namespace Example

def entry (version : String) : VersionEntry :=
  { version, image := "ledger", minReplicas := 1, maxReplicas := 1, port := 8080 }

def ledger : CompositeApp :=
  { metadata := { name := some "ledger", namespaceName := some "default" }
    spec := { apps := [entry "v1", entry "v2"] } }

def serving : Deployment :=
  { status := some { availableReplicas := some 3 } }

def outage (key : ObjectKey) : Except StoreError (Option Child) :=
  if key.name = "ledger-v1" then .error (.api 500 "etcd is down")
  else .ok (some (.deployment serving))

def inOutage : Handler (List Call) where
  call c calls := (.ok ((outage c.key).map (·.map .child)), calls ++ [c])
  preDelete _ calls := (.ok (.ok ()), calls)
  publish _ _ calls := calls
  record _ calls := calls

theorem inOutage_finds : inOutage.Finds (fun _ => True) ledger outage := by
  intro e _ calls _
  refine ⟨calls ++ [.get (ledger.deploymentKey e)], ?_, trivial⟩
  have hanswer : ((outage (ledger.deploymentKey e)).map (·.map Resource.child)).map
      (fun reply => reply.bind (·.child?)) = outage (ledger.deploymentKey e) := by
    rcases outage (ledger.deploymentKey e) with cause | _ | child
    · rfl
    · rfl
    · rfl
  exact congrArg (fun found => (Except.ok found, _)) hanswer

end Example

namespace Pass

/-- The second version keeps what was known of it, as the first could not be looked up. -/
theorem updateStatus_up_to_failure_example :
    Example.inOutage.Finds (fun _ => True) Example.ledger Example.outage ∧
    ∀ status : AppStatus, ∃ status' after,
      (updateStatus Example.ledger .deployment status).run Example.inOutage [] =
        (.ok (status', some (.store "Deployment" "ledger-v1" (.api 500 "etcd is down"))), after) ∧
      status'.availableReplicas["v2"]? = status.availableReplicas["v2"]? := by
  refine ⟨Example.inOutage_finds, fun status => ?_⟩
  obtain ⟨status', error, after, hrun, -, rfl, -, -, hhidden⟩ :=
    updateStatus_up_to_failure Example.inOutage_finds (s := []) trivial status
  refine ⟨status', after, hrun, hhidden "v2" fun e he => ?_⟩
  have hreached : Example.ledger.reached Example.outage = [] := by decide
  rw [hreached] at he
  exact absurd he List.not_mem_nil

/-- One failed lookup hides the other version: its deployment is there, with three pods, but it is
not looked up, and the status tells of none. -/
theorem version_hidden_by_another :
    Example.outage (Example.ledger.deploymentKey (Example.entry "v2")) =
      .ok (some (.deployment Example.serving)) ∧
    ∃ status' error,
      (updateStatus Example.ledger .deployment {}).run Example.inOutage [] =
        (.ok (status', error), [.get (Example.ledger.deploymentKey (Example.entry "v1"))]) ∧
      status'.availableReplicas["v2"]? = none ∧
      CompositeApp.replicasWord status' (Example.entry "v2") = "v2:1-1(0)" :=
  ⟨rfl, {}, _, rfl, rfl, rfl⟩

end Pass

end CompositeApps
