import CompositeApps.Proofs.Desired.CarryForward
import CompositeApps.Proofs.Desired.PlainRequests
import CompositeApps.Proofs.Desired.Shares

/-!
Where the shares of the requests end up. The weights are checked against the versions of the app,
whether or not they are marked as removed: a removed version has no deployment, and yet the share
that its weight says is sent to it. All shares are served just if no removed version has a weight.
-/

namespace CompositeApps

/-- A destination is served if it is a version for which the app wants a deployment, whatever is
running. -/
def Destination.Served (d : Destination) (app : CompositeApp) : Prop :=
  ∃ e ∈ app.spec.apps, d.subset = some (app.versionName e) ∧
    ∀ observed, ∃ made, Desired.deployment app e observed = .present made

namespace Desired

variable {app : CompositeApp} {gateway : GatewaySpec} {settings : RuleSettings} {e : VersionEntry}

theorem forall_exists_present_iff (app : CompositeApp) (e : VersionEntry) :
    (∀ observed, ∃ made, deployment app e observed = .present made) ↔ e.isRemoved = false := by
  constructor
  · intro h
    obtain ⟨made, hmade⟩ := h none
    exact isRemoved_of_present hmade
  · intro hkept observed
    exact exists_present app hkept observed

/-- The versions of a valid app are told apart by their names. -/
theorem eq_of_versionName_eq (hvalid : app.validate = .ok ()) {e other : VersionEntry}
    (he : e ∈ app.spec.apps) (hother : other ∈ app.spec.apps)
    (hname : app.versionName e = app.versionName other) : e = other := by
  have hversion : e.version = other.version := CompositeApp.versionName_inj.1 hname
  exact List.inj_on_of_nodup_map (CompositeApp.versions_nodup hvalid) he hother hversion

theorem served_destination_iff (hvalid : app.validate = .ok ()) (he : e ∈ app.spec.apps)
    (weight : Int) :
    (destination app e weight).destination.Served app ↔ e.isRemoved = false := by
  rw [← forall_exists_present_iff app e]
  constructor
  · rintro ⟨other, hother, hsubset, hmade⟩
    have hsame : e = other :=
      eq_of_versionName_eq hvalid he hother (Option.some.inj hsubset)
    exact hsame ▸ hmade
  · intro hmade
    exact ⟨e, he, rfl, hmade⟩

/-- All positive shares are served just if no removed version has one. -/
theorem weightedRule_served_iff (hvalid : app.validate = .ok ())
    (hgateway : gateway.validate app = .ok ()) :
    (∀ d ∈ (weightedRule app gateway settings).route, 0 < d.weight → d.destination.Served app) ↔
      ∀ e ∈ app.spec.apps, e.isRemoved = true → weightOf gateway e = 0 := by
  have hroute : ∀ d, d ∈ (weightedRule app gateway settings).route ↔
      ∃ e ∈ app.spec.apps, destination app e (weightOf gateway e) = d := fun d => List.mem_map
  constructor
  · intro hserved e he hremoved
    by_contra hweight
    have hpos : 0 < weightOf gateway e := by
      have hnonneg := weightOf_nonneg hgateway e
      omega
    have hkept := (served_destination_iff hvalid he _).1
      (hserved _ ((hroute _).2 ⟨e, he, rfl⟩) hpos)
    exact absurd (hremoved.symm.trans hkept) (by decide)
  · intro hweights d hd hpos
    obtain ⟨e, he, rfl⟩ := (hroute d).1 hd
    apply (served_destination_iff hvalid he _).2
    by_contra hremoved
    have hzero := hweights e he (Bool.eq_true_of_not_eq_false hremoved)
    have hweight : (destination app e (weightOf gateway e)).weight = weightOf gateway e := rfl
    omega

/-- The last rule of a valid app behind a gateway sends each version the share that its weight
says, and a destination is served just if its version is not removed. So all shares are served just
if no removed version has a weight other than zero. -/
theorem virtualService_served_iff (hvalid : app.validate = .ok ())
    (hgateway : app.spec.gateway = some gateway) :
    ∃ made last, virtualService app = .ok (.present made) ∧
      made.spec.http.getLast? = some last ∧
      (∀ d ∈ last.route, ∃ e ∈ app.spec.apps,
        d.destination.subset = some (app.versionName e) ∧
        d.weight = gateway.weights[e.version]?.getD 0 ∧
        (d.destination.Served app ↔ e.isRemoved = false)) ∧
      ((∀ d ∈ last.route, 0 < d.weight → d.destination.Served app) ↔
        ∀ e ∈ app.spec.apps, e.isRemoved = true → gateway.weights[e.version]?.getD 0 = 0) := by
  obtain ⟨settings, hmade⟩ := exists_gatewayRoutes hvalid hgateway
  have hchecked := (CompositeApp.validate_eq_ok hvalid).2.1 gateway hgateway
  refine ⟨_, weightedRule app gateway settings, hmade, List.getLast?_concat, ?_,
    weightedRule_served_iff hvalid hchecked⟩
  intro d hd
  obtain ⟨e, he, rfl⟩ := List.mem_map.1 hd
  exact ⟨e, he, rfl, rfl, served_destination_iff hvalid he _⟩

end Desired

namespace Example

def closedBooth : VersionEntry :=
  { version := "green", image := "fair:2", minReplicas := -1, maxReplicas := 0, port := 8080 }

def fair (blue green : Int) : CompositeApp :=
  { metadata := { name := some "fair", namespaceName := some "default" }
    spec := {
      apps := [
        { version := "blue", image := "fair:1", minReplicas := 2, maxReplicas := 10, port := 8080 },
        closedBooth]
      gateway := some {
        hosts := ["fair.example.com"]
        weights := ((∅ : Dict Int).insert "blue" blue).insert "green" green } } }

end Example

namespace Desired

theorem virtualService_served_iff_example :
    (Example.fair 100 0).validate = .ok () ∧
    ∃ made last, virtualService (Example.fair 100 0) = .ok (.present made) ∧
      made.spec.http.getLast? = some last ∧
      ∀ d ∈ last.route, 0 < d.weight → d.destination.Served (Example.fair 100 0) := by
  have hvalid : (Example.fair 100 0).validate = .ok () := by rfl
  obtain ⟨made, last, hmade, hlast, -, hserved⟩ := virtualService_served_iff hvalid rfl
  exact ⟨hvalid, made, last, hmade, hlast, hserved.2 (by decide +kernel)⟩

/-- A valid app sends a share of its requests to a version whose deployment must not exist. -/
theorem share_of_removed_version :
    (Example.fair 90 10).validate = .ok () ∧
    (∀ observed, deployment (Example.fair 90 10) Example.closedBooth observed = .absent) ∧
    ∃ made last, virtualService (Example.fair 90 10) = .ok (.present made) ∧
      made.spec.http.getLast? = some last ∧
      ∃ d ∈ last.route, d.destination.subset = some "fair-green" ∧ d.weight = 10 ∧
        ¬ d.destination.Served (Example.fair 90 10) := by
  have hvalid : (Example.fair 90 10).validate = .ok () := by rfl
  have he : Example.closedBooth ∈ (Example.fair 90 10).spec.apps :=
    List.mem_cons_of_mem _ List.mem_cons_self
  refine ⟨hvalid, fun observed => deployment_eq_absent.2 rfl, _, _, rfl, rfl,
    destination (Example.fair 90 10) Example.closedBooth 10, ?_, rfl, rfl, ?_⟩
  · exact List.mem_cons_of_mem _ List.mem_cons_self
  · rw [served_destination_iff hvalid he]
    decide

end Desired

end CompositeApps
