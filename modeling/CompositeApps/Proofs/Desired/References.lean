import CompositeApps.Proofs.App.Labels
import CompositeApps.Proofs.Desired.Stability
import Mathlib.Data.List.Nodup

/-!
The objects of an app refer to one another only. Wherever its routing sends a request there is a
subset of its pods and a port of its service, and what an autoscaler scales is a deployment that the
app wants as well.
-/

namespace CompositeApps

def Service.meshHost (s : Service) : String :=
  s.metadata.displayName ++ "." ++ s.metadata.namespaceOrDefault ++ ".svc.cluster.local"

def Service.portList (s : Service) : List ServicePort :=
  (s.spec.bind (·.ports)).getD []

def Subset.Picks (s : Subset) (app : CompositeApp) (e : VersionEntry) : Prop :=
  s.labels[CompositeApp.versionLabel]? = some e.version ∧
    s.labels[CompositeApp.appLabel]? = some app.name

/-- A destination is the one subset that picks the pods of a version, on the host of the subsets, at
the port of the version, which is one of the service. -/
structure Destination.LeadsTo (d : Destination) (app : CompositeApp) (e : VersionEntry)
    (rule : DestinationRule) (endpoint : Service) : Prop where
  host : d.host = rule.spec.host
  subset : ∃ s ∈ rule.spec.subsets, d.subset = some s.name ∧ s.Picks app e ∧
    ∀ other ∈ rule.spec.subsets, d.subset = some other.name ∨ other.Picks app e → other = s
  port : ∃ number : Nat, d.port = some number ∧ e.port = number ∧
    ∃ p ∈ endpoint.portList, p.port = number

def Autoscaler.Scales (a : Autoscaler) (d : Deployment) : Prop :=
  a.metadata.namespaceName = d.metadata.namespaceName ∧
    ∃ spec, a.spec = some spec ∧ spec.scaleTargetRef.apiVersion = some "apps/v1" ∧
      spec.scaleTargetRef.kind = "Deployment" ∧ d.metadata.name = some spec.scaleTargetRef.name

namespace Desired

variable {app : CompositeApp} {settings : RuleSettings} {e : VersionEntry}

theorem usesPort_eq_true {ports : List ServicePort} {number : Int} :
    usesPort ports number = true ↔ ∃ p ∈ ports, p.port = number := by
  simp [usesPort]

/-- Ports are only added, and each version finds its own. -/
theorem usesPort_foldl {number : Int} (entries : List VersionEntry) (ports : List ServicePort) :
    usesPort (entries.foldl
        (fun ports e => if usesPort ports e.port then ports else ports ++ [versionPort e]) ports)
      number = true ↔
      usesPort ports number = true ∨ ∃ e ∈ entries, e.port = number := by
  induction entries generalizing ports with
  | nil => simp
  | cons e rest ih =>
    have hstep : usesPort (if usesPort ports e.port then ports else ports ++ [versionPort e])
        number = true ↔ usesPort ports number = true ∨ e.port = number := by
      split
      · rename_i hused
        refine (or_iff_left_of_imp ?_).symm
        rintro rfl
        exact hused
      · simp [usesPort, versionPort, servicePort]
    simp only [List.foldl_cons, ih, hstep, or_assoc, List.mem_cons, exists_eq_or_imp]

theorem usesPort_servicePorts (he : e ∈ app.spec.apps) :
    usesPort (servicePorts app) e.port = true := by
  have hversions : usesPort (versionPorts app.spec.apps) e.port = true :=
    (usesPort_foldl app.spec.apps []).2 (Or.inr ⟨e, he, rfl⟩)
  unfold servicePorts
  dsimp only
  split
  · obtain ⟨p, hp, hnumber⟩ := usesPort_eq_true.1 hversions
    exact usesPort_eq_true.2 ⟨p, List.mem_append_left _ hp, hnumber⟩
  · exact hversions

/-- Every rule sends its requests to versions of the app. -/
theorem exists_destination_of_mem_routes {r : HttpRoute} (hr : r ∈ (routes app settings).http)
    {d : WeightedDestination} (hd : d ∈ r.route) :
    ∃ e ∈ app.spec.apps, ∃ weight, d = destination app e weight := by
  unfold routes at hr
  split at hr
  · obtain ⟨e, he, rfl⟩ := List.mem_map.1 hr
    exact ⟨e, he, 100, List.mem_singleton.1 hd⟩
  · rename_i gateway _
    rcases List.mem_append.1 hr with hpinned | hlast
    · obtain ⟨e, he, rfl⟩ := List.mem_map.1 hpinned
      exact ⟨e, he, 100, List.mem_singleton.1 hd⟩
    · obtain rfl := List.mem_singleton.1 hlast
      obtain ⟨e, he, rfl⟩ := List.mem_map.1 hd
      exact ⟨e, he, weightOf gateway e, rfl⟩

theorem picks_subset_iff {e other : VersionEntry} :
    (subset app other).Picks app e ↔ other.version = e.version := by
  obtain ⟨hversion, happ⟩ :=
    (app.versionSelector_within_iff other).1 (app.versionSelector_within_versionLabels other)
  rw [Subset.Picks, subset, hversion, happ]
  simp

/-- What an autoscaler is for is wanted too, whatever deployment there is. -/
theorem scales_of_autoscaler {scaler : Autoscaler} (h : autoscaler app e = .present scaler)
    (observed : Option Deployment) :
    ∃ scaled, deployment app e observed = .present scaled ∧ scaler.Scales scaled := by
  obtain ⟨hkept, rfl⟩ := eq_of_autoscaler h
  obtain ⟨scaled, hscaled⟩ := exists_present app hkept observed
  have hmetadata := metadata_deployment hscaled
  exact ⟨scaled, hscaled, congrArg (·.namespaceName) hmetadata.symm, _, rfl, rfl, rfl,
    congrArg (·.name) hmetadata⟩

/-- The subset of a version is the only one of its name, and the only one for its pods. -/
theorem eq_subset (hvalid : app.validate = .ok ()) (he : e ∈ app.spec.apps) {other : Subset}
    (hother : other ∈ app.spec.apps.map (subset app))
    (hsame : some (app.versionName e) = some other.name ∨ other.Picks app e) :
    other = subset app e := by
  obtain ⟨e', he', rfl⟩ := List.mem_map.1 hother
  have hversion : e'.version = e.version := by
    rcases hsame with hname | hpicks
    · exact (CompositeApp.versionName_inj.1 (Option.some.inj hname)).symm
    · exact picks_subset_iff.1 hpicks
  rw [List.inj_on_of_nodup_map (CompositeApp.versions_nodup hvalid) he' he hversion]

theorem leadsTo_destination (hvalid : app.validate = .ok ()) (he : e ∈ app.spec.apps)
    {weight : Int} {rule : DestinationRule} {endpoint : Service}
    (hhost : rule.spec.host = app.serviceHost)
    (hsubsets : rule.spec.subsets = app.spec.apps.map (subset app))
    (hports : endpoint.portList = servicePorts app) :
    (destination app e weight).destination.LeadsTo app e rule endpoint where
  host := hhost.symm
  subset := by
    rw [hsubsets]
    exact ⟨subset app e, List.mem_map_of_mem he, rfl, picks_subset_iff.2 rfl,
      fun _ hother hsame => eq_subset hvalid he hother hsame⟩
  port := by
    obtain ⟨_, hchecked⟩ := CompositeApp.validate_of_mem_apps hvalid he
    have hpositive : 0 ≤ e.port := by
      have hport := (VersionEntry.port_of_validate hchecked).1
      omega
    have hnumber : e.port = e.port.toNat := (Int.toNat_of_nonneg hpositive).symm
    refine ⟨e.port.toNat, if_pos hpositive, hnumber, ?_⟩
    rw [hports, ← hnumber]
    exact usesPort_eq_true.1 (usesPort_servicePorts he)

/-- An app with a version that passes its checks gets a service, rules and subsets that refer to one
another: the subsets are on the host of the service and have different names, and wherever a rule
sends a request there is one subset, and a port of the service. What an autoscaler of the app scales
is the deployment of the same version, which is wanted as well. -/
theorem objects_refer_to_one_another (hvalid : app.validate = .ok ())
    (hsome : app.spec.apps ≠ []) :
    ∃ endpoint routing rule, service app = .present endpoint ∧
      virtualService app = .ok (.present routing) ∧ destinationRule app = .ok (.present rule) ∧
      rule.spec.host = endpoint.meshHost ∧ (rule.spec.subsets.map (·.name)).Nodup ∧
      (∀ r ∈ routing.spec.http, ∀ d ∈ r.route,
        ∃ e ∈ app.spec.apps, d.destination.LeadsTo app e rule endpoint) ∧
      ∀ e scaler, autoscaler app e = .present scaler →
        ∀ observed, ∃ scaled, deployment app e observed = .present scaled ∧
          scaler.Scales scaled := by
  obtain ⟨settings, hrouting⟩ := exists_virtualService hvalid hsome
  obtain ⟨policy, hrule⟩ := exists_destinationRule hvalid hsome
  refine ⟨_, _, _, service_of_ne_nil hsome, hrouting, hrule, rfl, ?_, ?_,
    fun _ _ => scales_of_autoscaler⟩
  · have hnames : ((app.spec.apps.map (subset app)).map (·.name)) =
        (app.targets .version).map (·.name) := by
      simp only [CompositeApp.targets, List.map_map]
      rfl
    rw [hnames]
    exact CompositeApp.targets_nodup hvalid .version
  · intro r hr d hd
    obtain ⟨e, he, weight, rfl⟩ := exists_destination_of_mem_routes hr hd
    exact ⟨e, he, leadsTo_destination hvalid he rfl rfl rfl⟩

end Desired

def Example.museum : CompositeApp :=
  { metadata := {
      name := some "museum", namespaceName := some "default"
      labels := some (((∅ : Labels).insert "version" "none").insert "team" "a") }
    spec := {
      role := some .service
      apps := [
        { version := "v1", image := "museum:1", minReplicas := 1, maxReplicas := 3, port := 8080 },
        { version := "v2", image := "museum:2", minReplicas := -1, maxReplicas := 3, port := 8080 },
        { version := "v3", image := "museum:3", minReplicas := 2, maxReplicas := 2, port := 9000 }]
      } }

theorem Desired.objects_refer_to_one_another_example :
    Example.museum.validate = .ok () ∧ Example.museum.spec.apps ≠ [] ∧
    ∃ endpoint routing rule, service Example.museum = .present endpoint ∧
      virtualService Example.museum = .ok (.present routing) ∧
      destinationRule Example.museum = .ok (.present rule) ∧
      ∀ r ∈ routing.spec.http, ∀ d ∈ r.route,
        ∃ e ∈ Example.museum.spec.apps, d.destination.LeadsTo Example.museum e rule endpoint := by
  have hvalid : Example.museum.validate = .ok () := by rfl
  have hsome : Example.museum.spec.apps ≠ [] := by simp [Example.museum]
  obtain ⟨endpoint, routing, rule, hendpoint, hrouting, hrule, -, -, hleads, -⟩ :=
    objects_refer_to_one_another hvalid hsome
  exact ⟨hvalid, hsome, endpoint, routing, rule, hendpoint, hrouting, hrule, hleads⟩

end CompositeApps
