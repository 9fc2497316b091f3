import CompositeApps.App.Validation
import CompositeApps.Desired.Target
import CompositeApps.Proofs.Success

/-!
What is known of a spec that passes its checks: its versions are pairwise different, and every span
of time in its policy can be read, so that nothing that is made from the spec aborts.
-/

namespace CompositeApps

namespace Check

theorem require_eq_ok {condition : Bool} {path text : String} {u : Unit} :
    require condition path text = .ok u ↔ condition = true := by
  cases condition <;> simp [require, reject, Check.pass]

theorem whenSome_eq_ok {α : Type} {a : Option α} {check : α → Check} {u : Unit} :
    whenSome a check = .ok u ↔ ∀ value, a = some value → check value = .ok () := by
  cases a <;> simp [whenSome, Check.pass]

theorem forM_eq_ok {α : Type} {items : List α} {check : α → Check} {u : Unit} :
    items.forM check = .ok u ↔ ∀ a ∈ items, check a = .ok () := by
  induction items with
  | nil => exact ⟨fun _ _ h => absurd h (by simp), fun _ => rfl⟩
  | cons a rest ih =>
    rw [List.forM_eq_forM, List.forM_cons, bind_eq_ok, List.forall_mem_cons]
    constructor
    · intro h
      obtain ⟨_, ha, hrest⟩ := h
      exact ⟨ha, ih.1 hrest⟩
    · intro h
      exact ⟨(), h.1, ih.2 h.2⟩

end Check

open Check

theorem checkDuration_eq_ok {path value : String} :
    checkDuration path value = .ok () ↔ ∃ d, Duration.parse value = .ok d := by
  unfold checkDuration
  split <;> rename_i hparse <;> simp [hparse, Check.pass, reject]

namespace CompositeApp

variable {app : CompositeApp}

/-- The parts of the check that later steps rely on. -/
theorem validate_eq_ok (h : app.validate = .ok ()) :
    (∀ policy, app.spec.policy = some policy → policy.validate = .ok ()) ∧
      (∀ gateway, app.spec.gateway = some gateway → gateway.validate app = .ok ()) ∧
      validateEntries 0 [] app.spec.apps = .ok () := by
  unfold validate at h
  obtain ⟨_, -, h⟩ := bind_eq_ok.1 h
  obtain ⟨_, hpolicy, h⟩ := bind_eq_ok.1 h
  obtain ⟨_, hgateway, hentries⟩ := bind_eq_ok.1 h
  exact ⟨whenSome_eq_ok.1 hpolicy, whenSome_eq_ok.1 hgateway, hentries⟩

theorem declares_iff {version : String} :
    app.declares version = true ↔ version ∈ app.spec.apps.map (·.version) := by
  simp [declares, findVersion?, List.find?_isSome]

theorem versions_of_validateEntries {i : Nat} {seen : List String} {entries : List VersionEntry}
    (h : validateEntries i seen entries = .ok ()) :
    (entries.map (·.version)).Nodup ∧ ∀ e ∈ entries, e.version ∉ seen := by
  induction entries generalizing i seen with
  | nil => simp
  | cons e rest ih =>
    simp only [validateEntries, bind_eq_ok, require_eq_ok] at h
    obtain ⟨_, -, _, hfresh, hrest⟩ := h
    obtain ⟨hnodup, hnew⟩ := ih hrest
    have he : e.version ∉ seen := by simpa using hfresh
    refine ⟨List.nodup_cons.2 ⟨?_, hnodup⟩, ?_⟩
    · intro hmem
      obtain ⟨twin, htwin, hversion⟩ := List.mem_map.1 hmem
      exact hnew twin htwin (by simp [hversion])
    · intro other hother
      rcases List.mem_cons.1 hother with rfl | hother
      · exact he
      · exact fun hseen => hnew other hother (List.mem_cons_of_mem _ hseen)

theorem versions_nodup (h : app.validate = .ok ()) :
    (app.spec.apps.map (·.version)).Nodup :=
  (versions_of_validateEntries (validate_eq_ok h).2.2).1

theorem validate_of_mem_validateEntries {i : Nat} {seen : List String}
    {entries : List VersionEntry} (h : validateEntries i seen entries = .ok ())
    {e : VersionEntry} (he : e ∈ entries) : ∃ path, e.validate path = .ok () := by
  induction entries generalizing i seen with
  | nil => exact absurd he List.not_mem_nil
  | cons first rest ih =>
    simp only [validateEntries, bind_eq_ok] at h
    obtain ⟨_, hfirst, _, -, hrest⟩ := h
    rcases List.mem_cons.1 he with rfl | he
    · exact ⟨entryPath i, hfirst⟩
    · exact ih hrest he

/-- Each version of an app that passes its checks passes its own. -/
theorem validate_of_mem_apps (h : app.validate = .ok ()) {e : VersionEntry}
    (he : e ∈ app.spec.apps) : ∃ path, e.validate path = .ok () :=
  validate_of_mem_validateEntries (validate_eq_ok h).2.2 he

theorem versionName_inj {e e' : VersionEntry} :
    app.versionName e = app.versionName e' ↔ e.version = e'.version :=
  String.append_right_inj (app.name ++ "-")

/-- The objects of one kind have pairwise different names. -/
theorem targets_nodup (h : app.validate = .ok ()) (scope : Scope) :
    ((app.targets scope).map (·.name)).Nodup := by
  cases scope with
  | app => simp [targets]
  | version =>
    have hversions := List.pairwise_map.1 (versions_nodup h)
    have hnames : (app.targets .version).map (·.name) = app.spec.apps.map app.versionName := by
      simp [targets]
    rw [hnames]
    exact List.pairwise_map.2 (hversions.imp fun hne => fun hname => hne (versionName_inj.1 hname))

end CompositeApp

theorem VersionEntry.port_of_validate {path : String} {e : VersionEntry}
    (h : e.validate path = .ok ()) : 1 ≤ e.port ∧ e.port ≤ 65535 := by
  unfold VersionEntry.validate at h
  obtain ⟨_, -, h⟩ := bind_eq_ok.1 h
  obtain ⟨_, -, h⟩ := bind_eq_ok.1 h
  obtain ⟨_, -, h⟩ := bind_eq_ok.1 h
  obtain ⟨_, -, hport⟩ := bind_eq_ok.1 h
  simpa using require_eq_ok.1 hport

/-- Every weight is for a declared version and not negative, and together they make a hundred. -/
theorem GatewaySpec.weights_of_validate {gateway : GatewaySpec} {app : CompositeApp}
    (h : gateway.validate app = .ok ()) :
    (∀ version weight, gateway.weights[version]? = some weight →
      app.declares version = true ∧ 0 ≤ weight) ∧
      (gateway.weights.toList.map (·.2)).foldr (· + ·) 0 = 100 := by
  unfold GatewaySpec.validate at h
  obtain ⟨_, -, h⟩ := bind_eq_ok.1 h
  obtain ⟨_, -, h⟩ := bind_eq_ok.1 h
  obtain ⟨_, hweights, h⟩ := bind_eq_ok.1 h
  obtain ⟨_, htotal, -⟩ := bind_eq_ok.1 h
  constructor
  · intro version weight hweight
    have hlisted := Std.ExtTreeMap.mem_toList_iff_getElem?_eq_some.2 hweight
    have hchecked : validateWeight app version weight = .ok () :=
      forM_eq_ok.1 hweights (version, weight) hlisted
    obtain ⟨_, hdeclared, hsign⟩ := bind_eq_ok.1 hchecked
    exact ⟨require_eq_ok.1 hdeclared, of_decide_eq_true (require_eq_ok.1 hsign)⟩
  · exact of_decide_eq_true (require_eq_ok.1 htotal)

namespace Desired

theorem exists_ok_meshDuration {path : String} {text : Option String}
    (h : whenSome text (checkDuration path) = .ok ()) :
    ∃ written, meshDuration text = .ok written := by
  cases text with
  | none => exact ⟨none, rfl⟩
  | some t =>
    obtain ⟨d, hd⟩ := checkDuration_eq_ok.1 (whenSome_eq_ok.1 h t rfl)
    exact ⟨some d.protoText, by simp [meshDuration, Duration.protoDuration, hd]⟩

theorem exists_ok_retries {r : RetrySpec} (h : TrafficPolicySpec.validateRetries r = .ok ()) :
    ∃ written, retries r = .ok written := by
  obtain ⟨_, -, htimeout⟩ := bind_eq_ok.1 h
  obtain ⟨written, hwritten⟩ := exists_ok_meshDuration htimeout
  exact ⟨_, bind_eq_ok.2 ⟨written, hwritten, rfl⟩⟩

theorem exists_ok_faultDelay {d : DelaySpec} (h : TrafficPolicySpec.validateDelay d = .ok ()) :
    ∃ written, faultDelay d = .ok written := by
  obtain ⟨_, hdelay, -⟩ := bind_eq_ok.1 h
  obtain ⟨span, hspan⟩ := checkDuration_eq_ok.1 hdelay
  have hread : Duration.protoDuration d.delay = .ok (some span.protoText) := by
    simp [Duration.protoDuration, hspan]
  exact ⟨_, bind_eq_ok.2 ⟨_, hread, rfl⟩⟩

theorem exists_ok_fault {f : FaultSpec} (h : TrafficPolicySpec.validateFault f = .ok ()) :
    ∃ written, fault f = .ok written := by
  obtain ⟨_, hdelay, -⟩ := bind_eq_ok.1 h
  unfold fault
  cases hf : f.delay with
  | none => exact ⟨_, rfl⟩
  | some d =>
    obtain ⟨written, hwritten⟩ := exists_ok_faultDelay (whenSome_eq_ok.1 hdelay d hf)
    exact ⟨_, bind_eq_ok.2 ⟨written, hwritten, rfl⟩⟩

theorem exists_ok_outlierDetection {o : OutlierSpec}
    (h : TrafficPolicySpec.validateOutlier o = .ok ()) :
    ∃ written, outlierDetection o = .ok written := by
  obtain ⟨_, -, h⟩ := bind_eq_ok.1 h
  obtain ⟨_, hinterval, hejection⟩ := bind_eq_ok.1 h
  obtain ⟨interval, hinterval⟩ := exists_ok_meshDuration hinterval
  obtain ⟨ejection, hejection⟩ := exists_ok_meshDuration hejection
  exact ⟨_, bind_eq_ok.2 ⟨interval, hinterval, bind_eq_ok.2 ⟨ejection, hejection, rfl⟩⟩⟩

/-- The parts of a policy that are checked one by one. -/
theorem validate_policy_eq_ok {p : TrafficPolicySpec} (h : p.validate = .ok ()) :
    whenSome p.timeout (checkDuration "spec.policy.timeout") = .ok () ∧
      (∀ r, p.retries = some r → TrafficPolicySpec.validateRetries r = .ok ()) ∧
      (∀ f, p.fault = some f → TrafficPolicySpec.validateFault f = .ok ()) ∧
      (∀ o, p.outlierDetection = some o → TrafficPolicySpec.validateOutlier o = .ok ()) := by
  obtain ⟨_, htimeout, h⟩ := bind_eq_ok.1 h
  obtain ⟨_, -, h⟩ := bind_eq_ok.1 h
  obtain ⟨_, hretries, h⟩ := bind_eq_ok.1 h
  obtain ⟨_, hfault, houtlier⟩ := bind_eq_ok.1 h
  exact ⟨htimeout, whenSome_eq_ok.1 hretries, whenSome_eq_ok.1 hfault, whenSome_eq_ok.1 houtlier⟩

/-- The settings of a policy, read one after the other. -/
theorem ofPolicy_some (p : TrafficPolicySpec) :
    RuleSettings.ofPolicy (some p) =
      meshDuration p.timeout >>= fun timeout =>
        (match p.retries with
          | some r => some <$> Desired.retries r
          | none => pure none) >>= fun retries =>
          (match p.fault with
            | some f => Desired.fault f
            | none => pure none) >>= fun fault => pure ⟨timeout, retries, fault⟩ := by
  rcases p with ⟨_, _, retries, fault, _⟩
  cases retries <;> cases fault <;> rfl

theorem exists_ok_ofPolicy {policy : Option TrafficPolicySpec}
    (h : ∀ p, policy = some p → p.validate = .ok ()) :
    ∃ settings, RuleSettings.ofPolicy policy = .ok settings := by
  cases policy with
  | none => exact ⟨{}, rfl⟩
  | some p =>
    obtain ⟨htimeout, hretries, hfault, -⟩ := validate_policy_eq_ok (h p rfl)
    rw [ofPolicy_some]
    refine exists_ok_bind (exists_ok_meshDuration htimeout) fun timeout =>
      exists_ok_bind ?_ fun retries => exists_ok_bind ?_ fun fault => ⟨_, rfl⟩
    · cases hr : p.retries with
      | none => exact ⟨none, rfl⟩
      | some r =>
        obtain ⟨written, hwritten⟩ := exists_ok_retries (hretries r hr)
        exact ⟨some written, map_eq_ok.2 ⟨written, hwritten, rfl⟩⟩
    · cases hf : p.fault with
      | none => exact ⟨none, rfl⟩
      | some f => exact exists_ok_fault (hfault f hf)

theorem exists_ok_trafficPolicy {policy : Option TrafficPolicySpec}
    (h : ∀ p, policy = some p → p.validate = .ok ()) :
    ∃ written, trafficPolicy policy = .ok written := by
  unfold trafficPolicy
  cases ho : policy.bind (·.outlierDetection) with
  | none => exact ⟨_, rfl⟩
  | some o =>
    obtain ⟨p, rfl, hp⟩ := Option.bind_eq_some_iff.1 ho
    obtain ⟨-, -, -, houtlier⟩ := validate_policy_eq_ok (h p rfl)
    obtain ⟨written, hwritten⟩ := exists_ok_outlierDetection (houtlier o hp)
    have hsome : some <$> outlierDetection o = .ok (some written) := map_eq_ok.2 ⟨_, hwritten, rfl⟩
    exact ⟨_, bind_eq_ok.2 ⟨_, hsome, rfl⟩⟩

variable {app : CompositeApp}

/-- An app with a version gets a service. -/
theorem service_of_ne_nil (hsome : app.spec.apps ≠ []) :
    service app = .present
      { metadata := app.childMetadata
        spec := some {
          type := some "ClusterIP"
          selector := some app.selector
          ports := some (servicePorts app)
          sessionAffinity := some "None" } } := by
  rw [service, List.isEmpty_eq_false_iff.2 hsome]
  rfl

theorem virtualService_of_ne_nil (hsome : app.spec.apps ≠ []) {settings : RuleSettings}
    (h : RuleSettings.ofPolicy app.spec.policy = .ok settings) :
    virtualService app =
      .ok (.present { metadata := app.childMetadata, spec := routes app settings }) := by
  rw [virtualService, List.isEmpty_eq_false_iff.2 hsome, h]
  rfl

theorem exists_virtualService (hvalid : app.validate = .ok ()) (hsome : app.spec.apps ≠ []) :
    ∃ settings, virtualService app =
      .ok (.present { metadata := app.childMetadata, spec := routes app settings }) := by
  obtain ⟨settings, hsettings⟩ := exists_ok_ofPolicy (CompositeApp.validate_eq_ok hvalid).1
  exact ⟨settings, virtualService_of_ne_nil hsome hsettings⟩

theorem destinationRule_of_ne_nil (hsome : app.spec.apps ≠ []) {policy : TrafficPolicy}
    (h : trafficPolicy app.spec.policy = .ok policy) :
    destinationRule app = .ok (.present
      { metadata := app.childMetadata
        spec := {
          host := app.serviceHost
          trafficPolicy := some policy
          subsets := app.spec.apps.map (subset app) } }) := by
  rw [destinationRule, List.isEmpty_eq_false_iff.2 hsome, h]
  rfl

theorem exists_destinationRule (hvalid : app.validate = .ok ()) (hsome : app.spec.apps ≠ []) :
    ∃ policy, destinationRule app = .ok (.present
      { metadata := app.childMetadata
        spec := {
          host := app.serviceHost
          trafficPolicy := some policy
          subsets := app.spec.apps.map (subset app) } }) := by
  obtain ⟨policy, hpolicy⟩ := exists_ok_trafficPolicy (CompositeApp.validate_eq_ok hvalid).1
  exact ⟨policy, destinationRule_of_ne_nil hsome hpolicy⟩

end Desired

/-- A spec that passes its checks always says what it wants. -/
theorem ChildKind.exists_ok_desired {app : CompositeApp} (h : app.validate = .ok ())
    (kind : ChildKind) (entry : Option VersionEntry) (observed : Option Child) :
    ∃ desired, kind.desired app entry observed = .ok desired := by
  have hpolicy := (CompositeApp.validate_eq_ok h).1
  cases kind with
  | deployment | service | autoscaler => exact ⟨_, rfl⟩
  | virtualService =>
    obtain ⟨settings, hsettings⟩ := Desired.exists_ok_ofPolicy hpolicy
    have hrouting : ∃ desired, Desired.virtualService app = .ok desired := by
      unfold Desired.virtualService
      split
      · exact ⟨.absent, rfl⟩
      · exact ⟨_, bind_eq_ok.2 ⟨settings, hsettings, rfl⟩⟩
    obtain ⟨desired, hdesired⟩ := hrouting
    exact ⟨_, map_eq_ok.2 ⟨desired, hdesired, rfl⟩⟩
  | destinationRule =>
    obtain ⟨written, hwritten⟩ := Desired.exists_ok_trafficPolicy hpolicy
    have hrule : ∃ desired, Desired.destinationRule app = .ok desired := by
      unfold Desired.destinationRule
      split
      · exact ⟨.absent, rfl⟩
      · exact ⟨_, bind_eq_ok.2 ⟨written, hwritten, rfl⟩⟩
    obtain ⟨desired, hdesired⟩ := hrule
    exact ⟨_, map_eq_ok.2 ⟨desired, hdesired, rfl⟩⟩

end CompositeApps
