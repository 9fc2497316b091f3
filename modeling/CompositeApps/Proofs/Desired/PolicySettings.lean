import Mathlib.Data.Option.Defs
import CompositeApps.Proofs.Desired.Shares
import CompositeApps.Proofs.Time.DecimalSeconds

/-!
What becomes of the settings of a policy. A text that cannot be read would be left out without a
word where objects are made, but the checks read the same texts; so of an app that passes them every
setting is carried over, and every span of time with its exact length.
-/

namespace CompositeApps

namespace Desired

open Duration

structure CarriesRetries (given : RetrySpec) (made : HttpRetry) : Prop where
  attempts : made.attempts = given.attempts
  perTryTimeout : Option.Rel Renders given.perTryTimeout made.perTryTimeout

structure CarriesDelay (given : DelaySpec) (made : FaultDelay) : Prop where
  delay : Renders given.delay made.fixedDelay
  percent : made.percentage = some ⟨given.percent⟩

structure CarriesAbort (given : AbortSpec) (made : FaultAbort) : Prop where
  httpStatus : made.httpStatus = given.httpStatus
  percent : made.percentage = some ⟨given.percent⟩

structure CarriesFault (given : Option FaultSpec) (made : Option HttpFault) : Prop where
  delay : Option.Rel CarriesDelay (given.bind (·.delay)) (made.bind (·.delay))
  abort : Option.Rel CarriesAbort (given.bind (·.abort)) (made.bind (·.abort))
  some_iff : made.isSome = true ↔
    (given.bind (·.delay)).isSome = true ∨ (given.bind (·.abort)).isSome = true

/-- Each setting of a policy is there just if it is given, and says the same. -/
structure RuleSettings.Carries (settings : RuleSettings) (policy : Option TrafficPolicySpec) :
    Prop where
  timeout : Option.Rel Renders (policy.bind (·.timeout)) settings.timeout
  retries : Option.Rel CarriesRetries (policy.bind (·.retries)) settings.retries
  fault : CarriesFault (policy.bind (·.fault)) settings.fault

structure CarriesOutliers (given : OutlierSpec) (made : OutlierDetection) : Prop where
  consecutiveErrors : made.consecutive5xxErrors = some given.consecutiveErrors
  interval : Option.Rel Renders given.interval made.interval
  ejectionTime : Option.Rel Renders given.ejectionTime made.baseEjectionTime

def settingsOf (r : HttpRoute) : RuleSettings :=
  ⟨r.timeout, r.retries, r.fault⟩

theorem settingsOf_of_mem_routes {app : CompositeApp} {settings : RuleSettings} {r : HttpRoute}
    (hr : r ∈ (routes app settings).http) : settingsOf r = settings := by
  unfold routes at hr
  split at hr
  · obtain ⟨e, -, rfl⟩ := List.mem_map.1 hr
    rfl
  · rcases List.mem_append.1 hr with hpinned | hlast
    · obtain ⟨e, -, rfl⟩ := List.mem_map.1 hpinned
      rfl
    · obtain rfl := List.mem_singleton.1 hlast
      rfl

/-- An app with a version has a rule for it. -/
theorem routes_ne_nil {app : CompositeApp} (hsome : app.spec.apps ≠ []) (settings : RuleSettings) :
    (routes app settings).http ≠ [] := by
  unfold routes
  split
  · exact List.map_eq_nil_iff.not.2 hsome
  · exact List.append_ne_nil_of_right_ne_nil _ (List.cons_ne_nil _ _)

theorem renders_of_protoDuration {path text : String} {made : Option String}
    (hcheck : checkDuration path text = .ok ()) (hmade : protoDuration text = .ok made) :
    ∃ rendered, made = some rendered ∧ Renders text rendered := by
  obtain ⟨rendered, hrendered, hrenders⟩ := exists_renders (checkDuration_eq_ok.1 hcheck)
  rw [hrendered] at hmade
  exact ⟨rendered, (Except.ok.inj hmade).symm, hrenders⟩

theorem renders_of_meshDuration {path : String} {text made : Option String}
    (hcheck : Check.whenSome text (checkDuration path) = .ok ())
    (hmade : meshDuration text = .ok made) : Option.Rel Renders text made := by
  cases text with
  | none =>
    obtain rfl := Except.ok.inj hmade
    exact .none
  | some t =>
    obtain ⟨rendered, rfl, hrenders⟩ := renders_of_protoDuration hcheck hmade
    exact .some hrenders

theorem carriesRetries_of_retries {r : RetrySpec} {made : HttpRetry}
    (hcheck : TrafficPolicySpec.validateRetries r = .ok ()) (hmade : retries r = .ok made) :
    CarriesRetries r made := by
  obtain ⟨_, -, htimeout⟩ := bind_eq_ok.1 hcheck
  obtain ⟨timeout, hread, hmade⟩ := bind_eq_ok.1 hmade
  obtain rfl := Except.ok.inj hmade
  exact ⟨rfl, renders_of_meshDuration htimeout hread⟩

theorem carriesDelay_of_faultDelay {d : DelaySpec} {made : Option FaultDelay}
    (hcheck : TrafficPolicySpec.validateDelay d = .ok ()) (hmade : faultDelay d = .ok made) :
    ∃ delay, made = some delay ∧ CarriesDelay d delay := by
  obtain ⟨_, hspan, -⟩ := bind_eq_ok.1 hcheck
  obtain ⟨read, hread, hmade⟩ := bind_eq_ok.1 hmade
  obtain ⟨rendered, rfl, hrenders⟩ := renders_of_protoDuration hspan hread
  obtain rfl := Except.ok.inj hmade
  exact ⟨_, rfl, hrenders, rfl⟩

/-- A fault with a delay and an abort as given; none if there is neither. -/
theorem carriesFault_of_delay {f : FaultSpec} {delay : Option FaultDelay}
    (hdelay : Option.Rel CarriesDelay f.delay delay) :
    CarriesFault (some f) (if delay.isSome || (f.abort.map faultAbort).isSome then
      some ⟨f.abort.map faultAbort, delay⟩ else none) := by
  rcases f with ⟨given, abort⟩
  have habort : Option.Rel CarriesAbort abort (abort.map faultAbort) := by
    cases abort with
    | none => exact .none
    | some a => exact .some ⟨rfl, rfl⟩
  cases hdelay with
  | none =>
    cases abort with
    | none => exact ⟨.none, .none, by simp⟩
    | some a => exact ⟨.none, habort, by simp⟩
  | some hcarries => exact ⟨.some hcarries, habort, by simp⟩

theorem carriesFault_of_fault {f : FaultSpec} {made : Option HttpFault}
    (hcheck : TrafficPolicySpec.validateFault f = .ok ()) (hmade : fault f = .ok made) :
    CarriesFault (some f) made := by
  obtain ⟨_, hcheck, -⟩ := bind_eq_ok.1 hcheck
  unfold fault at hmade
  cases hf : f.delay with
  | none =>
    rw [hf] at hmade
    obtain rfl := Except.ok.inj hmade
    exact carriesFault_of_delay (hf ▸ .none)
  | some d =>
    rw [hf] at hmade
    obtain ⟨read, hread, hmade⟩ := bind_eq_ok.1 hmade
    obtain ⟨delay, rfl, hcarries⟩ :=
      carriesDelay_of_faultDelay (Check.whenSome_eq_ok.1 hcheck d hf) hread
    obtain rfl := Except.ok.inj hmade
    exact carriesFault_of_delay (hf ▸ .some hcarries)

theorem carries_of_ofPolicy {policy : Option TrafficPolicySpec} {settings : RuleSettings}
    (hcheck : ∀ p, policy = some p → p.validate = .ok ())
    (hmade : RuleSettings.ofPolicy policy = .ok settings) : settings.Carries policy := by
  cases policy with
  | none =>
    obtain rfl := Except.ok.inj hmade
    exact ⟨.none, .none, ⟨.none, .none, by simp⟩⟩
  | some p =>
    obtain ⟨htimeout, hretries, hfault, -⟩ := validate_policy_eq_ok (hcheck p rfl)
    rw [ofPolicy_some] at hmade
    obtain ⟨timeout, hreadTimeout, hmade⟩ := bind_eq_ok.1 hmade
    obtain ⟨retries, hreadRetries, hmade⟩ := bind_eq_ok.1 hmade
    obtain ⟨fault, hreadFault, hmade⟩ := bind_eq_ok.1 hmade
    obtain rfl := Except.ok.inj hmade
    refine ⟨renders_of_meshDuration htimeout hreadTimeout, ?_, ?_⟩
    · rw [Option.bind_some]
      cases hr : p.retries with
      | none =>
        rw [hr] at hreadRetries
        obtain rfl := Except.ok.inj hreadRetries
        exact .none
      | some r =>
        rw [hr] at hreadRetries
        obtain ⟨made, hread, rfl⟩ := map_eq_ok.1 hreadRetries
        exact .some (carriesRetries_of_retries (hretries r hr) hread)
    · rw [Option.bind_some]
      cases hf : p.fault with
      | none =>
        rw [hf] at hreadFault
        obtain rfl := Except.ok.inj hreadFault
        exact ⟨.none, .none, by simp⟩
      | some f =>
        rw [hf] at hreadFault
        exact carriesFault_of_fault (hfault f hf) hreadFault

theorem carriesOutliers_of_outlierDetection {o : OutlierSpec} {made : OutlierDetection}
    (hcheck : TrafficPolicySpec.validateOutlier o = .ok ())
    (hmade : outlierDetection o = .ok made) : CarriesOutliers o made := by
  obtain ⟨_, -, hcheck⟩ := bind_eq_ok.1 hcheck
  obtain ⟨_, hinterval, hejection⟩ := bind_eq_ok.1 hcheck
  obtain ⟨interval, hreadInterval, hmade⟩ := bind_eq_ok.1 hmade
  obtain ⟨ejection, hreadEjection, hmade⟩ := bind_eq_ok.1 hmade
  obtain rfl := Except.ok.inj hmade
  exact ⟨rfl, renders_of_meshDuration hinterval hreadInterval,
    renders_of_meshDuration hejection hreadEjection⟩

theorem carriesOutliers_of_trafficPolicy {policy : Option TrafficPolicySpec}
    {made : TrafficPolicy} (hcheck : ∀ p, policy = some p → p.validate = .ok ())
    (hmade : trafficPolicy policy = .ok made) :
    Option.Rel CarriesOutliers (policy.bind (·.outlierDetection)) made.outlierDetection := by
  unfold trafficPolicy at hmade
  cases ho : policy.bind (·.outlierDetection) with
  | none =>
    rw [ho] at hmade
    obtain rfl := Except.ok.inj hmade
    exact .none
  | some o =>
    rw [ho] at hmade
    obtain ⟨p, hp, houtliers⟩ := Option.bind_eq_some_iff.1 ho
    obtain ⟨-, -, -, houtlier⟩ := validate_policy_eq_ok (hcheck p hp)
    obtain ⟨read, hread, hmade⟩ := bind_eq_ok.1 hmade
    obtain ⟨outliers, houtliersRead, rfl⟩ := map_eq_ok.1 hread
    obtain rfl := Except.ok.inj hmade
    exact .some (carriesOutliers_of_outlierDetection (houtlier o houtliers) houtliersRead)

/-- Of an app that passes its checks and has a version, the routing has rules, each of which carries
all settings of the policy, and the limits on connections carry how failing pods are put aside. A
setting is there just if it is given, and a span of time that is made denotes exactly the
nanoseconds of the one that was written. -/
theorem policy_carried {app : CompositeApp} (hvalid : app.validate = .ok ())
    (hsome : app.spec.apps ≠ []) :
    (∃ made, virtualService app = .ok (.present made) ∧ made.spec.http ≠ [] ∧
      ∀ r ∈ made.spec.http, (settingsOf r).Carries app.spec.policy) ∧
    ∃ made, destinationRule app = .ok (.present made) ∧
      Option.Rel CarriesOutliers (app.spec.policy.bind (·.outlierDetection))
        (made.spec.trafficPolicy.bind (·.outlierDetection)) := by
  have hpolicy := (CompositeApp.validate_eq_ok hvalid).1
  constructor
  · obtain ⟨settings, hsettings⟩ := exists_ok_ofPolicy hpolicy
    refine ⟨_, virtualService_of_ne_nil hsome hsettings, routes_ne_nil hsome settings,
      fun r hr => ?_⟩
    rw [settingsOf_of_mem_routes hr]
    exact carries_of_ofPolicy hpolicy hsettings
  · obtain ⟨policy, hread⟩ := exists_ok_trafficPolicy hpolicy
    exact ⟨_, destinationRule_of_ne_nil hsome hread,
      carriesOutliers_of_trafficPolicy hpolicy hread⟩

end Desired

def Example.patientStorefront : CompositeApp :=
  { storefront with spec := { storefront.spec with
      policy := some {
        timeout := some "1m 30s"
        fault := some { delay := some { percent := .ofNat 1, delay := "250ms" } }
        outlierDetection := some { consecutiveErrors := 5, interval := some "2.5s" } } } }

theorem Desired.policy_carried_example :
    Example.patientStorefront.validate = .ok () ∧ Example.patientStorefront.spec.apps ≠ [] ∧
    ((∃ made, virtualService Example.patientStorefront = .ok (.present made) ∧
      made.spec.http ≠ [] ∧
      ∀ r ∈ made.spec.http, (settingsOf r).Carries Example.patientStorefront.spec.policy) ∧
    ∃ made, destinationRule Example.patientStorefront = .ok (.present made) ∧
      Option.Rel CarriesOutliers
        (Example.patientStorefront.spec.policy.bind (·.outlierDetection))
        (made.spec.trafficPolicy.bind (·.outlierDetection))) ∧
    Duration.Renders "1m 30s" "90s" := by
  have hvalid : Example.patientStorefront.validate = .ok () := by rfl
  have hsome : Example.patientStorefront.spec.apps ≠ [] := by decide
  have htimeout : Duration.Renders "1m 30s" "90s" := ⟨_, rfl, by rfl⟩
  exact ⟨hvalid, hsome, policy_carried hvalid hsome, htimeout⟩

end CompositeApps
