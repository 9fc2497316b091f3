import CompositeApps.Proofs.App.Requirements
import CompositeApps.Proofs.Time.Overrun

/-!
Specs with a span that overruns the clock. The checks abort just if they come to such a span, and
what is made from a spec without a check aborts only where a span of its policy is one.
-/

namespace CompositeApps

/-- Of all requirements, only one is the first that is not met. -/
theorem Requirement.first_unmet_unique {before before' after after' : List Requirement}
    {r r' : Requirement} (hsplit : before ++ r :: after = before' ++ r' :: after')
    (hbefore : ∀ b ∈ before, b.Holds) (hr : ¬r.Holds) (hbefore' : ∀ b ∈ before', b.Holds)
    (hr' : ¬r'.Holds) : r = r' := by
  rcases List.append_eq_append_iff.1 hsplit with ⟨more, hmore, hrest⟩ | ⟨more, hmore, hrest⟩
  · cases more with
    | nil => exact (List.cons.inj hrest).1
    | cons first more =>
      obtain ⟨rfl, -⟩ := List.cons.inj hrest
      exact absurd (hbefore' r (by simp [hmore])) hr
  · cases more with
    | nil => exact (List.cons.inj hrest).1.symm
    | cons first more =>
      obtain ⟨rfl, -⟩ := List.cons.inj hrest
      exact absurd (hbefore r' (by simp [hmore])) hr'

theorem Requirement.not_holds_of_overruns (path : String) {text : String}
    (h : Duration.Overruns text) :
    ¬(Requirement.span path text).Holds := by
  rintro ⟨d, hd⟩
  rw [Duration.parse_eq_aborted.2 ⟨h, rfl⟩] at hd
  cases hd

namespace CompositeApp

/-- A span that overruns the clock is asked of the app, and all that is asked before it is met. -/
def Overruns (app : CompositeApp) : Prop :=
  ∃ before path text after, app.requirements = before ++ .span path text :: after ∧
    (∀ b ∈ before, b.Holds) ∧ Duration.Overruns text

variable {app : CompositeApp} {cause : Abort}

/-- The checks abort just if they come to a span that overruns the clock. -/
theorem validate_eq_aborted :
    app.validate = .error (.aborted cause) ↔ app.Overruns ∧ cause = Duration.overrun := by
  have hdecides := app.decides_validate
  constructor
  · intro h
    rw [h] at hdecides
    obtain ⟨before, r, after, hsplit, hbefore, hr⟩ := hdecides
    cases r with
    | condition path holds => exact hr.elim
    | span path text =>
      obtain ⟨hover, hcause⟩ := Duration.parse_eq_aborted.1 hr
      exact ⟨⟨before, path, text, after, hsplit, hbefore, hover⟩, hcause⟩
  · rintro ⟨⟨before, path, text, after, hsplit, hbefore, hover⟩, rfl⟩
    have hunmet := Requirement.not_holds_of_overruns path hover
    cases hverdict : app.validate with
    | ok _ =>
      have hall := hdecides.eq_ok_iff.1 hverdict
      exact absurd (hall _ (by simp [hsplit])) hunmet
    | error refusal =>
      rw [hverdict] at hdecides
      obtain ⟨before', r, after', hsplit', hbefore', hr⟩ := hdecides
      obtain rfl := Requirement.first_unmet_unique (hsplit.symm.trans hsplit') hbefore hunmet
        hbefore' (r.not_holds_of_refuses hr)
      have hparse := Duration.parse_eq_aborted.2 ⟨hover, rfl⟩
      cases refusal with
      | invalid e =>
        obtain ⟨⟨e, he⟩, -⟩ := hr
        rw [hparse] at he
        cases he
      | aborted abort =>
        have habort : Duration.parse text = .error (.aborted abort) := hr
        rw [hparse] at habort
        cases habort
        rfl

end CompositeApp

namespace Desired

variable {cause : Abort}

theorem protoDuration_eq_error {text : String} :
    Duration.protoDuration text = .error cause ↔
      Duration.Overruns text ∧ cause = Duration.overrun := by
  rw [← Duration.parse_eq_aborted, Duration.protoDuration]
  cases Duration.parse text with
  | ok d => simp
  | error failure => cases failure <;> simp

theorem meshDuration_eq_error {text : Option String} :
    meshDuration text = .error cause ↔
      ∃ t, text = some t ∧ Duration.Overruns t ∧ cause = Duration.overrun := by
  cases text with
  | none => simp [meshDuration]
  | some t => simp [meshDuration, protoDuration_eq_error]

def OverrunAmong (requirements : List Requirement) (cause : Abort) : Prop :=
  cause = Duration.overrun ∧
    ∃ path text, .span path text ∈ requirements ∧ Duration.Overruns text

open TrafficPolicySpec

theorem overrunAmong_of_retries {r : RetrySpec} (h : retries r = .error cause) :
    OverrunAmong (retryRequirements r) cause := by
  rcases bind_eq_error.1 h with h | ⟨_, _, h⟩
  · obtain ⟨t, ht, hover, hcause⟩ := meshDuration_eq_error.1 h
    exact ⟨hcause, "spec.policy.retries.perTryTimeout", t, by simp [retryRequirements, ht], hover⟩
  · cases h

theorem overrunAmong_of_fault {f : FaultSpec} (h : fault f = .error cause) :
    OverrunAmong (faultRequirements f) cause := by
  unfold fault at h
  cases hdelay : f.delay with
  | none =>
    rw [hdelay] at h
    cases h
  | some d =>
    rw [hdelay] at h
    rcases bind_eq_error.1 h with h | ⟨_, _, h⟩
    · rcases bind_eq_error.1 h with h | ⟨_, _, h⟩
      · obtain ⟨hover, hcause⟩ := protoDuration_eq_error.1 h
        exact ⟨hcause, "spec.policy.fault.delay.delay", d.delay,
          by simp [faultRequirements, delayRequirements, hdelay], hover⟩
      · cases h
    · cases h

theorem overrunAmong_of_outlierDetection {o : OutlierSpec}
    (h : outlierDetection o = .error cause) : OverrunAmong (outlierRequirements o) cause := by
  rcases bind_eq_error.1 h with h | ⟨_, _, h⟩
  · obtain ⟨t, ht, hover, hcause⟩ := meshDuration_eq_error.1 h
    exact ⟨hcause, "spec.policy.outlierDetection.interval", t,
      by simp [outlierRequirements, ht], hover⟩
  rcases bind_eq_error.1 h with h | ⟨_, _, h⟩
  · obtain ⟨t, ht, hover, hcause⟩ := meshDuration_eq_error.1 h
    exact ⟨hcause, "spec.policy.outlierDetection.ejectionTime", t,
      by simp [outlierRequirements, ht], hover⟩
  · cases h

theorem OverrunAmong.mono {some all : List Requirement} (h : OverrunAmong some cause)
    (hsub : some ⊆ all) : OverrunAmong all cause := by
  obtain ⟨hcause, path, text, hmem, hover⟩ := h
  exact ⟨hcause, path, text, hsub hmem, hover⟩

theorem overrunAmong_of_ofPolicy {p : TrafficPolicySpec}
    (h : RuleSettings.ofPolicy (some p) = .error cause) : OverrunAmong p.requirements cause := by
  rw [ofPolicy_some] at h
  rcases bind_eq_error.1 h with h | ⟨_, _, h⟩
  · obtain ⟨t, ht, hover, hcause⟩ := meshDuration_eq_error.1 h
    exact ⟨hcause, "spec.policy.timeout", t, by simp [TrafficPolicySpec.requirements, ht], hover⟩
  rcases bind_eq_error.1 h with h | ⟨_, _, h⟩
  · cases hr : p.retries with
    | none =>
      rw [hr] at h
      cases h
    | some r =>
      rw [hr] at h
      refine (overrunAmong_of_retries (map_eq_error.1 h)).mono fun x hx => ?_
      simp [TrafficPolicySpec.requirements, hr, hx]
  rcases bind_eq_error.1 h with h | ⟨_, _, h⟩
  · cases hf : p.fault with
    | none =>
      rw [hf] at h
      cases h
    | some f =>
      rw [hf] at h
      refine (overrunAmong_of_fault h).mono fun x hx => ?_
      simp [TrafficPolicySpec.requirements, hf, hx]
  · cases h

theorem overrunAmong_of_trafficPolicy {p : TrafficPolicySpec}
    (h : trafficPolicy (some p) = .error cause) : OverrunAmong p.requirements cause := by
  unfold trafficPolicy at h
  cases ho : (some p).bind (·.outlierDetection) with
  | none =>
    rw [ho] at h
    cases h
  | some o =>
    rw [ho] at h
    rcases bind_eq_error.1 h with h | ⟨_, _, h⟩
    · refine (overrunAmong_of_outlierDetection (map_eq_error.1 h)).mono fun x hx => ?_
      have hsome : p.outlierDetection = some o := ho
      simp [TrafficPolicySpec.requirements, hsome, hx]
    · cases h

end Desired

/-- What is made from an app, valid or not, aborts only where a span of its policy overruns the
clock. -/
theorem ChildKind.overrunAmong_of_desired {kind : ChildKind} {app : CompositeApp}
    {entry : Option VersionEntry} {observed : Option Child} {cause : Abort}
    (h : kind.desired app entry observed = .error cause) :
    ∃ p, app.spec.policy = some p ∧ Desired.OverrunAmong p.requirements cause := by
  cases kind with
  | deployment | service | autoscaler => cases h
  | virtualService =>
    have hmade := map_eq_error.1 h
    unfold Desired.virtualService at hmade
    split at hmade
    · cases hmade
    rcases bind_eq_error.1 hmade with hsettings | ⟨_, _, hmade⟩
    · cases hpolicy : app.spec.policy with
      | none =>
        rw [hpolicy] at hsettings
        cases hsettings
      | some p =>
        rw [hpolicy] at hsettings
        exact ⟨p, rfl, Desired.overrunAmong_of_ofPolicy hsettings⟩
    · cases hmade
  | destinationRule =>
    have hmade := map_eq_error.1 h
    unfold Desired.destinationRule at hmade
    split at hmade
    · cases hmade
    rcases bind_eq_error.1 hmade with hsettings | ⟨_, _, hmade⟩
    · cases hpolicy : app.spec.policy with
      | none =>
        rw [hpolicy] at hsettings
        cases hsettings
      | some p =>
        rw [hpolicy] at hsettings
        exact ⟨p, rfl, Desired.overrunAmong_of_trafficPolicy hsettings⟩
    · cases hmade

end CompositeApps
