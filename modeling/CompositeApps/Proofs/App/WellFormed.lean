import CompositeApps.Proofs.App.Requirements

/-!
Well-formed specs, described part by part and without an order, and the verdict of the checks on any
spec: they pass exactly the well-formed ones, and an error names an element that is at fault.
-/

namespace CompositeApps

structure VersionEntry.WellFormed (e : VersionEntry) : Prop where
  version : IsDnsLabel e.version
  image : HasInk e.image
  replicas : e.minReplicas = -1 ∨ (0 < e.minReplicas ∧ e.minReplicas ≤ e.maxReplicas)
  port : 1 ≤ e.port ∧ e.port ≤ 65535

/-- The weights and the routes of a gateway are those of versions that the app has, and the weights
make a hundred. -/
structure GatewaySpec.WellFormed (versions : List String) (g : GatewaySpec) : Prop where
  some_host : g.hosts ≠ []
  hosts : ∀ host ∈ g.hosts, HasInk host
  some_weight : g.weights ≠ ∅
  declared : ∀ version ∈ g.weights, version ∈ versions
  nonneg : ∀ (version : String) (weight : Int), g.weights[version]? = some weight → 0 ≤ weight
  total : (g.weights.toList.map (·.2)).sum = 100
  routes : ∀ version ∈ g.routes, version ∈ versions

structure TrafficPolicySpec.WellFormed (p : TrafficPolicySpec) : Prop where
  timeout : ∀ text, p.timeout = some text → IsSpan text
  maxRequests : ∀ n, p.maxRequests = some n → 0 < n
  attempts : ∀ r, p.retries = some r → 0 < r.attempts
  perTryTimeout : ∀ r text, p.retries = some r → r.perTryTimeout = some text → IsSpan text
  delay : ∀ f d, p.fault = some f → f.delay = some d → IsSpan d.delay ∧ IsPercent d.percent
  abort : ∀ f a, p.fault = some f → f.abort = some a →
    IsPercent a.percent ∧ 100 ≤ a.httpStatus ∧ a.httpStatus ≤ 599
  consecutiveErrors : ∀ o, p.outlierDetection = some o → 0 < o.consecutiveErrors
  interval : ∀ o text, p.outlierDetection = some o → o.interval = some text → IsSpan text
  ejectionTime : ∀ o text, p.outlierDetection = some o → o.ejectionTime = some text → IsSpan text

structure CompositeApp.WellFormed (app : CompositeApp) : Prop where
  name : IsDnsLabel app.name
  distinct : (app.spec.apps.map (·.version)).Nodup
  entries : ∀ e ∈ app.spec.apps, e.WellFormed
  gateway : ∀ g, app.spec.gateway = some g → g.WellFormed (app.spec.apps.map (·.version))
  policy : ∀ p, app.spec.policy = some p → p.WellFormed

theorem IsDnsLabel.ne_empty {s : String} (h : IsDnsLabel s) : s ≠ "" := by
  rintro rfl
  exact absurd h.pos (by decide)

theorem VersionEntry.wellFormed_iff {path : String} {e : VersionEntry} :
    e.WellFormed ↔ ∀ r ∈ e.requirements path, r.Holds := by
  simp only [requirements, List.forall_mem_cons, Requirement.holds_condition, List.not_mem_nil,
    IsEmpty.forall_iff, implies_true, and_true]
  constructor
  · rintro ⟨hversion, himage, hreplicas, hport⟩
    refine ⟨hversion.ne_empty, hversion, himage, ?_, ?_, hport⟩
    · exact hreplicas.imp_right And.left
    · exact hreplicas.imp_right And.right
  · rintro ⟨-, hversion, himage, hmin, hmax, hport⟩
    refine ⟨hversion, himage, ?_, hport⟩
    omega

theorem GatewaySpec.wellFormed_iff {app : CompositeApp} {g : GatewaySpec} :
    g.WellFormed (app.spec.apps.map (·.version)) ↔ ∀ r ∈ g.requirements app, r.Holds := by
  simp only [requirements, weightRequirements, List.forall_mem_cons, List.forall_mem_append,
    List.forall_mem_flatMap, Requirement.holds_condition, Prod.forall, List.not_mem_nil,
    IsEmpty.forall_iff, implies_true, and_true, Std.ExtTreeMap.mem_toList_iff_getElem?_eq_some,
    Std.ExtTreeMap.mem_keys]
  constructor
  · intro h
    refine ⟨⟨h.some_host, h.hosts⟩, h.some_weight, ?_, h.total, h.routes⟩
    intro version weight hweight
    have hmem : version ∈ g.weights := Std.ExtTreeMap.mem_iff_isSome_getElem?.2 (by simp [hweight])
    exact ⟨h.declared version hmem, h.nonneg version weight hweight⟩
  · rintro ⟨⟨hsome, hhosts⟩, hweight, hweights, htotal, hroutes⟩
    refine ⟨hsome, hhosts, hweight, ?_, ?_, htotal, hroutes⟩
    · intro version hversion
      obtain ⟨weight, hweight⟩ :=
        Option.isSome_iff_exists.1 (Std.ExtTreeMap.mem_iff_isSome_getElem?.1 hversion)
      exact (hweights version weight hweight).1
    · intro version weight hweight
      exact (hweights version weight hweight).2

theorem TrafficPolicySpec.wellFormed_iff {p : TrafficPolicySpec} :
    p.WellFormed ↔ ∀ r ∈ p.requirements, r.Holds := by
  simp only [requirements, retryRequirements, faultRequirements, delayRequirements,
    abortRequirements, outlierRequirements, List.forall_mem_cons, List.forall_mem_append,
    List.forall_mem_flatMap, Option.mem_toList, Requirement.holds_condition,
    Requirement.holds_span, List.not_mem_nil, IsEmpty.forall_iff, implies_true, and_true]
  constructor
  · intro h
    refine ⟨h.timeout, h.maxRequests, ?_, ?_, ?_⟩
    · intro r hr
      exact ⟨h.attempts r hr, fun text => h.perTryTimeout r text hr⟩
    · intro f hf
      exact ⟨fun d => h.delay f d hf, fun a => h.abort f a hf⟩
    · intro o ho
      exact ⟨h.consecutiveErrors o ho, fun text => h.interval o text ho,
        fun text => h.ejectionTime o text ho⟩
  · rintro ⟨htimeout, hmax, hretries, hfault, houtlier⟩
    refine ⟨htimeout, hmax, fun r hr => (hretries r hr).1, fun r text hr => (hretries r hr).2 text,
      fun f d hf => (hfault f hf).1 d, fun f a hf => (hfault f hf).2 a,
      fun o ho => (houtlier o ho).1, fun o text ho => (houtlier o ho).2.1 text,
      fun o text ho => (houtlier o ho).2.2 text⟩

namespace CompositeApp

/-- Versions are pairwise different if none of them is among those before it. -/
theorem nodup_versions_iff {entries : List VersionEntry} :
    (entries.map (·.version)).Nodup ↔
      ∀ e i, (e, i) ∈ entries.zipIdx → e.version ∉ (entries.take i).map (·.version) := by
  unfold List.Nodup
  rw [List.pairwise_map, List.pairwise_iff_getElem]
  constructor
  · intro hdistinct e i hentry htaken
    obtain ⟨hi, rfl⟩ := List.getElem?_eq_some_iff.1 (List.mk_mem_zipIdx_iff_getElem?.1 hentry)
    obtain ⟨twin, htwin, hversion⟩ := List.mem_map.1 htaken
    obtain ⟨j, hj, rfl⟩ := List.mem_take_iff_getElem.1 htwin
    exact hdistinct j i (by omega) hi (by omega) hversion
  · intro hfresh i j hi hj hij hversion
    have hentry : (entries[j], j) ∈ entries.zipIdx :=
      List.mk_mem_zipIdx_iff_getElem?.2 (List.getElem?_eq_getElem hj)
    have htaken : entries[i] ∈ entries.take j :=
      List.mem_take_iff_getElem.2 ⟨i, by omega, rfl⟩
    exact hfresh _ j hentry (List.mem_map.2 ⟨_, htaken, hversion⟩)

/-- A spec is well-formed if it meets all its requirements. -/
theorem wellFormed_iff {app : CompositeApp} :
    app.WellFormed ↔ ∀ r ∈ app.requirements, r.Holds := by
  simp only [requirements, entryRequirements, List.forall_mem_cons, List.forall_mem_append,
    List.forall_mem_flatMap, Option.mem_toList, Requirement.holds_condition, Prod.forall,
    List.not_mem_nil, IsEmpty.forall_iff, implies_true, and_true,
    ← TrafficPolicySpec.wellFormed_iff, ← GatewaySpec.wellFormed_iff,
    ← VersionEntry.wellFormed_iff]
  constructor
  · intro h
    refine ⟨h.name, h.policy, h.gateway, ?_⟩
    intro e i hentry
    exact ⟨h.entries e (List.fst_mem_of_mem_zipIdx hentry),
      nodup_versions_iff.1 h.distinct e i hentry⟩
  · rintro ⟨hname, hpolicy, hgateway, hentries⟩
    refine ⟨hname, ?_, ?_, hgateway, hpolicy⟩
    · exact nodup_versions_iff.2 fun e i hentry => (hentries e i hentry).2
    · intro e he
      obtain ⟨i, hi, rfl⟩ := List.mem_iff_getElem.1 he
      have hentry : (app.spec.apps[i], i) ∈ app.spec.apps.zipIdx :=
        List.mk_mem_zipIdx_iff_getElem?.2 (List.getElem?_eq_getElem hi)
      exact (hentries _ i hentry).1

theorem wellFormed_of_validate {app : CompositeApp} (h : app.validate = .ok ()) :
    app.WellFormed :=
  wellFormed_iff.2 (app.decides_validate.eq_ok_iff.1 h)

/-- The checks pass exactly the well-formed specs. An error has the path of the first requirement
that is not met, and a check aborts only where reading a span that is asked for does. -/
theorem validate_verdict (app : CompositeApp) :
    (app.validate = .ok () ↔ app.WellFormed) ∧
      (∀ cause, app.validate = .error (.invalid cause) →
        ∃ before r after, app.requirements = before ++ r :: after ∧ (∀ b ∈ before, b.Holds) ∧
          ¬r.Holds ∧ r.path = cause.path) ∧
      (∀ abort, app.validate = .error (.aborted abort) →
        ∃ path text, .span path text ∈ app.requirements ∧
          Duration.parse text = .error (.aborted abort)) := by
  have hdecides := app.decides_validate
  refine ⟨hdecides.eq_ok_iff.trans wellFormed_iff.symm, ?_, ?_⟩
  · intro cause hcause
    rw [hcause] at hdecides
    obtain ⟨before, r, after, hsplit, hbefore, hr⟩ := hdecides
    exact ⟨before, r, after, hsplit, hbefore, r.not_holds_of_refuses hr, r.path_eq_of_refuses hr⟩
  · intro abort habort
    rw [habort] at hdecides
    obtain ⟨before, r, after, hsplit, -, hr⟩ := hdecides
    cases r with
    | condition path holds => exact hr.elim
    | span path text => exact ⟨path, text, by simp [hsplit], hr⟩

end CompositeApp

end CompositeApps
