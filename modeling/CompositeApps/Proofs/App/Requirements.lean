import CompositeApps.Proofs.Number.Value
import CompositeApps.Proofs.App.Validation

/-!
What is asked of a spec, one requirement after the other in the order of the checks, each with the
path of the element that it is asked of. A check goes through its requirements and stops at the
first that is not met, so its verdict says which one that is.
-/

namespace CompositeApps

def IsSpan (text : String) : Prop :=
  ∃ d, Duration.parse text = .ok d

/-- One thing asked of a spec: that a condition holds, or that a text is a span of time. -/
inductive Requirement where
  | condition (path : String) (holds : Prop)
  | span (path text : String)

namespace Requirement

def path : Requirement → String
  | condition path _ => path
  | span path _ => path

def Holds : Requirement → Prop
  | condition _ holds => holds
  | span _ text => IsSpan text

@[simp] theorem holds_condition {path : String} {holds : Prop} :
    (condition path holds).Holds ↔ holds :=
  Iff.rfl

@[simp] theorem holds_span {path text : String} : (span path text).Holds ↔ IsSpan text :=
  Iff.rfl

def Refuses : Requirement → Refusal → Prop
  | condition path holds, .invalid cause => ¬holds ∧ cause.path = path
  | span path text, .invalid cause =>
    (∃ e, Duration.parse text = .error (.malformed e)) ∧ cause.path = path
  | span _ text, .aborted abort => Duration.parse text = .error (.aborted abort)
  | condition _ _, .aborted _ => False

variable {r : Requirement}

theorem not_holds_of_refuses {refusal : Refusal} (h : r.Refuses refusal) : ¬r.Holds := by
  intro hholds
  cases r with
  | condition path holds =>
    cases refusal with
    | invalid cause => exact h.1 hholds
    | aborted abort => exact h
  | span path text =>
    obtain ⟨d, hd⟩ := hholds
    cases refusal with
    | invalid cause =>
      obtain ⟨⟨e, he⟩, -⟩ := h
      rw [hd] at he
      cases he
    | aborted abort =>
      have he : Duration.parse text = .error (.aborted abort) := h
      rw [hd] at he
      cases he

theorem path_eq_of_refuses {cause : ValidationError} (h : r.Refuses (.invalid cause)) :
    r.path = cause.path := by
  cases r with
  | condition path holds => exact h.2.symm
  | span path text => exact h.2.symm

end Requirement

namespace Check

/-- A check goes through requirements and stops at the first that is not met. -/
def Decides (requirements : List Requirement) : Check → Prop
  | .ok _ => ∀ r ∈ requirements, r.Holds
  | .error refusal => ∃ before r after, requirements = before ++ r :: after ∧
      (∀ b ∈ before, b.Holds) ∧ r.Refuses refusal

namespace Decides

variable {rs rs' : List Requirement} {check check' : Check}

theorem eq_ok_iff (h : Decides rs check) : check = .ok () ↔ ∀ r ∈ rs, r.Holds := by
  cases check with
  | ok _ => exact ⟨fun _ => h, fun _ => rfl⟩
  | error refusal =>
    obtain ⟨before, r, after, rfl, -, hr⟩ := h
    constructor
    · intro hok
      cases hok
    · intro hall
      have hholds : r.Holds := hall r (by simp)
      exact absurd hholds (Requirement.not_holds_of_refuses hr)

theorem pass : Decides [] Check.pass := by
  intro r hr
  cases hr

theorem require {condition : Bool} {path text : String} {holds : Prop}
    (h : condition = true ↔ holds) :
    Decides [.condition path holds] (Check.require condition path text) := by
  cases hcondition : condition with
  | true =>
    intro r hr
    rw [List.mem_singleton.1 hr]
    exact h.1 hcondition
  | false =>
    have hbroken : ¬holds := by
      intro hholds
      rw [h.2 hholds] at hcondition
      cases hcondition
    exact ⟨[], _, [], rfl, by simp, hbroken, rfl⟩

theorem checkDuration (path text : String) :
    Decides [.span path text] (CompositeApps.checkDuration path text) := by
  unfold CompositeApps.checkDuration
  cases hparse : Duration.parse text with
  | ok d =>
    intro r hr
    rw [List.mem_singleton.1 hr]
    exact ⟨d, hparse⟩
  | error failure =>
    cases failure with
    | malformed e => exact ⟨[], _, [], rfl, by simp, ⟨e, hparse⟩, rfl⟩
    | aborted abort => exact ⟨[], _, [], rfl, by simp, hparse⟩

/-- One check after the other goes through the requirements of both. -/
theorem andThen (h : Decides rs check) (h' : Decides rs' check') :
    Decides (rs ++ rs') (check >>= fun _ => check') := by
  cases check with
  | error refusal =>
    obtain ⟨before, r, after, rfl, hbefore, hr⟩ := h
    exact ⟨before, r, after ++ rs', by simp, hbefore, hr⟩
  | ok _ =>
    have hfirst : ∀ r ∈ rs, r.Holds := h
    cases check' with
    | ok _ =>
      intro r hr
      rcases List.mem_append.1 hr with hr | hr
      · exact hfirst r hr
      · exact h' r hr
    | error refusal =>
      obtain ⟨before, r, after, rfl, hbefore, hr⟩ := h'
      refine ⟨rs ++ before, r, after, by simp, ?_, hr⟩
      intro b hb
      rcases List.mem_append.1 hb with hb | hb
      · exact hfirst b hb
      · exact hbefore b hb

theorem whenSome {α : Type} {requirements : α → List Requirement} {check : α → Check}
    (a : Option α) (h : ∀ value, Decides (requirements value) (check value)) :
    Decides (a.toList.flatMap requirements) (Check.whenSome a check) := by
  cases a with
  | none => exact pass
  | some value =>
    rw [Option.toList_some, List.flatMap_singleton]
    exact h value

theorem forM {α : Type} {requirements : α → List Requirement} {check : α → Check}
    (items : List α) (h : ∀ a, Decides (requirements a) (check a)) :
    Decides (items.flatMap requirements) (items.forM check) := by
  induction items with
  | nil => exact pass
  | cons a rest ih =>
    rw [List.forM_eq_forM] at ih
    rw [List.forM_eq_forM, List.forM_cons, List.flatMap_cons]
    exact (h a).andThen ih

end Decides

end Check

open Check

/-! ### The requirements of each part of a spec -/

structure IsDnsLabel (s : String) : Prop where
  pos : 1 ≤ s.utf8ByteSize
  le : s.utf8ByteSize ≤ 63
  letters : ∀ c ∈ s.toList, ('a' ≤ c ∧ c ≤ 'z') ∨ ('0' ≤ c ∧ c ≤ '9') ∨ c = '-'
  first : s.toList.head? ≠ some '-'
  last : s.toList.getLast? ≠ some '-'

theorem isLabelChar_iff {c : Char} : isLabelChar c = true ↔
    ('a' ≤ c ∧ c ≤ 'z') ∨ ('0' ≤ c ∧ c ≤ '9') ∨ c = '-' := by
  have hlower : c.isLower = (decide ('a' ≤ c) && decide (c ≤ 'z')) := rfl
  have hdigit : c.isDigit = (decide ('0' ≤ c) && decide (c ≤ '9')) := rfl
  simp [isLabelChar, hlower, hdigit, or_assoc]

theorem isDnsLabel_iff {s : String} : isDnsLabel s = true ↔ IsDnsLabel s := by
  have hempty : 1 ≤ s.utf8ByteSize ↔ s ≠ "" := by
    rw [Nat.one_le_iff_ne_zero, ne_eq, String.utf8ByteSize_eq_zero_iff]
  simp only [isDnsLabel, Bool.and_eq_true, decide_eq_true_eq, List.all_eq_true, isLabelChar_iff]
  constructor
  · rintro ⟨⟨⟨⟨hne, hle⟩, hletters⟩, hfirst⟩, hlast⟩
    exact ⟨hempty.2 hne, hle, hletters, hfirst, hlast⟩
  · intro h
    exact ⟨⟨⟨⟨hempty.1 h.pos, h.le⟩, h.letters⟩, h.first⟩, h.last⟩

def HasInk (s : String) : Prop :=
  ∃ c ∈ s.toList, Text.isBlank c = false

theorem isAllBlank_eq_false_iff {s : String} : Text.isAllBlank s = false ↔ HasInk s := by
  simp [Text.isAllBlank, HasInk]

def IsPercent (x : Binary64) : Prop :=
  x.isFinite = true ∧ 0 ≤ x.value ∧ x.value ≤ 100

theorem isPercent_iff {x : Binary64} : isPercent x = true ↔ IsPercent x := by
  have hzero : Binary64.zero.isFinite = true := by decide +kernel
  have hhundred : (Binary64.ofNat 100).isFinite = true := by decide +kernel
  unfold isPercent IsPercent
  rw [Bool.and_eq_true]
  constructor
  · rintro ⟨hlow, hhigh⟩
    have hx := Binary64.isFinite_of_le_of_le hzero hhundred hlow hhigh
    rw [Binary64.le_iff_value_le hzero hx, Binary64.value_zero] at hlow
    rw [Binary64.le_iff_value_le hx hhundred, Binary64.value_hundred] at hhigh
    exact ⟨hx, hlow, hhigh⟩
  · rintro ⟨hx, hlow, hhigh⟩
    rw [Binary64.le_iff_value_le hzero hx, Binary64.le_iff_value_le hx hhundred,
      Binary64.value_zero, Binary64.value_hundred]
    exact ⟨hlow, hhigh⟩

theorem decides_checkDnsLabel (path value : String) :
    Decides [.condition path (IsDnsLabel value)] (checkDnsLabel path value) :=
  .require isDnsLabel_iff

namespace VersionEntry

def requirements (path : String) (e : VersionEntry) : List Requirement :=
  [.condition (path ++ ".version") (e.version ≠ ""),
    .condition (path ++ ".version") (IsDnsLabel e.version),
    .condition (path ++ ".image") (HasInk e.image),
    .condition (path ++ ".minReplicas") (e.minReplicas = -1 ∨ 0 < e.minReplicas),
    .condition (path ++ ".maxReplicas") (e.minReplicas = -1 ∨ e.minReplicas ≤ e.maxReplicas),
    .condition (path ++ ".port") (1 ≤ e.port ∧ e.port ≤ 65535)]

theorem decides_validateReplicas (path : String) (e : VersionEntry) :
    Decides [
      .condition (path ++ ".minReplicas") (e.minReplicas = -1 ∨ 0 < e.minReplicas),
      .condition (path ++ ".maxReplicas") (e.minReplicas = -1 ∨ e.minReplicas ≤ e.maxReplicas)]
      (e.validateReplicas path) := by
  unfold validateReplicas
  by_cases hremoved : e.isRemoved = true
  · have hmark : e.minReplicas = -1 := of_decide_eq_true hremoved
    rw [if_pos hremoved]
    intro r hr
    rcases List.mem_pair.1 hr with rfl | rfl
    · exact .inl hmark
    · exact .inl hmark
  · have hmark : e.minReplicas ≠ -1 := fun h => hremoved (decide_eq_true h)
    rw [if_neg hremoved]
    by_cases hsign : e.minReplicas ≤ 0
    · rw [if_pos hsign]
      refine ⟨[], _, _, rfl, by simp, ?_, rfl⟩
      omega
    · rw [if_neg hsign]
      have hmin : Decides [.condition (path ++ ".minReplicas")
          (e.minReplicas = -1 ∨ 0 < e.minReplicas)] Check.pass := by
        intro r hr
        rw [List.mem_singleton.1 hr]
        exact .inr (by omega)
      refine hmin.andThen (.require ?_)
      rw [decide_eq_true_eq]
      omega

theorem decides_validate (path : String) (e : VersionEntry) :
    Decides (e.requirements path) (e.validate path) := by
  refine .andThen (.require ?_) (.andThen (decides_checkDnsLabel _ _)
    (.andThen (.require ?_) (.andThen (decides_validateReplicas path e) (.require ?_))))
  · exact decide_eq_true_iff
  · rw [Bool.not_eq_true', isAllBlank_eq_false_iff]
  · rw [Bool.and_eq_true, decide_eq_true_eq, decide_eq_true_eq]

end VersionEntry

namespace GatewaySpec

def weightRequirements (app : CompositeApp) (version : String) (weight : Int) :
    List Requirement :=
  [.condition (weightPath version) (version ∈ app.spec.apps.map (·.version)),
    .condition (weightPath version) (0 ≤ weight)]

def requirements (app : CompositeApp) (g : GatewaySpec) : List Requirement :=
  .condition "spec.gateway.hosts" (g.hosts ≠ [] ∧ ∀ host ∈ g.hosts, HasInk host) ::
  .condition "spec.gateway.weights" (g.weights ≠ ∅) ::
  ((g.weights.toList.flatMap fun (version, weight) => weightRequirements app version weight) ++
  .condition "spec.gateway.weights" ((g.weights.toList.map (·.2)).sum = 100) ::
  (g.routes.keys.flatMap fun version =>
    [.condition ("spec.gateway.routes." ++ version) (version ∈ app.spec.apps.map (·.version))]))

theorem decides_validateWeight (app : CompositeApp) (version : String) (weight : Int) :
    Decides (weightRequirements app version weight) (validateWeight app version weight) :=
  .andThen (.require CompositeApp.declares_iff) (.require decide_eq_true_iff)

theorem decides_validate (app : CompositeApp) (g : GatewaySpec) :
    Decides (g.requirements app) (g.validate app) := by
  have hhosts : (!g.hosts.isEmpty && !g.hosts.any Text.isAllBlank) = true ↔
      g.hosts ≠ [] ∧ ∀ host ∈ g.hosts, HasInk host := by
    simp [← isAllBlank_eq_false_iff]
  have hweights : (!g.weights.isEmpty) = true ↔ g.weights ≠ ∅ := by
    rw [Bool.not_eq_true', ← Bool.not_eq_true, Std.ExtTreeMap.isEmpty_iff]
  refine .andThen (.require hhosts) (.andThen (.require hweights)
    (.andThen (.forM _ fun (version, weight) => decides_validateWeight app version weight)
      (.andThen (.require ?_) (.forM _ fun version => .require CompositeApp.declares_iff))))
  exact decide_eq_true_iff

end GatewaySpec

namespace TrafficPolicySpec

def retryRequirements (r : RetrySpec) : List Requirement :=
  .condition "spec.policy.retries.attempts" (0 < r.attempts) ::
    r.perTryTimeout.toList.flatMap fun text => [.span "spec.policy.retries.perTryTimeout" text]

def delayRequirements (d : DelaySpec) : List Requirement :=
  [.span "spec.policy.fault.delay.delay" d.delay,
    .condition "spec.policy.fault.delay.percent" (IsPercent d.percent)]

def abortRequirements (a : AbortSpec) : List Requirement :=
  [.condition "spec.policy.fault.abort.percent" (IsPercent a.percent),
    .condition "spec.policy.fault.abort.httpStatus" (100 ≤ a.httpStatus ∧ a.httpStatus ≤ 599)]

def faultRequirements (f : FaultSpec) : List Requirement :=
  f.delay.toList.flatMap delayRequirements ++ f.abort.toList.flatMap abortRequirements

def outlierRequirements (o : OutlierSpec) : List Requirement :=
  .condition "spec.policy.outlierDetection.consecutiveErrors" (0 < o.consecutiveErrors) ::
    ((o.interval.toList.flatMap fun text => [.span "spec.policy.outlierDetection.interval" text]) ++
      o.ejectionTime.toList.flatMap fun text =>
        [.span "spec.policy.outlierDetection.ejectionTime" text])

def requirements (p : TrafficPolicySpec) : List Requirement :=
  (p.timeout.toList.flatMap fun text => [.span "spec.policy.timeout" text]) ++
  ((p.maxRequests.toList.flatMap fun n => [.condition "spec.policy.maxRequests" (0 < n)]) ++
  (p.retries.toList.flatMap retryRequirements ++
  (p.fault.toList.flatMap faultRequirements ++
    p.outlierDetection.toList.flatMap outlierRequirements)))

theorem decides_validateRetries (r : RetrySpec) :
    Decides (retryRequirements r) (validateRetries r) :=
  .andThen (.require decide_eq_true_iff) (.whenSome _ fun _ => .checkDuration _ _)

theorem decides_checkPercent (path : String) (x : Binary64) :
    Decides [.condition path (IsPercent x)] (checkPercent path x) :=
  .require isPercent_iff

theorem decides_validateDelay (d : DelaySpec) :
    Decides (delayRequirements d) (validateDelay d) :=
  .andThen (.checkDuration _ _) (decides_checkPercent _ _)

theorem decides_validateAbort (a : AbortSpec) :
    Decides (abortRequirements a) (validateAbort a) := by
  refine .andThen (decides_checkPercent _ _) (.require ?_)
  rw [Bool.and_eq_true, decide_eq_true_eq, decide_eq_true_eq]

theorem decides_validateFault (f : FaultSpec) :
    Decides (faultRequirements f) (validateFault f) :=
  .andThen (.whenSome _ decides_validateDelay) (.whenSome _ decides_validateAbort)

theorem decides_validateOutlier (o : OutlierSpec) :
    Decides (outlierRequirements o) (validateOutlier o) := by
  refine .andThen (.require ?_) (.andThen (.whenSome _ fun _ => .checkDuration _ _)
    (.whenSome _ fun _ => .checkDuration _ _))
  rw [decide_eq_true_eq, Nat.pos_iff_ne_zero]

theorem decides_validate (p : TrafficPolicySpec) : Decides p.requirements p.validate :=
  .andThen (.whenSome _ fun _ => .checkDuration _ _)
    (.andThen (.whenSome _ fun _ => .require decide_eq_true_iff)
      (.andThen (.whenSome _ decides_validateRetries)
        (.andThen (.whenSome _ decides_validateFault) (.whenSome _ decides_validateOutlier))))

end TrafficPolicySpec

namespace CompositeApp

/-- What is asked of the `i`-th of the entries: what is asked of any, and a version that none
before it has. -/
def entryRequirements (entries : List VersionEntry) (e : VersionEntry) (i : Nat) :
    List Requirement :=
  e.requirements (entryPath i) ++
    [.condition (entryPath i ++ ".version") (e.version ∉ (entries.take i).map (·.version))]

def requirements (app : CompositeApp) : List Requirement :=
  .condition "metadata.name" (IsDnsLabel app.name) ::
  (app.spec.policy.toList.flatMap TrafficPolicySpec.requirements ++
  (app.spec.gateway.toList.flatMap (·.requirements app) ++
    app.spec.apps.zipIdx.flatMap fun (e, i) => entryRequirements app.spec.apps e i))

/-- The induction is on the entries that are left; `seen` has the versions of those that are done,
in any order. -/
theorem decides_validateEntries (done rest : List VersionEntry) (seen : List String)
    (hseen : ∀ version, version ∈ seen ↔ version ∈ done.map (·.version)) :
    Decides
      ((rest.zipIdx done.length).flatMap fun (e, i) => entryRequirements (done ++ rest) e i)
      (validateEntries done.length seen rest) := by
  induction rest generalizing done seen with
  | nil => exact .pass
  | cons e rest ih =>
    have hfresh : (!seen.contains e.version) = true ↔
        e.version ∉ ((done ++ e :: rest).take done.length).map (·.version) := by
      rw [List.take_left, ← hseen, Bool.not_eq_true', List.contains_eq_mem,
        decide_eq_false_iff_not]
    have hnext : ∀ version, version ∈ e.version :: seen ↔
        version ∈ (done ++ [e]).map (·.version) := by
      intro version
      simp [hseen, or_comm]
    have hrest := ih (done ++ [e]) (e.version :: seen) hnext
    rw [List.length_append, List.length_singleton, List.append_assoc,
      List.singleton_append] at hrest
    rw [List.zipIdx_cons, List.flatMap_cons]
    change Decides ((e.requirements (entryPath done.length) ++ [_]) ++ _) _
    rw [List.append_assoc]
    exact .andThen (e.decides_validate _) (.andThen (.require hfresh) hrest)

theorem decides_validate (app : CompositeApp) : Decides app.requirements app.validate :=
  .andThen (decides_checkDnsLabel _ _)
    (.andThen (.whenSome _ TrafficPolicySpec.decides_validate)
      (.andThen (.whenSome _ (GatewaySpec.decides_validate app))
        (decides_validateEntries [] app.spec.apps [] (by simp))))

end CompositeApp

end CompositeApps
