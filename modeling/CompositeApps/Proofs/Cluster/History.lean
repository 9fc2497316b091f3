import CompositeApps.Proofs.Cluster.Confined
import CompositeApps.Proofs.Cluster.Faults
import CompositeApps.Proofs.Cluster.Versions

/-!
Whatever is done to a cluster, one thing after another, while faults come and go. Its objects are
told apart by their versions, the counter only grows, and of all the writes of an object that are
based on one version at most one succeeds. What does not succeed leaves no trace, with one
exception: an object with a number that is not finite is stored and cannot be read back.
-/

namespace CompositeApps

/-- Something that is done to a cluster with faults. -/
inductive Operation where
  | call (c : Call)
  /-- Stores an object whatever is there. -/
  | seed (r : Resource)
  | inject (rule : FaultRule)
  | clearFaults
  deriving DecidableEq, Inhabited

def Call.isBasedOn (key : ObjectKey) (version : String) (c : Call) : Bool :=
  c.guarded?.any fun r => r.key = key && r.metadata.resourceVersion = some version

def Call.isFinite : Call → Bool
  | .create r | .replace r => r.isFinite
  | .get _ | .replaceStatus _ | .delete _ => true

def Operation.isFinite : Operation → Bool
  | .call c => c.isFinite
  | .seed r => r.isFinite
  | .inject _ | .clearFaults => true

def Aborting.succeeded : Aborting Reply → Bool
  | .ok (.ok _) => true
  | .ok (.error _) | .error _ => false

namespace FaultyCluster

def operate (s : FaultyCluster) : Operation → FaultyCluster
  | .call c => (s.perform c).2
  | .seed r => { s with cluster := (s.cluster.seed r).2 }
  | .inject rule => s.inject rule
  | .clearFaults => s.withoutFaults

def operateAll (s : FaultyCluster) (ops : List Operation) : FaultyCluster :=
  ops.foldl operate s

def ended (s : FaultyCluster) : List Operation → List (Call × Aborting Reply)
  | [] => []
  | op :: ops =>
    match op with
    | .call c => (c, (s.perform c).1) :: (s.operate op).ended ops
    | .seed _ | .inject _ | .clearFaults => (s.operate op).ended ops

variable {s : FaultyCluster} {c : Call}

theorem operateAll_append (s : FaultyCluster) (ops more : List Operation) :
    s.operateAll (ops ++ more) = (s.operateAll ops).operateAll more :=
  List.foldl_append

/-- A call is answered with what is read of its effect, or it fails and does nothing. -/
theorem perform_cases (s : FaultyCluster) (c : Call) :
    (∃ stored, s.cluster.Effect c stored (s.perform c).2.cluster ∧
      (s.perform c).1 = .ok (.ofStored stored)) ∨
    (Aborting.succeeded (s.perform c).1 = false ∧ (s.perform c).2.cluster = s.cluster) := by
  cases hfault : s.faultOf? c.verb c.key.kind with
  | some f =>
    rw [perform_of_fault hfault]
    refine Or.inr ⟨?_, rfl⟩
    cases f with
    | abort => rfl
    | status code =>
      obtain ⟨e, he, -⟩ := Fault.exists_outcome code c.verb c.key.kind
      rw [he]
      rfl
  | none =>
    rw [perform_of_faultless hfault]
    rcases s.cluster.effect_or_refused c with ⟨stored, after, heffect⟩ | ⟨e, hrefused⟩
    · rw [heffect.perform_eq]
      exact Or.inl ⟨stored, heffect, rfl⟩
    · rw [hrefused]
      exact Or.inr ⟨rfl, rfl⟩

/-- An operation writes to the cluster or leaves it as it is. -/
theorem operate_cases (s : FaultyCluster) (op : Operation) :
    s.cluster.Write (s.operate op).cluster ∨ (s.operate op).cluster = s.cluster := by
  cases op with
  | call c =>
    rcases s.perform_cases c with ⟨stored, heffect, -⟩ | ⟨-, hsame⟩
    · exact Or.inl (.called heffect)
    · exact Or.inr hsame
  | seed r => exact Or.inl (.seeded r)
  | inject rule => exact Or.inr rfl
  | clearFaults => exact Or.inr rfl

theorem later_operate (s : FaultyCluster) (op : Operation) :
    s.cluster.Later (s.operate op).cluster := by
  rcases s.operate_cases op with hwrite | hsame
  · exact hwrite.later
  · rw [hsame]
    exact .refl _

theorem later_operateAll (s : FaultyCluster) (ops : List Operation) :
    s.cluster.Later (s.operateAll ops).cluster := by
  induction ops generalizing s with
  | nil => exact .refl _
  | cons op ops ih => exact (s.later_operate op).trans (ih (s.operate op))

theorem reachable_operate (h : s.cluster.Reachable) (op : Operation) :
    (s.operate op).cluster.Reachable := by
  rcases s.operate_cases op with hwrite | hsame
  · exact h.write hwrite
  · rwa [hsame]

theorem reachable_operateAll (h : s.cluster.Reachable) (ops : List Operation) :
    (s.operateAll ops).cluster.Reachable := by
  induction ops generalizing s with
  | nil => exact h
  | cons op ops ih => exact ih (reachable_operate h op)

end FaultyCluster

namespace Cluster

variable {c after : Cluster} {key : ObjectKey} {version : String}

/-- A version that was given out and that the object under a key does not carry any more. -/
def Superseded (c : Cluster) (key : ObjectKey) (version : String) : Prop :=
  ∃ n, n ≤ c.version ∧ version = versionText n ∧
    ∀ r, c.get? key = some r → r.metadata.resourceVersion ≠ some version

/-- A version that was superseded never comes back. -/
theorem Superseded.later (h : c.Superseded key version) (hlater : c.Later after) :
    after.Superseded key version := by
  obtain ⟨n, hn, rfl, hold⟩ := h
  refine ⟨n, Nat.le_trans hn hlater.version_le, rfl, fun r hr hversion => ?_⟩
  rcases hlater.fresh key r hr with hbefore | ⟨m, hm, -, hmversion⟩
  · exact hold r hbefore hversion
  · have hsame := versionText_injective (Option.some.inj (hmversion.symm.trans hversion))
    omega

/-- A write succeeds only on the basis of the version that is stored. -/
theorem Effect.exists_based {call : Call} {reply : Option Resource} (h : c.Effect call reply after)
    (hbased : call.isBasedOn key version = true) :
    ∃ r, call.guarded? = some r ∧ r.key = key ∧
      ∃ stored, c.get? key = some stored ∧ stored.metadata.resourceVersion = some version := by
  obtain ⟨r, hguarded, hr⟩ := (Option.any_eq_true _ _).1 hbased
  obtain ⟨rfl, hversion⟩ : r.key = key ∧ r.metadata.resourceVersion = some version := by
    simpa using hr
  obtain ⟨stored, hstored, hcheck⟩ := h.exists_checked hguarded
  exact ⟨r, hguarded, rfl, stored, hstored,
    ObjectMeta.resourceVersion_of_checkVersion hversion hcheck⟩

/-- A write on the basis of the version that is stored is not refused. -/
theorem exists_effect_of_based {call : Call} {stored : Resource}
    (hbased : call.isBasedOn key version = true) (hstored : c.get? key = some stored)
    (hversion : stored.metadata.resourceVersion = some version) :
    ∃ next after, c.Effect call next after := by
  obtain ⟨r, hguarded, hr⟩ := (Option.any_eq_true _ _).1 hbased
  obtain ⟨rfl, hbase⟩ : r.key = key ∧ r.metadata.resourceVersion = some version := by
    simpa using hr
  have hcheck := ObjectMeta.checkVersion_of_eq (hbase.trans hversion.symm)
  cases call with
  | replace r' =>
    obtain rfl := Option.some.inj hguarded
    cases hreleased : (replacement stored r' (c.version + 1)).metadata.isReleased with
    | true => exact ⟨_, _, .released r' stored hstored hcheck hreleased⟩
    | false => exact ⟨_, _, .replaced r' stored hstored hcheck hreleased⟩
  | replaceStatus r' =>
    obtain rfl := Option.some.inj hguarded
    exact ⟨_, _, .reported r' stored hstored hcheck⟩
  | get | create | delete => exact absurd hguarded (by simp [Call.guarded?])

theorem Superseded.not_based {call : Call} {reply : Option Resource}
    (h : c.Superseded key version) (heffect : c.Effect call reply after) :
    call.isBasedOn key version = false := by
  refine Bool.eq_false_iff.2 fun hbased => ?_
  obtain ⟨n, -, -, hold⟩ := h
  obtain ⟨r, -, -, stored, hstored, hversion⟩ := heffect.exists_based hbased
  exact hold stored hstored hversion

/-- What a write leaves under its key carries the next version, or nothing is left. -/
theorem Effect.version_of_guarded {call : Call} {reply : Option Resource} {r next : Resource}
    (h : c.Effect call reply after) (hkeyed : c.Keyed) (hguarded : call.guarded? = some r)
    (hnext : after.get? r.key = some next) :
    next.metadata.resourceVersion = some (versionText (c.version + 1)) := by
  cases h with
  | replaced r' stored =>
    obtain rfl := Option.some.inj hguarded
    rw [← key_replacement stored r' (c.version + 1), get?_put_self] at hnext
    rw [← Option.some.inj hnext, metadata_replacement]
  | released r' stored =>
    obtain rfl := Option.some.inj hguarded
    rw [get?, Objects.getElem?_remove_self] at hnext
    exact absurd hnext (by simp)
  | reported r' stored hstored =>
    obtain rfl := Option.some.inj hguarded
    have hkey : (stamped (c.version + 1) (stored.withStatusOf r')).key = r'.key := by
      rw [key_stamped, key_withStatusOf, hkeyed r'.key stored hstored]
    rw [← hkey, get?_put_self] at hnext
    rw [← Option.some.inj hnext, metadata_stamped]
  | found | created | missed | doomed | removed => exact absurd hguarded (by simp [Call.guarded?])

/-- A write supersedes the version that it is based on. -/
theorem Effect.superseded {call : Call} {reply : Option Resource} (h : c.Effect call reply after)
    (hc : c.Versioned) (hbased : call.isBasedOn key version = true) :
    after.Superseded key version := by
  obtain ⟨r, hguarded, rfl, stored, hstored, hversion⟩ := h.exists_based hbased
  obtain ⟨n, hn, hgiven⟩ := hc.given r.key stored hstored
  obtain rfl := Option.some.inj (hversion.symm.trans hgiven)
  refine ⟨n, Nat.le_trans hn h.later.version_le, rfl, fun next hnext hold => ?_⟩
  have hfresh := h.version_of_guarded hc.keyed hguarded hnext
  have hsame := versionText_injective (Option.some.inj (hfresh.symm.trans hold))
  omega

/-- As long as all numbers are finite, what a call stores can be read back. -/
theorem Effect.finite {call : Call} {stored : Option Resource} (h : c.Effect call stored after)
    (hc : c.Finite) (hcall : call.isFinite = true) :
    after.Finite ∧ stored.all (·.isFinite) = true := by
  cases h with
  | found key =>
    refine ⟨hc, ?_⟩
    cases hfound : c.get? key with
    | none => rfl
    | some r => exact hc key r hfound
  | missed => exact ⟨hc, rfl⟩
  | created r =>
    have hr : (newborn (c.version + 1) r).isFinite = true := by rwa [isFinite_newborn]
    exact ⟨hc.put hr, hr⟩
  | replaced r stored =>
    have hr : (replacement stored r (c.version + 1)).isFinite = true := by
      rwa [isFinite_replacement]
    exact ⟨hc.put hr, hr⟩
  | released r stored =>
    have hr : (replacement stored r (c.version + 1)).isFinite = true := by
      rwa [isFinite_replacement]
    exact ⟨(hc.put hr).remove r.key, hr⟩
  | reported r stored hstored =>
    have hr : (stamped (c.version + 1) (stored.withStatusOf r)).isFinite = true := by
      rw [isFinite_stamped, Resource.isFinite_withStatusOf, hc r.key stored hstored]
    exact ⟨hc.put hr, hr⟩
  | doomed key stored hstored =>
    have hr : (Cluster.doomed (c.version + 1) stored).isFinite = true := by
      rw [isFinite_doomed, hc key stored hstored]
    exact ⟨hc.put hr, rfl⟩
  | removed key => exact ⟨hc.remove key, rfl⟩

end Cluster

namespace FaultyCluster

variable {s : FaultyCluster} {key : ObjectKey} {version : String}

theorem finite_operate (h : s.cluster.Finite) {op : Operation} (hop : op.isFinite = true) :
    (s.operate op).cluster.Finite := by
  cases op with
  | call c =>
    rcases s.perform_cases c with ⟨stored, heffect, -⟩ | ⟨-, hsame⟩
    · exact (heffect.finite h hop).1
    · exact hsame ▸ h
  | seed r =>
    refine h.put ?_
    rwa [Resource.isFinite_mapMetadata, Cluster.isFinite_stamped]
  | inject rule => exact h
  | clearFaults => exact h

theorem finite_operateAll (h : s.cluster.Finite) {ops : List Operation}
    (hops : ∀ op ∈ ops, op.isFinite = true) : (s.operateAll ops).cluster.Finite := by
  induction ops generalizing s with
  | nil => exact h
  | cons op ops ih =>
    obtain ⟨hop, hrest⟩ := List.forall_mem_cons.1 hops
    exact ih (finite_operate h hop) hrest

/-- What cannot be read back is an object with a number that is not finite. -/
theorem exists_eq_some_of_unread {stored : Option Resource}
    (h : Aborting.succeeded (.ok (.ofStored stored)) = false) :
    ∃ r, stored = some r ∧ r.isFinite = false := by
  cases stored with
  | none => exact absurd h (by simp [Reply.ofStored, Aborting.succeeded])
  | some r =>
    refine ⟨r, rfl, Bool.eq_false_iff.2 fun hfinite => ?_⟩
    rw [Reply.ofStored_of_isFinite hfinite] at h
    exact absurd h (by simp [Aborting.succeeded])

/-- A call that is answered with what is read of its effect succeeds if all numbers are finite. -/
theorem succeeded_of_effect {c : Call} {stored : Option Resource} {after : Cluster}
    (h : s.cluster.Finite) (hc : c.isFinite = true) (heffect : s.cluster.Effect c stored after) :
    Aborting.succeeded (.ok (.ofStored stored)) = true := by
  rw [Reply.ofStored_eq_ok.2 ⟨rfl, (heffect.finite h hc).2⟩]
  rfl

def wins (key : ObjectKey) (version : String) (e : Call × Aborting Reply) : Bool :=
  e.1.isBasedOn key version && Aborting.succeeded e.2

/-- A write on the basis of a version succeeds, faults apart, just if that version is stored. -/
theorem succeeded_iff_of_based {c : Call} (hfinite : s.cluster.Finite) (hc : c.isFinite = true)
    (hbased : c.isBasedOn key version = true) (hfree : s.faultOf? c.verb c.key.kind = none) :
    Aborting.succeeded (s.perform c).1 = true ↔
      ∃ stored, s.cluster.get? key = some stored ∧
        stored.metadata.resourceVersion = some version := by
  constructor
  · intro hsucceeded
    rcases s.perform_cases c with ⟨stored, heffect, -⟩ | ⟨hfailed, -⟩
    · obtain ⟨r, -, rfl, hstored⟩ := heffect.exists_based hbased
      exact hstored
    · exact absurd (hfailed.symm.trans hsucceeded) (by simp)
  · rintro ⟨stored, hstored, hversion⟩
    obtain ⟨next, after, heffect⟩ := Cluster.exists_effect_of_based hbased hstored hversion
    rw [perform_of_faultless hfree, heffect.perform_eq]
    exact succeeded_of_effect hfinite hc heffect

/-- Once a version is superseded, no write succeeds on its basis. -/
theorem countP_ended_of_superseded (h : s.cluster.Superseded key version) (ops : List Operation) :
    (s.ended ops).countP (wins key version) = 0 := by
  induction ops generalizing s with
  | nil => rfl
  | cons op ops ih =>
    have hrest := ih (h.later (s.later_operate op))
    cases op with
    | seed r | inject rule => exact hrest
    | clearFaults => exact hrest
    | call c =>
      have hlost : wins key version (c, (s.perform c).1) = false := by
        rcases s.perform_cases c with ⟨stored, heffect, -⟩ | ⟨hfailed, -⟩
        · simp [wins, h.not_based heffect]
        · simp [wins, hfailed]
      rw [ended, List.countP_cons_of_neg (by simp [hlost]), hrest]

/-- Of the writes on the basis of one version, the first that succeeds is the last. -/
theorem countP_ended_le (h : s.cluster.Versioned) (ops : List Operation) :
    (s.ended ops).countP (wins key version) ≤ 1 := by
  induction ops generalizing s with
  | nil => exact Nat.zero_le 1
  | cons op ops ih =>
    have hversioned : (s.operate op).cluster.Versioned := by
      rcases s.operate_cases op with hwrite | hsame
      · exact hwrite.versioned h
      · rwa [hsame]
    have hrest := ih hversioned
    cases op with
    | seed r | inject rule => exact hrest
    | clearFaults => exact hrest
    | call c =>
      rw [ended]
      by_cases hwins : wins key version (c, (s.perform c).1) = true
      · obtain ⟨hbased, hsucceeded⟩ := (Bool.and_eq_true _ _).mp hwins
        rcases s.perform_cases c with ⟨stored, heffect, -⟩ | ⟨hfailed, -⟩
        · have hdone := heffect.superseded h hbased
          have hnone : ((s.operate (.call c)).ended ops).countP (wins key version) = 0 :=
            countP_ended_of_superseded hdone ops
          rw [List.countP_cons_of_pos hwins]
          omega
        · exact absurd (hfailed.symm.trans hsucceeded) (by simp)
      · rw [List.countP_cons_of_neg hwins]
        exact hrest

end FaultyCluster

end CompositeApps
