import CompositeApps.Proofs.Cluster.Effect
import CompositeApps.Proofs.Cluster.Faults
import CompositeApps.Proofs.Reconcile.Run
import CompositeApps.Reconcile.World

/-!
Passes against a cluster that may fail. A call is answered with what is read of what it does to the
cluster, which may fail, or it fails or aborts and does nothing. What every call complies with, and
what its answers keep, then holds all along a run, also along one that aborts.
-/

namespace CompositeApps

def Call.Admits : Call → Reply → Prop
  | .replace r, .ok reply => ∃ stored version, reply = some (Cluster.replacement stored r version)
  | _, _ => True

/-- How a call may be answered: with what is read of what it does to the cluster, or it fails, for
whatever reason, and does nothing. -/
inductive Cluster.Answers (c : Cluster) (call : Call) : Reply → Cluster → Prop where
  | done {stored : Option Resource} {after : Cluster} (h : c.Effect call stored after) :
      Answers c call (.ofStored stored) after
  | failed (e : StoreError) : Answers c call (.error e) c

namespace Cluster.Answers

variable {c after : Cluster} {call : Call} {reply : Reply}

/-- The cluster itself answers so. -/
theorem of_perform (h : c.perform call = (reply, after)) : c.Answers call reply after := by
  rcases c.effect_or_refused call with ⟨stored, later, heffect⟩ | ⟨e, hrefused⟩
  · obtain ⟨rfl, rfl⟩ := Prod.mk.inj (heffect.perform_eq.symm.trans h)
    exact .done heffect
  · obtain ⟨rfl, rfl⟩ := Prod.mk.inj (hrefused.symm.trans h)
    exact .failed e

theorem effect {answer : Option Resource} (h : c.Answers call (.ok answer) after) :
    c.Effect call answer after := by
  generalize hreply : (.ok answer : Reply) = reply at h
  cases h with
  | done heffect =>
    obtain ⟨rfl, -⟩ := Reply.ofStored_eq_ok.1 hreply.symm
    exact heffect
  | failed e => exact absurd hreply (by simp)

theorem admits (h : c.Answers call reply after) : call.Admits reply := by
  cases reply with
  | error e => cases call <;> trivial
  | ok answer =>
    cases h.effect with
    | replaced r stored | released r stored => exact ⟨stored, c.version + 1, rfl⟩
    | found | created | reported | missed | doomed | removed => trivial

/-- A call that fails has done nothing, or what it has stored cannot be read. -/
theorem eq_or_unread {e : StoreError} (h : c.Answers call (.error e) after) : after = c ∨
    ∃ stored message, c.Effect call (some stored) after ∧ stored.isFinite = false ∧
      e = .malformed message := by
  generalize hreply : (.error e : Reply) = reply at h
  cases h with
  | failed => exact Or.inl rfl
  | @done stored _ heffect =>
    cases stored with
    | none => exact absurd hreply (by simp [Reply.ofStored])
    | some r =>
      obtain ⟨hunread, message, rfl⟩ := Reply.exists_malformed hreply.symm
      exact Or.inr ⟨r, message, heffect, hunread, rfl⟩

/-- Whatever the answer, the call has done what it does or nothing. -/
theorem effect_or_eq (h : c.Answers call reply after) :
    (∃ stored, c.Effect call stored after) ∨ after = c := by
  cases h with
  | done heffect => exact Or.inl ⟨_, heffect⟩
  | failed => exact Or.inr rfl

theorem keyed (h : c.Answers call reply after) (hc : c.Keyed) : after.Keyed := by
  rcases h.effect_or_eq with ⟨stored, heffect⟩ | rfl
  · exact heffect.keyed hc
  · exact hc

end Cluster.Answers

/-- Every object is stored under its key, and if the last step of a pass was a lookup, what it has
found is still stored. -/
structure Cluster.Current (past : List Exchange) (c : Cluster) : Prop where
  keyed : c.Keyed
  recent : ∀ key r, past.getLast? = some (.called (.get key) (.ok (some r))) → c.get? key = some r

namespace Cluster.Current

variable {c after : Cluster} {past : List Exchange}

theorem start (hkeyed : c.Keyed) : c.Current [] :=
  ⟨hkeyed, fun _ _ hlast => absurd hlast (by simp)⟩

theorem hooked (h : c.Current past) (app : CompositeApp) (result : Except String Unit) :
    c.Current (past ++ [.hooked app result]) := by
  refine ⟨h.keyed, fun key r hlast => ?_⟩
  rw [List.getLast?_concat] at hlast
  exact absurd (Option.some.inj hlast) (by simp)

theorem answered (h : c.Current past) {call : Call} {reply : Reply}
    (hanswer : c.Answers call reply after) : after.Current (past ++ [.called call reply]) := by
  refine ⟨hanswer.keyed h.keyed, fun key r hlast => ?_⟩
  rw [List.getLast?_concat] at hlast
  obtain ⟨rfl, rfl⟩ := Exchange.called.inj (Option.some.inj hlast)
  obtain ⟨hfound, rfl⟩ := hanswer.effect.of_get
  exact hfound.symm

end Cluster.Current

/-- A handler that works on a cluster: each of its calls is answered, or it aborts and does nothing,
and nothing else touches the cluster. What has to run before an app may go may end in any way. -/
structure Handler.Serves {σ : Type} (h : Handler σ) (cluster : σ → Cluster) : Prop where
  call : ∀ c s, (∃ reply after, h.call c s = (.ok reply, after) ∧
      (cluster s).Answers c reply (cluster after)) ∨
    ∃ cause after, h.call c s = (.error cause, after) ∧ cluster after = cluster s
  preDelete : ∀ app s, cluster (h.preDelete app s).2 = cluster s
  publish : ∀ app event s, cluster (h.publish app event s) = cluster s
  record : ∀ change s, cluster (h.record change s) = cluster s

/-- In a world with faults a call is answered, or it aborts and does nothing. -/
theorem World.call_cases (call : Call) (w : World) :
    (∃ reply after, World.handler.call call w = (.ok reply, after) ∧
      w.store.cluster.Answers call reply after.store.cluster) ∨
    ∃ cause after, World.handler.call call w = (.error cause, after) ∧
      after.store.cluster = w.store.cluster := by
  simp only [World.handler, World.call]
  cases hfault : w.store.faultOf? call.verb call.key.kind with
  | some f =>
    rw [FaultyCluster.perform_of_fault hfault]
    cases f with
    | abort => exact Or.inr ⟨_, _, rfl, rfl⟩
    | status code =>
      obtain ⟨e, he, -⟩ := Fault.exists_outcome code call.verb call.key.kind
      rw [he]
      exact Or.inl ⟨_, _, rfl, .failed e⟩
  | none =>
    rw [FaultyCluster.perform_of_faultless hfault]
    exact Or.inl ⟨_, _, rfl, .of_perform rfl⟩

theorem World.handler_serves : World.handler.Serves (·.store.cluster) where
  call := World.call_cases
  preDelete _ _ := rfl
  publish _ _ _ := rfl
  record _ _ := rfl

structure Attempt where
  past : List Exchange
  call : Call
  before : Cluster
  after : Cluster

def Pass.attempts {σ α : Type} (h : Handler σ) (cluster : σ → Cluster) :
    Pass α → List Exchange → σ → List Attempt
  | done _, _, _ | abort _, _, _ => []
  | call c next, past, s =>
    match h.call c s with
    | (.ok reply, after) => ⟨past, c, cluster s, cluster after⟩ ::
        (next reply).attempts h cluster (past ++ [.called c reply]) after
    | (.error _, after) => [⟨past, c, cluster s, cluster after⟩]
  | preDelete app next, past, s =>
    match h.preDelete app s with
    | (.ok result, after) => (next result).attempts h cluster (past ++ [.hooked app result]) after
    | (.error _, _) => []
  | publish app event next, past, s => next.attempts h cluster past (h.publish app event s)
  | record change next, past, s => next.attempts h cluster past (h.record change s)

namespace Pass

variable {σ α : Type} {h : Handler σ} {cluster : σ → Cluster}
  {rule : List Exchange → Call → Prop} {I : List Exchange → Cluster → Prop}

/-- What holds of the cluster at the start, and is kept by each answer to a call that complies and
by all else that a pass does, holds at the end of each run, also of one that aborts. -/
theorem Obeys.run_invariant (hserves : h.Serves cluster)
    (hanswer : ∀ past c call reply after, rule past call → I past c →
      c.Answers call reply after → I (past ++ [.called call reply]) after)
    (hhook : ∀ past c app result, I past c → I (past ++ [.hooked app result]) c)
    {p : Pass α} {past : List Exchange} {post : α → List Exchange → Prop}
    (hp : p.Obeys Call.Admits rule past post) {s : σ} (hs : I past (cluster s)) :
    ∃ later, I later (cluster (p.run h s).2) := by
  induction p generalizing past s with
  | done | abort => exact ⟨past, hs⟩
  | call c next ih =>
    rcases hserves.call c s with ⟨reply, after, hcall, hreply⟩ | ⟨cause, after, hcall, hsame⟩
    · simp only [run, hcall]
      exact ih reply (hp.2 reply hreply.admits) (hanswer past _ c reply _ hp.1 hs hreply)
    · simp only [run, hcall]
      exact ⟨past, hsame ▸ hs⟩
  | preDelete app next ih =>
    have hsame := hserves.preDelete app s
    rcases hrun : h.preDelete app s with ⟨_ | result, after⟩
    · rw [hrun] at hsame
      simp only [run, hrun]
      exact ⟨past, hsame ▸ hs⟩
    · rw [hrun] at hsame
      simp only [run, hrun]
      exact ih result (hp result) (hhook past _ app result (hsame ▸ hs))
  | publish app event next ih => exact ih hp (hserves.publish app event s ▸ hs)
  | record change next ih => exact ih hp (hserves.record change s ▸ hs)

/-- Each call that a run issues complies, finds the cluster as it is kept, and does to it what an
answer does. -/
theorem Obeys.attempts (hserves : h.Serves cluster)
    (hanswer : ∀ past c call reply after, rule past call → I past c →
      c.Answers call reply after → I (past ++ [.called call reply]) after)
    (hhook : ∀ past c app result, I past c → I (past ++ [.hooked app result]) c)
    {p : Pass α} {past : List Exchange} {post : α → List Exchange → Prop}
    (hp : p.Obeys Call.Admits rule past post) {s : σ} (hs : I past (cluster s)) {m : Attempt}
    (hm : m ∈ p.attempts h cluster past s) :
    rule m.past m.call ∧ I m.past m.before ∧ ∃ reply, m.before.Answers m.call reply m.after := by
  induction p generalizing past s with
  | done | abort => exact absurd hm (by simp [Pass.attempts])
  | call c next ih =>
    rcases hserves.call c s with ⟨reply, after, hcall, hreply⟩ | ⟨cause, after, hcall, hsame⟩
    · simp only [Pass.attempts, hcall] at hm
      rcases List.mem_cons.1 hm with rfl | hm
      · exact ⟨hp.1, hs, reply, hreply⟩
      · exact ih reply (hp.2 reply hreply.admits) (hanswer past _ c reply _ hp.1 hs hreply) hm
    · simp only [Pass.attempts, hcall] at hm
      obtain rfl := List.mem_singleton.1 hm
      refine ⟨hp.1, hs, .error .notFound, ?_⟩
      rw [hsame]
      exact .failed _
  | preDelete app next ih =>
    have hsame := hserves.preDelete app s
    rcases hrun : h.preDelete app s with ⟨_ | result, after⟩
    · simp only [Pass.attempts, hrun] at hm
      exact absurd hm (by simp)
    · rw [hrun] at hsame
      simp only [Pass.attempts, hrun] at hm
      exact ih result (hp result) (hhook past _ app result (hsame ▸ hs)) hm
  | publish app event next ih => exact ih hp (hserves.publish app event s ▸ hs) hm
  | record change next ih => exact ih hp (hserves.record change s ▸ hs) hm

/-- A call that a run of two parts issues is one of the first part, or the first part comes to a
result and the call is one of the second part, which goes on with it. -/
theorem Obeys.mem_attempts_bind {β : Type} {f : α → Pass β} (hserves : h.Serves cluster)
    {p : Pass α} {past : List Exchange} {mid : α → List Exchange → Prop}
    (hp : p.Obeys Call.Admits rule past mid) {s : σ} {m : Attempt}
    (hm : m ∈ (p >>= f).attempts h cluster past s) :
    m ∈ p.attempts h cluster past s ∨ ∃ a later after, p.run h s = (.ok a, after) ∧
      mid a later ∧ m ∈ (f a).attempts h cluster later after := by
  change m ∈ (p.bind f).attempts h cluster past s at hm
  induction p generalizing past s with
  | done a => exact Or.inr ⟨a, past, s, rfl, hp, hm⟩
  | abort => exact absurd hm (by simp [Pass.bind, Pass.attempts])
  | call c next ih =>
    rcases hserves.call c s with ⟨reply, after, hcall, hreply⟩ | ⟨cause, after, hcall, -⟩
    · simp only [Pass.bind, Pass.attempts, hcall] at hm
      simp only [Pass.attempts, run, hcall]
      rcases List.mem_cons.1 hm with rfl | hm
      · exact Or.inl List.mem_cons_self
      · exact (ih reply (hp.2 reply hreply.admits) hm).imp_left (List.mem_cons_of_mem _)
    · simp only [Pass.bind, Pass.attempts, hcall] at hm
      simp only [Pass.attempts, hcall]
      exact Or.inl hm
  | preDelete app next ih =>
    rcases hrun : h.preDelete app s with ⟨_ | result, after⟩
    · simp only [Pass.bind, Pass.attempts, hrun] at hm
      exact absurd hm (by simp)
    · simp only [Pass.bind, Pass.attempts, hrun] at hm
      simp only [Pass.attempts, run, hrun]
      exact ih result (hp result) hm
  | publish app event next ih => exact ih hp hm
  | record change next ih => exact ih hp hm

end Pass

end CompositeApps
