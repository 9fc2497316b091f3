import CompositeApps.Reconcile.Pass

/-!
Two ways to reason about a pass. `Ends` says that a run from a state comes to a result, and what
holds of the result and of the state it leaves; it is built up along the steps of the pass.
`Obeys` says what every call of a pass complies with, whatever the answers are as long as they are
possible ones, given all that happened before it.
-/

namespace CompositeApps

namespace Pass

variable {σ α β : Type}

theorem run_bind (h : Handler σ) (p : Pass α) (f : α → Pass β) (s : σ) :
    (p >>= f).run h s = match p.run h s with
      | (.ok a, s) => (f a).run h s
      | (.error cause, s) => (.error cause, s) := by
  change (p.bind f).run h s = _
  induction p generalizing s with
  | done a => rfl
  | abort cause => rfl
  | call c next ih =>
    simp only [Pass.bind, run]
    rcases h.call c s with ⟨_ | reply, s⟩
    · rfl
    · exact ih reply s
  | preDelete app next ih =>
    simp only [Pass.bind, run]
    rcases h.preDelete app s with ⟨_ | result, s⟩
    · rfl
    · exact ih result s
  | publish app event next ih => exact ih (h.publish app event s)
  | record change next ih => exact ih (h.record change s)

/-- A run of two parts that comes to a result does so in each of them. -/
theorem exists_run_of_bind {h : Handler σ} {p : Pass α} {f : α → Pass β} {s after : σ} {b : β}
    (hrun : (p >>= f).run h s = (.ok b, after)) :
    ∃ a mid, p.run h s = (.ok a, mid) ∧ (f a).run h mid = (.ok b, after) := by
  rw [run_bind] at hrun
  rcases hfirst : p.run h s with ⟨cause | a, mid⟩ <;> rw [hfirst] at hrun
  · exact absurd (Prod.mk.inj hrun).1 (by simp)
  · exact ⟨a, mid, rfl, hrun⟩

theorem run_map (h : Handler σ) (p : Pass α) (f : α → β) (s : σ) :
    (p >>= fun a => pure (f a)).run h s = ((p.run h s).1.map f, (p.run h s).2) := by
  rw [run_bind]
  rcases p.run h s with ⟨_ | a, after⟩
  · rfl
  · rfl

/-- A run from a state comes to a result, and both the result and the state after it are as said. -/
def Ends (h : Handler σ) (p : Pass α) (s : σ) (post : α → σ → Prop) : Prop :=
  ∃ a after, p.run h s = (.ok a, after) ∧ post a after

namespace Ends

variable {h : Handler σ} {s : σ}

theorem pure {a : α} {Q : α → σ → Prop} (hpost : Q a s) :
    Ends h (Pure.pure a : Pass α) s Q :=
  ⟨a, s, rfl, hpost⟩

theorem bind {p : Pass α} {f : α → Pass β} {R : α → σ → Prop} {Q : β → σ → Prop}
    (hp : Ends h p s R) (hf : ∀ a after, R a after → Ends h (f a) after Q) :
    Ends h (p >>= f) s Q := by
  obtain ⟨a, after, hrun, hmid⟩ := hp
  obtain ⟨b, last, hrun', hpost⟩ := hf a after hmid
  refine ⟨b, last, ?_, hpost⟩
  rw [run_bind, hrun]
  exact hrun'

theorem mono {p : Pass α} {R Q : α → σ → Prop} (hp : Ends h p s R)
    (hpost : ∀ a after, R a after → Q a after) : Ends h p s Q := by
  obtain ⟨a, after, hrun, hmid⟩ := hp
  exact ⟨a, after, hrun, hpost a after hmid⟩

/-- There is but one run from a state. -/
theorem of_run {p : Pass α} {Q : α → σ → Prop} {a : α} {after : σ} (hp : Ends h p s Q)
    (hrun : p.run h s = (.ok a, after)) : Q a after := by
  obtain ⟨b, last, hrun', hpost⟩ := hp
  obtain ⟨hresult, rfl⟩ := Prod.mk.inj (hrun'.symm.trans hrun)
  exact Except.ok.inj hresult ▸ hpost

theorem perform {c : Call} {reply : Reply} {after : σ} {Q : Reply → σ → Prop}
    (hcall : h.call c s = (.ok reply, after)) (hpost : Q reply after) :
    Ends h (Pass.perform c) s Q := by
  refine ⟨reply, after, ?_, hpost⟩
  simp only [Pass.perform, run, hcall]

theorem tell {app : CompositeApp} {event : Event} {Q : Unit → σ → Prop}
    (hpost : Q () (h.publish app event s)) : Ends h (Pass.tell app event) s Q :=
  ⟨(), _, rfl, hpost⟩

theorem note {change : Change} {Q : Unit → σ → Prop}
    (hpost : Q () (h.record change s)) : Ends h (Pass.note change) s Q :=
  ⟨(), _, rfl, hpost⟩

end Ends

end Pass

inductive Exchange where
  | called (c : Call) (reply : Reply)
  | hooked (app : CompositeApp) (result : Except String Unit)

namespace Pass

variable {σ α β : Type}

/-- Every call of the pass complies with a rule, given the exchanges before it, and so does its
result; only the answers that are possible for a call are looked at. -/
def Obeys (possible : Call → Reply → Prop) (rule : List Exchange → Call → Prop) :
    Pass α → List Exchange → (α → List Exchange → Prop) → Prop
  | done a, past, post => post a past
  | abort _, _, _ => True
  | call c next, past, post =>
    rule past c ∧ ∀ reply, possible c reply →
      Obeys possible rule (next reply) (past ++ [.called c reply]) post
  | preDelete app next, past, post =>
    ∀ result, Obeys possible rule (next result) (past ++ [.hooked app result]) post
  | publish _ _ next, past, post => Obeys possible rule next past post
  | record _ next, past, post => Obeys possible rule next past post

variable {possible : Call → Reply → Prop} {rule : List Exchange → Call → Prop}

theorem Obeys.mono {p : Pass α} {past : List Exchange} {mid post : α → List Exchange → Prop}
    (hp : p.Obeys possible rule past mid) (hpost : ∀ a later, mid a later → post a later) :
    p.Obeys possible rule past post := by
  induction p generalizing past with
  | done a => exact hpost a past hp
  | abort cause => exact trivial
  | call c next ih => exact ⟨hp.1, fun reply hreply => ih reply (hp.2 reply hreply)⟩
  | preDelete app next ih => exact fun result => ih result (hp result)
  | publish app event next ih => exact ih hp
  | record change next ih => exact ih hp

theorem Obeys.bind {p : Pass α} {f : α → Pass β} {past : List Exchange}
    {mid : α → List Exchange → Prop} {post : β → List Exchange → Prop}
    (hp : p.Obeys possible rule past mid)
    (hf : ∀ a later, mid a later → (f a).Obeys possible rule later post) :
    (p >>= f).Obeys possible rule past post := by
  change (p.bind f).Obeys possible rule past post
  induction p generalizing past with
  | done a => exact hf a past hp
  | abort cause => exact trivial
  | call c next ih => exact ⟨hp.1, fun reply hreply => ih reply (hp.2 reply hreply)⟩
  | preDelete app next ih => exact fun result => ih result (hp result)
  | publish app event next ih => exact ih hp
  | record change next ih => exact ih hp

theorem Obeys.perform {c : Call} {past : List Exchange} {Q : Reply → List Exchange → Prop}
    (hrule : rule past c)
    (hpost : ∀ reply, possible c reply → Q reply (past ++ [.called c reply])) :
    (Pass.perform c).Obeys possible rule past Q :=
  ⟨hrule, hpost⟩

theorem Obeys.ofAborting {result : Aborting α} {past : List Exchange} :
    (Pass.ofAborting result).Obeys possible rule past fun a later =>
      result = .ok a ∧ later = past := by
  cases result with
  | ok a => exact ⟨rfl, rfl⟩
  | error cause => exact trivial

/-- A rule gives way to a weaker one; what happened before the pass is known at each call. -/
theorem Obeys.imp {rule' : List Exchange → Call → Prop} {p : Pass α} {past : List Exchange}
    {post : α → List Exchange → Prop}
    (hrule : ∀ later c, past ⊆ later → rule later c → rule' later c)
    (hp : p.Obeys possible rule past post) : p.Obeys possible rule' past post := by
  induction p generalizing past with
  | done a => exact hp
  | abort cause => exact trivial
  | call c next ih =>
    refine ⟨hrule past c (List.Subset.refl past) hp.1, fun reply hreply => ?_⟩
    refine ih reply (fun later call hlater => hrule later call ?_) (hp.2 reply hreply)
    exact fun e he => hlater (List.mem_append_left _ he)
  | preDelete app next ih =>
    intro result
    refine ih result (fun later call hlater => hrule later call ?_) (hp result)
    exact fun e he => hlater (List.mem_append_left _ he)
  | publish app event next ih => exact ih hrule hp
  | record change next ih => exact ih hrule hp

end Pass

end CompositeApps
