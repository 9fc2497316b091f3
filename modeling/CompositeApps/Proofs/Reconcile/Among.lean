import CompositeApps.Proofs.Reconcile.Run

/-!
Passes side by side on one state. `Concurrent` lets two passes take their steps in any order until
both have ended. `Among` says what one pass comes to among others that move the state on in an
agreed way only, as it does itself; what is shown so of each of two passes holds at the end of every
order of their steps.
-/

namespace CompositeApps

/-- How passes that work on one state agree to move it on. Several moves are one. -/
structure Moves (σ : Type) where
  rel : σ → σ → Prop
  refl : ∀ s, rel s s
  trans : ∀ {a b c}, rel a b → rel b c → rel a c

namespace Pass

variable {σ α β : Type}

def step? (h : Handler σ) : Pass α → σ → Option (Pass α × σ)
  | done _, _ | abort _, _ => none
  | call c next, s =>
    match h.call c s with
    | (.ok reply, s) => some (next reply, s)
    | (.error cause, s) => some (abort cause, s)
  | preDelete app next, s =>
    match h.preDelete app s with
    | (.ok result, s) => some (next result, s)
    | (.error cause, s) => some (abort cause, s)
  | publish app event next, s => some (next, h.publish app event s)
  | record change next, s => some (next, h.record change s)

/-- A pass takes no step once it has come to a result or was aborted. -/
theorem step?_eq_none {h : Handler σ} {p : Pass α} {s : σ} :
    p.step? h s = none ↔ (∃ a, p = done a) ∨ ∃ cause, p = abort cause := by
  constructor
  · intro hnone
    cases p with
    | done a => exact Or.inl ⟨a, rfl⟩
    | abort cause => exact Or.inr ⟨cause, rfl⟩
    | call | preDelete =>
      simp only [step?] at hnone
      split at hnone <;> exact absurd hnone (by simp)
    | publish | record => exact absurd hnone (by simp [step?])
  · rintro (⟨a, rfl⟩ | ⟨cause, rfl⟩) <;> rfl

/-- Two passes that take their steps on one state, in some order, until both have ended. -/
inductive Concurrent (h : Handler σ) : Pass α → Pass β → σ → σ → Prop where
  | ended {p : Pass α} {q : Pass β} {s : σ} (hp : p.step? h s = none) (hq : q.step? h s = none) :
      Concurrent h p q s s
  | left {p rest : Pass α} {q : Pass β} {s mid last : σ} (hstep : p.step? h s = some (rest, mid))
      (hrest : Concurrent h rest q mid last) : Concurrent h p q s last
  | right {p : Pass α} {q rest : Pass β} {s mid last : σ} (hstep : q.step? h s = some (rest, mid))
      (hrest : Concurrent h p rest mid last) : Concurrent h p q s last

/-- What holds of a pass that has ended, and of any other one if it holds after a step, holds of
every pass: none goes on for ever. -/
theorem steps_induction (h : Handler σ) {motive : Pass α → σ → Prop}
    (hended : ∀ p s, p.step? h s = none → motive p s)
    (hstep : ∀ p s rest mid, p.step? h s = some (rest, mid) → motive rest mid → motive p s)
    (p : Pass α) (s : σ) : motive p s := by
  induction p generalizing s with
  | done | abort => exact hended _ s rfl
  | call c next ih =>
    rcases hcall : h.call c s with ⟨cause | reply, mid⟩
    · refine hstep _ s (abort cause) mid ?_ (hended _ mid rfl)
      simp only [step?, hcall]
    · refine hstep _ s (next reply) mid ?_ (ih reply mid)
      simp only [step?, hcall]
  | preDelete app next ih =>
    rcases hrun : h.preDelete app s with ⟨cause | result, mid⟩
    · refine hstep _ s (abort cause) mid ?_ (hended _ mid rfl)
      simp only [step?, hrun]
    · refine hstep _ s (next result) mid ?_ (ih result mid)
      simp only [step?, hrun]
  | publish app event next ih => exact hstep _ s next _ rfl (ih _)
  | record change next ih => exact hstep _ s next _ rfl (ih _)

/-- Two passes can always be brought to their end, one after the other. -/
theorem exists_concurrent (h : Handler σ) (p : Pass α) (q : Pass β) (s : σ) :
    ∃ last, Concurrent h p q s last := by
  refine steps_induction h (motive := fun p s => ∃ last, Concurrent h p q s last) ?_ ?_ p s
  · intro p s hp
    refine steps_induction h (motive := fun q s => ∃ last, Concurrent h p q s last) ?_ ?_ q s
    · intro q now hq
      exact ⟨now, .ended (step?_eq_none.2 (step?_eq_none.1 hp)) hq⟩
    · rintro q now rest mid hstep ⟨last, hrest⟩
      exact ⟨last, .right hstep hrest⟩
  · rintro p now rest mid hstep ⟨last, hrest⟩
    exact ⟨last, .left hstep hrest⟩

/-- What a pass comes to when others move the state on between its steps, as far as it is agreed.
Each of its own steps moves the state on in the same way, none of them aborts, and its result is as
said at any later time. -/
def Among (h : Handler σ) (moves : Moves σ) : Pass α → σ → (α → σ → Prop) → Prop
  | done a, s, post => ∀ now, moves.rel s now → post a now
  | abort _, _, _ => False
  | call c next, s, post => ∀ now, moves.rel s now → ∃ reply after,
      h.call c now = (.ok reply, after) ∧ moves.rel now after ∧
        (next reply).Among h moves after post
  | preDelete app next, s, post => ∀ now, moves.rel s now → ∃ result after,
      h.preDelete app now = (.ok result, after) ∧ moves.rel now after ∧
        (next result).Among h moves after post
  | publish app event next, s, post => ∀ now, moves.rel s now →
      moves.rel now (h.publish app event now) ∧ next.Among h moves (h.publish app event now) post
  | record change next, s, post => ∀ now, moves.rel s now →
      moves.rel now (h.record change now) ∧ next.Among h moves (h.record change now) post

namespace Among

variable {h : Handler σ} {moves : Moves σ} {s : σ}

theorem later {p : Pass α} {now : σ} {post : α → σ → Prop} (hp : p.Among h moves s post)
    (hnow : moves.rel s now) : p.Among h moves now post := by
  cases p with
  | abort => exact hp
  | done | call | preDelete | publish | record =>
    intro last hlast
    exact hp last (moves.trans hnow hlast)

theorem step {p rest : Pass α} {mid : σ} {post : α → σ → Prop} (hp : p.Among h moves s post)
    (hstep : p.step? h s = some (rest, mid)) :
    moves.rel s mid ∧ rest.Among h moves mid post := by
  cases p with
  | done | abort => exact absurd hstep (by simp [step?])
  | call c next =>
    obtain ⟨reply, after, hcall, hmoves, hrest⟩ := hp s (moves.refl s)
    simp only [step?, hcall] at hstep
    obtain ⟨rfl, rfl⟩ := Prod.mk.inj (Option.some.inj hstep)
    exact ⟨hmoves, hrest⟩
  | preDelete app next =>
    obtain ⟨result, after, hrun, hmoves, hrest⟩ := hp s (moves.refl s)
    simp only [step?, hrun] at hstep
    obtain ⟨rfl, rfl⟩ := Prod.mk.inj (Option.some.inj hstep)
    exact ⟨hmoves, hrest⟩
  | publish app event next | record change next =>
    obtain ⟨rfl, rfl⟩ := Prod.mk.inj (Option.some.inj hstep)
    exact hp s (moves.refl s)

theorem ended {p : Pass α} {post : α → σ → Prop} (hp : p.Among h moves s post)
    (hstep : p.step? h s = none) : ∃ a, post a s := by
  rcases step?_eq_none.1 hstep with ⟨a, rfl⟩ | ⟨cause, rfl⟩
  · exact ⟨a, hp s (moves.refl s)⟩
  · exact absurd hp (by simp [Among])

theorem pure {a : α} {post : α → σ → Prop} (hpost : ∀ now, moves.rel s now → post a now) :
    (Pure.pure a : Pass α).Among h moves s post :=
  hpost

/-- The second part of a pass may rely on what the first part has come to, now and later, and on
that the state has been moved on since the first part began. -/
theorem bind_lasting {p : Pass α} {f : α → Pass β} {R : α → σ → Prop} {Q : β → σ → Prop}
    (hp : p.Among h moves s R)
    (hf : ∀ a now, moves.rel s now → (∀ last, moves.rel now last → R a last) →
      (f a).Among h moves now Q) : (p >>= f).Among h moves s Q := by
  change (p.bind f).Among h moves s Q
  induction p generalizing s with
  | done a => exact hf a s (moves.refl s) hp
  | abort => exact hp
  | call c next ih =>
    intro now hnow
    obtain ⟨reply, after, hcall, hmoves, hrest⟩ := hp now hnow
    refine ⟨reply, after, hcall, hmoves, ih reply hrest fun a last hlast => hf a last ?_⟩
    exact moves.trans hnow (moves.trans hmoves hlast)
  | preDelete app next ih =>
    intro now hnow
    obtain ⟨result, after, hrun, hmoves, hrest⟩ := hp now hnow
    refine ⟨result, after, hrun, hmoves, ih result hrest fun a last hlast => hf a last ?_⟩
    exact moves.trans hnow (moves.trans hmoves hlast)
  | publish app event next ih =>
    intro now hnow
    obtain ⟨hmoves, hrest⟩ := hp now hnow
    refine ⟨hmoves, ih hrest fun a last hlast => hf a last ?_⟩
    exact moves.trans hnow (moves.trans hmoves hlast)
  | record change next ih =>
    intro now hnow
    obtain ⟨hmoves, hrest⟩ := hp now hnow
    refine ⟨hmoves, ih hrest fun a last hlast => hf a last ?_⟩
    exact moves.trans hnow (moves.trans hmoves hlast)

theorem bind {p : Pass α} {f : α → Pass β} {R : α → σ → Prop} {Q : β → σ → Prop}
    (hp : p.Among h moves s R)
    (hf : ∀ a now, moves.rel s now → R a now → (f a).Among h moves now Q) :
    (p >>= f).Among h moves s Q :=
  hp.bind_lasting fun a now hnow hlasting => hf a now hnow (hlasting now (moves.refl now))

theorem mono {p : Pass α} {R Q : α → σ → Prop} (hp : p.Among h moves s R)
    (hpost : ∀ a now, moves.rel s now → R a now → Q a now) : p.Among h moves s Q := by
  rw [← bind_done p]
  refine hp.bind_lasting fun a now hnow hlasting last hlast => ?_
  exact hpost a last (moves.trans hnow hlast) (hlasting last hlast)

/-- One call: it is answered whenever it is made, and what is said of the answer is still true
later. -/
theorem perform {c : Call} {post : Reply → σ → Prop}
    (hcall : ∀ now, moves.rel s now → ∃ reply after, h.call c now = (.ok reply, after) ∧
      moves.rel now after ∧ ∀ last, moves.rel after last → post reply last) :
    (Pass.perform c).Among h moves s post :=
  hcall

end Among

/-- What two passes come to, each among others, holds once both have ended, in whatever order they
have taken their steps. -/
theorem Concurrent.ends {h : Handler σ} {moves : Moves σ} {p : Pass α} {q : Pass β} {s last : σ}
    {post : α → σ → Prop} {post' : β → σ → Prop} (hrun : Concurrent h p q s last)
    (hp : p.Among h moves s post) (hq : q.Among h moves s post') :
    (∃ a, post a last) ∧ ∃ b, post' b last := by
  induction hrun with
  | ended hpEnded hqEnded => exact ⟨hp.ended hpEnded, hq.ended hqEnded⟩
  | left hstep _ ih =>
    obtain ⟨hmoves, hrest⟩ := hp.step hstep
    exact ih hrest (hq.later hmoves)
  | right hstep _ ih =>
    obtain ⟨hmoves, hrest⟩ := hq.step hstep
    exact ih (hp.later hmoves) hrest

end Pass

end CompositeApps
