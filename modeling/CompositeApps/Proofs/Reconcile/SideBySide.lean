import CompositeApps.Proofs.Reconcile.Idempotence
import CompositeApps.Proofs.Reconcile.Underway

/-!
Two passes over one copy of an app, side by side. Each of them brings every target in line, whatever
the other one does meanwhile, so that the objects come out as after a single pass.
-/

namespace CompositeApps

namespace Pass

variable {app : CompositeApp} {start : Cluster} {w : World} {kind : ChildKind}

theorem tell_among (hw : w.Underway app start) (event : Event) :
    (tell app event).Among World.handler (World.onward app start) w fun _ _ => True :=
  fun _ hnow => ⟨.of_cluster (hnow.underway hw).calm rfl, fun _ _ => trivial⟩

theorem settle_among (hw : w.Underway app start) (change : Change) :
    (settle change).Among World.handler (World.onward app start) w fun _ _ => True :=
  fun _ hnow => ⟨.of_cluster (hnow.underway hw).calm rfl, fun _ _ => trivial⟩

/-- A lookup shows what was stored at some time since. -/
theorem lookup_among (hw : w.Underway app start) (key : ObjectKey) :
    (lookup key).Among World.handler (World.onward app start) w fun result now =>
      ∃ seen : World, seen.Underway app start ∧ seen.Onward app start now ∧
        result = (·.bind (·.child?)) <$> seen.store.cluster.get key := by
  unfold lookup
  refine Among.bind (R := fun reply now => ∃ seen : World, seen.Underway app start ∧
    seen.Onward app start now ∧ reply = seen.store.cluster.get key) ?_ ?_
  · refine Among.perform fun now hnow => ?_
    have hunderway := hnow.underway hw
    refine ⟨_, _, World.call_eq hunderway.calm rfl, .of_cluster hunderway.calm rfl,
      fun last hlast => ⟨now, hunderway, ?_, rfl⟩⟩
    refine World.Onward.trans ?_ hlast
    exact .of_cluster hunderway.calm rfl
  · rintro _ now - ⟨seen, hseen, honward, rfl⟩
    exact Among.pure fun last hlast => ⟨seen, hseen, honward.trans hlast, rfl⟩

section Targets

variable (hkeyed : start.Keyed) (hvalid : app.validate = .ok ())
  (halone : ∀ kind, ∀ target ∈ app.targets kind.scope, app.DeletesAlone start kind target)
include hkeyed hvalid halone

/-- A write that is planned for a target brings it in line. -/
theorem carryOut_among {target : Target} {action : Action} {write : Call}
    (hw : w.Underway app start) (htarget : target ∈ app.targets kind.scope)
    (hplan : app.plan kind target (start.get? (app.targetKey kind target)) = .ok action)
    (hwrite : action.write? (app.targetKey kind target) = some write) :
    (carryOut (app.targetKey kind target) action).Among World.handler (World.onward app start) w
      fun _ now => now.Attained app start kind target := by
  unfold carryOut
  simp only [hwrite]
  refine Among.bind (R := fun _ now => now.Attained app start kind target) ?_ ?_
  · refine Among.perform fun now hnow => ?_
    obtain ⟨reply, after, hcall, honward, hattained⟩ := (hnow.underway hw).exists_written hkeyed
      hvalid htarget (halone kind target htarget) hplan hwrite
    refine ⟨reply, after, hcall, honward, fun last hlast => ?_⟩
    exact World.Onward.kept hlast kind target htarget hattained
  · intro reply now hnow hattained
    cases reply with
    | error e => exact Among.pure fun last hlast => hlast.kept kind target htarget hattained
    | ok object =>
      refine (settle_among (hnow.underway hw) _).mono fun _ last hlast _ => ?_
      exact hlast.kept kind target htarget hattained

/-- A pass brings a target in line, or finds it so. -/
theorem converge_among {target : Target} (hw : w.Underway app start)
    (htarget : target ∈ app.targets kind.scope) :
    (converge app kind target).Among World.handler (World.onward app start) w fun _ now =>
      now.Attained app start kind target := by
  unfold converge
  refine (lookup_among hw (app.targetKey kind target)).bind ?_
  rintro _ now hnow ⟨seen, hseen, honward, rfl⟩
  cases hread : seen.store.cluster.get (app.targetKey kind target) with
  | error e =>
    have hplan : app.plan kind target (seen.store.cluster.get? (app.targetKey kind target)) =
        .error (.store kind.name target.name e) := CompositeApp.plan_of_unread hread
    refine Among.pure fun last hlast => ?_
    refine (honward.trans hlast).kept kind target htarget ?_
    exact hseen.attained_of_idle htarget fun _ h => absurd (hplan.symm.trans h) (by simp)
  | ok found =>
    obtain ⟨rfl, hfinite⟩ := Reply.ofStored_eq_ok.1 hread
    have hdesired := kind.desired_eq_wanted hvalid target.entry
      ((seen.store.cluster.get? (app.targetKey kind target)).bind (·.child?))
    refine Among.bind (R := fun desired _ => .ok desired = kind.desired app target.entry
      ((seen.store.cluster.get? (app.targetKey kind target)).bind (·.child?))) ?_ ?_
    · rw [hdesired]
      exact Among.pure fun _ _ => rfl
    intro desired later hlater hdecided
    have hsince : seen.Onward app start later := honward.trans hlater
    have hdecide : Action.decide app target.name desired
        ((seen.store.cluster.get? (app.targetKey kind target)).bind (·.child?)) =
        app.plan kind target (seen.store.cluster.get? (app.targetKey kind target)) :=
      (Action.decide_eq_choice hdecided.symm).trans (CompositeApp.plan_of_isFinite hfinite).symm
    rw [hdecide]
    -- The plan is for what was seen, which may have changed since.
    cases hplan : app.plan kind target (seen.store.cluster.get? (app.targetKey kind target)) with
    | error e =>
      refine Among.pure fun last hlast => ?_
      refine (hsince.trans hlast).kept kind target htarget ?_
      exact hseen.attained_of_idle htarget fun _ h => absurd (hplan.symm.trans h) (by simp)
    | ok action =>
      have hunderway := hsince.underway hseen
      cases hwrite : action.write? (app.targetKey kind target) with
      | none =>
        obtain rfl := Action.write?_eq_none hwrite
        refine (settle_among hunderway _).mono fun _ last hlast _ => ?_
        refine (hsince.trans hlast).kept kind target htarget ?_
        exact hseen.attained_of_idle htarget fun _ h => Except.ok.inj (h.symm.trans hplan)
      | some write =>
        have hchange : action ≠ .keep := by
          rintro rfl
          exact absurd hwrite (by simp [Action.write?])
        have hstart := hseen.plan_of_write hvalid htarget hplan hchange
        exact carryOut_among hkeyed hvalid halone hunderway htarget hstart hwrite

theorem convergeAll_among {targets : List Target} (hw : w.Underway app start)
    (htargets : ∀ target ∈ targets, target ∈ app.targets kind.scope) :
    (convergeAll app kind targets).Among World.handler (World.onward app start) w fun _ now =>
      ∀ target ∈ targets, now.Attained app start kind target := by
  induction targets generalizing w with
  | nil => exact Among.pure fun _ _ => by simp
  | cons target rest ih =>
    have htarget := htargets target List.mem_cons_self
    refine (converge_among hkeyed hvalid halone hw htarget).bind ?_
    intro _ now hnow hhead
    refine (ih (hnow.underway hw) fun other hother =>
      htargets other (List.mem_cons_of_mem _ hother)).bind ?_
    intro _ later hlater hrest
    refine Among.pure fun last hlast other hother => ?_
    refine hlast.kept kind other (htargets other hother) ?_
    rcases List.mem_cons.1 hother with rfl | hother
    · exact hlater.kept kind other htarget hhead
    · exact hrest other hother

end Targets

theorem settleKind_among (hw : w.Underway app start) (p : Progress)
    (results : List (Except ApplyError Change)) :
    (settleKind app p results).Among World.handler (World.onward app start) w fun _ _ => True := by
  unfold settleKind
  dsimp only
  cases ApplyError.chief? results with
  | none => exact Among.pure fun _ _ => trivial
  | some e =>
    dsimp only
    split
    · exact Among.pure fun _ _ => trivial
    · exact (tell_among hw _).bind fun _ _ _ _ => Among.pure fun _ _ => trivial

theorem observeAll_among {targets : List Target} {status : AppStatus}
    (hw : w.Underway app start) :
    (observeAll app kind status targets).Among World.handler (World.onward app start) w
      fun _ _ => True := by
  induction targets generalizing w status with
  | nil => exact Among.pure fun _ _ => trivial
  | cons target rest ih =>
    refine (lookup_among hw (app.targetKey kind target)).bind ?_
    intro result now hnow _
    cases result with
    | error e => exact Among.pure fun _ _ => trivial
    | ok observed => exact ih (hnow.underway hw)

theorem updateStatus_among {status : AppStatus} (hw : w.Underway app start) :
    (updateStatus app kind status).Among World.handler (World.onward app start) w
      fun _ _ => True := by
  unfold updateStatus
  split
  · exact observeAll_among hw
  · exact Among.pure fun _ _ => trivial

theorem settleStatus_among (hw : w.Underway app start) (p : Progress) (status : AppStatus)
    (error : Option ApplyError) :
    (settleStatus app p status error).Among World.handler (World.onward app start) w
      fun _ _ => True := by
  unfold settleStatus
  cases error with
  | none => exact Among.pure fun _ _ => trivial
  | some e => exact (tell_among hw _).bind fun _ _ _ _ => Among.pure fun _ _ => trivial

/-- A write of the status touches nothing but the app, whether or not it works. -/
theorem writeStatus_among {status : AppStatus} (hkeyed : start.Keyed)
    (hw : w.Underway app start) :
    (writeStatus app status).Among World.handler (World.onward app start) w fun _ _ => True := by
  unfold writeStatus
  split
  · exact Among.pure fun _ _ => trivial
  refine Among.bind (R := fun _ _ => True) (Among.perform fun now hnow => ?_) ?_
  · have hcalm := (hnow.underway hw).calm
    rcases hperform : now.store.cluster.perform
        (.replaceStatus (.app { app with status := some status })) with ⟨reply, cluster⟩
    refine ⟨reply, _, World.call_eq hcalm hperform, ?_, fun _ _ => trivial⟩
    rcases Cluster.effect_or_eq hperform with ⟨stored, heffect⟩ | rfl
    · have hconfined := heffect.confined_of_replaceStatus
        ((hnow.underway hw).confined.keyed hkeyed) app.metadata.uid
      refine .of_confined hcalm hconfined ?_ ?_
      · rintro key rfl
        exact Or.inr rfl
      · intro kind target htarget hsame
        refine absurd hsame ?_
        exact CompositeApp.ne_storeKey_of_covers (.of_mem kind.mem_all htarget)
    · exact .of_cluster hcalm rfl
  · intro reply now _ _
    split <;> exact Among.pure fun _ _ => trivial

section Kinds

variable (hkeyed : start.Keyed) (hvalid : app.validate = .ok ())
  (halone : ∀ kind, ∀ target ∈ app.targets kind.scope, app.DeletesAlone start kind target)
include hkeyed hvalid halone

theorem lookAfter_among {p : Progress} (hw : w.Underway app start) :
    (lookAfter app p kind).Among World.handler (World.onward app start) w fun _ now =>
      ∀ target ∈ app.targets kind.scope, now.Attained app start kind target := by
  unfold lookAfter apply
  refine (convergeAll_among hkeyed hvalid halone hw fun _ => id).bind ?_
  intro results now hnow hattained
  refine (settleKind_among (hnow.underway hw) p results).bind ?_
  intro p' mid hmid _
  have hmidWay := hmid.underway (hnow.underway hw)
  refine (updateStatus_among hmidWay).bind ?_
  intro observed later hlater _
  refine (settleStatus_among (hlater.underway hmidWay) _ _ _).mono ?_
  intro _ last hlast _ target htarget
  exact ((hmid.trans hlater).trans hlast).kept kind target htarget (hattained target htarget)

theorem lookAfterAll_among {kinds : List ChildKind} {p : Progress} (hw : w.Underway app start) :
    (lookAfterAll app p kinds).Among World.handler (World.onward app start) w fun _ now =>
      ∀ kind ∈ kinds, ∀ target ∈ app.targets kind.scope, now.Attained app start kind target := by
  induction kinds generalizing w p with
  | nil => exact Among.pure fun _ _ => by simp
  | cons kind rest ih =>
    refine (lookAfter_among hkeyed hvalid halone hw).bind ?_
    intro p' now hnow hhead
    refine (ih (hnow.underway hw)).mono ?_
    intro _ last hlast hrest other hother target htarget
    rcases List.mem_cons.1 hother with rfl | hother
    · exact hlast.kept other target htarget (hhead target htarget)
    · exact hrest other hother target htarget

/-- A pass behind the gate brings every target in line, whatever the others do meanwhile. -/
theorem bringInLine_among (hw : w.Underway app start) :
    (bringInLine app).Among World.handler (World.onward app start) w fun _ now =>
      now.Underway app start ∧ ∀ kind, ∀ target ∈ app.targets kind.scope,
        now.Attained app start kind target := by
  unfold bringInLine
  refine (lookAfterAll_among hkeyed hvalid halone hw).bind ?_
  intro p now hnow hattained
  have hnowWay := hnow.underway hw
  have hfinish : ∀ told : World, now.Onward app start told →
      (do return conclude (← writeStatus app (p.finalStatus app)) p.outcome :
        Pass (Except PassError PassOutcome)).Among World.handler (World.onward app start) told
        fun _ last => last.Underway app start ∧ ∀ kind, ∀ target ∈ app.targets kind.scope,
          last.Attained app start kind target := by
    intro told htold
    refine (writeStatus_among hkeyed (htold.underway hnowWay)).bind ?_
    intro _ later hlater _
    refine Among.pure fun last hlast => ?_
    have hsince := (htold.trans hlater).trans hlast
    refine ⟨hsince.underway hnowWay, fun kind target htarget => ?_⟩
    exact hsince.kept kind target htarget (hattained kind kind.mem_all target htarget)
  dsimp only
  by_cases hnews : p.isNews = true
  · rw [if_pos hnews]
    exact (tell_among hnowWay _).bind fun _ told htold _ => hfinish told htold
  · rw [if_neg hnews]
    exact hfinish now (.refl app start now)

end Kinds

end Pass

/-- Two passes over one copy of a valid live app that carries the finalizer, side by side: in every
order of their steps the objects made for apps come out as after a single pass, but for the
versions and uids that the store gives out. -/
theorem World.reconcile_side_by_side {w : World} {app : CompositeApp} (elapsed : Duration)
    (hcalm : w.store.rules = []) (hkeyed : w.store.cluster.Keyed)
    (hvalid : app.validate = .ok ())
    (hstored : w.store.cluster.get? app.storeKey = some (.app app))
    (hlive : app.metadata.isTerminating = false)
    (hheld : finalizer ∈ app.metadata.finalizerList)
    (halone : app.ChildrenAlone w.store.cluster) :
    (∃ last, Pass.Concurrent handler (Pass.reconcile app) (Pass.reconcile app) w last) ∧
    ∀ last, Pass.Concurrent handler (Pass.reconcile app) (Pass.reconcile app) w last →
      ∀ key kind, key.kind = .child kind →
        (last.store.cluster.get? key).map Resource.unstamped =
          ((w.reconcile app elapsed).2.store.cluster.get? key).map Resource.unstamped := by
  refine ⟨Pass.exists_concurrent _ _ _ w, ?_⟩
  intro last hlast key kind hkind
  have hregistered := FinalizerState.of_eq_registered.2 ⟨hheld, hlive⟩
  have hwork : Pass.reconcile app = Pass.bringInLine app := by
    rw [Pass.reconcile_of_registered hregistered]
    simp only [Pass.work, hvalid]
  have hstart : w.Underway app w.store.cluster :=
    ⟨hcalm, .refl _ _ _, fun _ _ _ => Or.inl rfl⟩
  have hamong := Pass.bringInLine_among hkeyed hvalid
    (fun kind target _ => halone.deletesAlone kind target) hstart
  rw [hwork] at hlast
  obtain ⟨⟨-, hway, hattained⟩, -⟩ := hlast.ends hamong hamong
  obtain ⟨after, ⟨p, hp, hresult, hline, -⟩, hstore⟩ := reconcile_of_ends elapsed
    (Pass.reconcile_valid_ends (w := { w with changes := [] }) hcalm hkeyed hvalid hlive hstored
      fun kind _ target _ => halone.deletesAlone kind target)
  rw [hstore]
  by_cases hcovers : app.Covers ChildKind.all key
  · obtain ⟨kind, -, target, htarget, rfl⟩ := hcovers
    exact (hattained kind target htarget).unstamped_eq
      (hline.brought kind kind.mem_all target htarget)
  · have hother : ¬ (app.Covers ChildKind.all key ∨ key = app.storeKey) := by
      rintro (hcovered | rfl)
      · exact hcovers hcovered
      · exact Kind.noConfusion hkind
    rw [hway.confined.frame key hother, hline.confined.frame key hother]

def Example.heldShop : CompositeApp :=
  shopHeldBy (some [finalizer])

def Example.heldWorld : World :=
  worldHeldBy (some [finalizer])

/-- Two passes that have six writes to do between them. -/
theorem World.reconcile_side_by_side_example :
    (Example.heldWorld.reconcile Example.heldShop default).1 = .ok (.converged true 6) ∧
    (∃ last, Pass.Concurrent handler (Pass.reconcile Example.heldShop)
      (Pass.reconcile Example.heldShop) Example.heldWorld last) ∧
    ∀ last, Pass.Concurrent handler (Pass.reconcile Example.heldShop)
        (Pass.reconcile Example.heldShop) Example.heldWorld last →
      ∀ key kind, key.kind = .child kind →
        (last.store.cluster.get? key).map Resource.unstamped =
          ((Example.heldWorld.reconcile Example.heldShop default).2.store.cluster.get? key).map
            Resource.unstamped := by
  have hstored : Example.heldWorld.store.cluster.get? Example.heldShop.storeKey =
      some (.app Example.heldShop) := by
    decide +kernel
  have hheld : finalizer ∈ Example.heldShop.metadata.finalizerList := by decide
  exact ⟨rfl, World.reconcile_side_by_side default rfl (Example.keyed_heldBy _) rfl hstored rfl
    hheld (Example.childrenAlone_heldBy _)⟩

end CompositeApps
