import CompositeApps.Proofs.Cluster.Faults
import CompositeApps.Proofs.Reconcile.Calls
import CompositeApps.Proofs.Reconcile.SideBySide

/-!
A pass in a world in which the server fails calls on some kinds. What fails for one kind reaches no
other: the objects of a kind for which there is no fault are brought in line as if there were none
at all.
-/

namespace CompositeApps

namespace World

variable {w mid after : World} {app : CompositeApp} {keys others : ObjectKey → Prop}

structure Reads (w after : World) : Prop where
  cluster : after.store.cluster = w.store.cluster
  rules : after.store.rules = w.store.rules

theorem Reads.of_store (hstore : after.store = w.store) : w.Reads after :=
  ⟨congrArg FaultyCluster.cluster hstore, congrArg FaultyCluster.rules hstore⟩

theorem Reads.trans (h : w.Reads mid) (h' : mid.Reads after) : w.Reads after :=
  ⟨h'.cluster.trans h.cluster, h'.rules.trans h.rules⟩

/-- A later world with the same faults that differs in nothing but what is stored under some keys.
The targets among them are brought in line if their kind has no faults. -/
structure Tends (w : World) (app : CompositeApp) (keys : ObjectKey → Prop) (after : World) :
    Prop where
  rules : after.store.rules = w.store.rules
  confined : w.store.cluster.Confined app.metadata.uid keys after.store.cluster
  brought : ∀ kind : ChildKind, w.store.Spares (.child kind) →
    ∀ target ∈ app.targets kind.scope, keys (app.targetKey kind target) →
      app.Brought kind target (w.store.cluster.get? (app.targetKey kind target))
        (after.store.cluster.get? (app.targetKey kind target))

namespace Tends

theorem of_reads (h : w.Reads after) : w.Tends app (fun _ => False) after where
  rules := h.rules
  confined := by
    rw [h.cluster]
    exact .refl _ _ _
  brought _ _ _ _ hkey := hkey.elim

theorem then_reads (h : w.Tends app keys mid) (h' : mid.Reads after) :
    w.Tends app keys after where
  rules := h'.rules.trans h.rules
  confined := by
    rw [h'.cluster]
    exact h.confined
  brought kind hspares target htarget hkey := by
    rw [h'.cluster]
    exact h.brought kind hspares target htarget hkey

theorem after_reads (h : w.Reads mid) (h' : mid.Tends app keys after) :
    w.Tends app keys after where
  rules := h'.rules.trans h.rules
  confined := by
    rw [← h.cluster]
    exact h'.confined
  brought kind hspares target htarget hkey := by
    rw [← h.cluster]
    exact h'.brought kind (hspares.of_rules h.rules) target htarget hkey

theorem congr (h : w.Tends app keys after) (hkeys : ∀ key, others key ↔ keys key) :
    w.Tends app others after := by
  obtain rfl : others = keys := funext fun key => propext (hkeys key)
  exact h

/-- What is done under some keys leaves what was done under others. -/
theorem trans (h : w.Tends app keys mid) (h' : mid.Tends app others after)
    (hapart : ∀ key, keys key → ¬others key) :
    w.Tends app (fun key => keys key ∨ others key) after where
  rules := h'.rules.trans h.rules
  confined := h.confined.trans h'.confined
  brought kind hspares target htarget hkey := by
    rcases hkey with hfirst | hsecond
    · rw [h'.confined.frame _ (hapart _ hfirst)]
      exact h.brought kind hspares target htarget hfirst
    · have hfresh : ¬keys (app.targetKey kind target) := fun hfirst => hapart _ hfirst hsecond
      have hbrought := h'.brought kind (hspares.of_rules h.rules) target htarget hsecond
      rwa [h.confined.frame _ hfresh] at hbrought

/-- What is done to the app itself. -/
theorem of_app (hrules : after.store.rules = w.store.rules)
    (hconfined : w.store.cluster.Confined app.metadata.uid (· = app.storeKey)
      after.store.cluster) : w.Tends app (· = app.storeKey) after where
  rules := hrules
  confined := hconfined
  brought kind _ target _ hkey := absurd hkey (app.targetKey_ne_storeKey app kind target)

/-- The work on a single target. -/
theorem of_target {kind : ChildKind} {target : Target} (hvalid : app.validate = .ok ())
    (htarget : target ∈ app.targets kind.scope) (hrules : after.store.rules = w.store.rules)
    (hconfined : w.store.cluster.Confined app.metadata.uid (· = app.targetKey kind target)
      after.store.cluster)
    (hbrought : w.store.Spares (.child kind) →
      app.Brought kind target (w.store.cluster.get? (app.targetKey kind target))
        (after.store.cluster.get? (app.targetKey kind target))) :
    w.Tends app (· = app.targetKey kind target) after where
  rules := hrules
  confined := hconfined
  brought other hspares twin htwin hkey := by
    obtain ⟨rfl, rfl⟩ := CompositeApp.targetKey_inj hvalid htarget htwin hkey
    exact hbrought hspares

/-- A target that is left as it was. -/
theorem of_left {kind : ChildKind} {target : Target} (hvalid : app.validate = .ok ())
    (htarget : target ∈ app.targets kind.scope) (hreads : w.Reads after)
    (hleft : w.store.Spares (.child kind) →
      app.Brought kind target (w.store.cluster.get? (app.targetKey kind target))
        (w.store.cluster.get? (app.targetKey kind target))) :
    w.Tends app (· = app.targetKey kind target) after := by
  refine .of_target hvalid htarget hreads.rules ?_ fun hspares => ?_
  · rw [hreads.cluster]
    exact .refl _ _ _
  · rw [hreads.cluster]
    exact hleft hspares

end Tends

end World

/-- The write that is chosen for a target is one of its object. -/
theorem CompositeApp.key_of_choice {app : CompositeApp} {kind : ChildKind} {target : Target}
    {stored : Option Resource} {action : Action} {write : Call} (hvalid : app.validate = .ok ())
    (htarget : target ∈ app.targets kind.scope)
    (hchoice : app.choice kind target stored = .ok action)
    (hwrite : action.write? (app.targetKey kind target) = some write) :
    write.key = app.targetKey kind target := by
  have hverdict := app.choice_verdict kind target stored
  have hdesired := kind.desired_eq_wanted hvalid target.entry (stored.bind (·.child?))
  rw [hchoice] at hverdict
  cases hverdict with
  | unmanaged | gone | right => exact absurd hwrite (by simp [Action.write?])
  | obsolete =>
    obtain rfl := Option.some.inj hwrite
    rfl
  | missing wanted claimed hwanted _ hclaim =>
    obtain rfl := Option.some.inj hwrite
    rw [hwanted] at hdesired
    exact key_of_claim htarget hdesired hclaim
  | drifted wanted seen claimed hwanted _ _ hclaim =>
    obtain rfl := Option.some.inj hwrite
    rw [hwanted] at hdesired
    exact key_of_preparedUpdate htarget hdesired hclaim

namespace Pass

variable {w : World} {app : CompositeApp} {kind : ChildKind} {target : Target}

/-- Where all faults are answers of the server, a call comes back. -/
theorem Ends.tried {c : Call} {Q : Reply → World → Prop} (hanswering : w.store.Answering)
    (hpost : ∀ reply store, w.store.Tried c reply store → Q reply { w with store }) :
    Ends World.handler (Pass.perform c) w Q := by
  obtain ⟨reply, store, hperform, htried⟩ := FaultyCluster.exists_tried hanswering c
  have hcall : World.handler.call c w = (.ok reply, { w with store }) := by
    simp only [World.handler, World.call, hperform]
  exact Ends.perform hcall (hpost reply store htried)

/-- A lookup shows what is read, or it fails of a fault for the kind. -/
theorem lookup_tried (hanswering : w.store.Answering) (key : ObjectKey) :
    Ends World.handler (lookup key) w fun result after => w.Reads after ∧
      (result = (·.bind (·.child?)) <$> w.store.cluster.get key ∨
        (∃ e, result = .error e) ∧ ¬w.store.Spares key.kind) := by
  unfold lookup
  refine Ends.bind (R := fun reply after => w.Reads after ∧
    (reply = w.store.cluster.get key ∨
      (∃ e, reply = .error e) ∧ ¬w.store.Spares key.kind)) (Ends.tried hanswering ?_) ?_
  · intro reply store htried
    rcases htried.served_or_failed with ⟨hreply, hcluster⟩ | ⟨hreply, hcluster, hnamed⟩
    · exact ⟨⟨hcluster, htried.rules_eq⟩, .inl hreply⟩
    · exact ⟨⟨hcluster, htried.rules_eq⟩, .inr ⟨hreply, hnamed⟩⟩
  · rintro reply after ⟨hreads, rfl | ⟨⟨e, rfl⟩, hnamed⟩⟩
    · exact Ends.pure ⟨hreads, Or.inl rfl⟩
    · exact Ends.pure ⟨hreads, Or.inr ⟨⟨e, rfl⟩, hnamed⟩⟩

/-- A lookup for which there is no fault shows what is read. -/
theorem lookup_served (key : ObjectKey) (hserved : w.store.faultOf? .get key.kind = none) :
    Ends World.handler (lookup key) w fun result after => w.Reads after ∧
      result = (·.bind (·.child?)) <$> w.store.cluster.get key := by
  let store : FaultyCluster := { w.store with calls := w.store.calls ++ [LoggedCall.of (.get key)] }
  have hperform : w.store.perform (.get key) = (.ok (w.store.cluster.get key), store) :=
    FaultyCluster.perform_of_faultless hserved
  have hcall : World.handler.call (.get key) w =
      (.ok (w.store.cluster.get key), { w with store }) := by
    simp only [World.handler, World.call, hperform]
  unfold lookup
  refine Ends.bind (R := fun reply after => w.Reads after ∧
    reply = w.store.cluster.get key) (Ends.perform hcall ⟨⟨rfl, rfl⟩, rfl⟩) ?_
  rintro _ after ⟨hreads, rfl⟩
  exact Ends.pure ⟨hreads, rfl⟩

theorem tell_reads (event : Event) :
    Ends World.handler (tell app event) w fun _ after => w.Reads after :=
  Ends.tell (.of_store rfl)

theorem settle_reads (change : Change) :
    Ends World.handler (settle change) w fun _ after => w.Reads after :=
  Ends.bind (Ends.note (Q := fun _ after => w.Reads after) (.of_store rfl))
    fun _ _ hreads => Ends.pure hreads

/-- A planned write is tried, and if there is no fault for its kind then it works. -/
theorem carryOut_tends {action : Action} (hanswering : w.store.Answering)
    (hkeyed : w.store.cluster.Keyed) (hvalid : app.validate = .ok ())
    (htarget : target ∈ app.targets kind.scope)
    (halone : app.DeletesAlone w.store.cluster kind target)
    (hplan : app.plan kind target (w.store.cluster.get? (app.targetKey kind target)) =
      .ok action) :
    Ends World.handler (carryOut (app.targetKey kind target) action) w fun _ after =>
      w.Tends app (· = app.targetKey kind target) after := by
  unfold carryOut
  cases hwrite : action.write? (app.targetKey kind target) with
  | none =>
    obtain rfl := Action.write?_eq_none hwrite
    refine (settle_reads _).mono fun _ after hreads => .of_left hvalid htarget hreads fun _ => ?_
    rw [CompositeApp.Brought, hplan]
    exact .kept _
  | some write =>
    obtain ⟨reply, cluster, hworks, hconfined, hyields⟩ :=
      Cluster.exists_perform_of_plan hkeyed hvalid htarget halone hplan hwrite
    have hchoice := (CompositeApp.plan_eq_ok.1 hplan).2
    have hkey := CompositeApp.key_of_choice hvalid htarget hchoice hwrite
    have htried : Ends World.handler (perform write) w fun _ mid =>
        w.Tends app (· = app.targetKey kind target) mid := by
      refine Ends.tried hanswering fun reply' store htried => ?_
      rcases htried.served_or_failed with ⟨-, hcluster⟩ | ⟨-, hcluster, hnamed⟩
      · rw [hworks] at hcluster
        refine .of_target hvalid htarget htried.rules_eq ?_ fun _ => ?_
        · rw [hcluster]
          exact hconfined
        · rw [hcluster, CompositeApp.Brought, hplan]
          exact hyields
      · rw [hkey] at hnamed
        exact .of_left hvalid htarget ⟨hcluster, htried.rules_eq⟩
          fun hspares => absurd hspares hnamed
    refine htried.bind fun reply mid hmid => ?_
    cases reply with
    | error e => exact Ends.pure hmid
    | ok object => exact (settle_reads _).mono fun _ after hreads => hmid.then_reads hreads

theorem converge_tends (hanswering : w.store.Answering) (hkeyed : w.store.cluster.Keyed)
    (hvalid : app.validate = .ok ()) (htarget : target ∈ app.targets kind.scope)
    (halone : app.DeletesAlone w.store.cluster kind target) :
    Ends World.handler (converge app kind target) w fun _ after =>
      w.Tends app (· = app.targetKey kind target) after := by
  unfold converge
  refine (lookup_tried hanswering (app.targetKey kind target)).bind ?_
  rintro _ mid ⟨hreads, rfl | ⟨⟨e, rfl⟩, hnamed⟩⟩
  · cases hread : w.store.cluster.get (app.targetKey kind target) with
    | error e =>
      refine Ends.pure (.of_left hvalid htarget hreads fun _ => ?_)
      rw [CompositeApp.Brought, CompositeApp.plan_of_unread hread]
    | ok found =>
      obtain ⟨rfl, hfinite⟩ := Reply.ofStored_eq_ok.1 hread
      have hdesired := kind.desired_eq_wanted hvalid target.entry
        ((w.store.cluster.get? (app.targetKey kind target)).bind (·.child?))
      refine Ends.bind (R := fun desired last => .ok desired = kind.desired app target.entry
        ((w.store.cluster.get? (app.targetKey kind target)).bind (·.child?)) ∧ last = mid) ?_ ?_
      · rw [hdesired]
        exact ⟨_, mid, rfl, rfl, rfl⟩
      rintro desired last ⟨hdecided, rfl⟩
      rw [Action.decide_eq_choice hdecided.symm, ← CompositeApp.plan_of_isFinite hfinite]
      cases hplan : app.plan kind target (w.store.cluster.get? (app.targetKey kind target)) with
      | error e =>
        refine Ends.pure (.of_left hvalid htarget hreads fun _ => ?_)
        rw [CompositeApp.Brought, hplan]
      | ok action =>
        have hanswering' := hanswering.of_rules hreads.rules
        rw [← hreads.cluster] at hkeyed halone hplan
        exact (carryOut_tends hanswering' hkeyed hvalid htarget halone hplan).mono
          fun _ after htends => .after_reads hreads htends
  · refine Ends.pure (.of_left hvalid htarget hreads fun hspares => ?_)
    exact absurd hspares hnamed

/-- The targets of a kind are seen to one after the other, whatever becomes of each. -/
theorem convergeAll_tends {targets : List Target} (hanswering : w.store.Answering)
    (hkeyed : w.store.cluster.Keyed) (hvalid : app.validate = .ok ())
    (htargets : ∀ target ∈ targets, target ∈ app.targets kind.scope)
    (hnodup : (targets.map (·.name)).Nodup)
    (halone : ∀ target ∈ targets, app.DeletesAlone w.store.cluster kind target) :
    Ends World.handler (convergeAll app kind targets) w fun _ after =>
      w.Tends app (fun key => ∃ target ∈ targets, key = app.targetKey kind target) after := by
  induction targets generalizing w with
  | nil => exact Ends.pure ((World.Tends.of_reads (.of_store rfl)).congr (by simp))
  | cons target rest ih =>
    obtain ⟨hhead, hrest⟩ := List.nodup_cons.1 hnodup
    have hapart : ∀ key, key = app.targetKey kind target →
        ¬∃ other ∈ rest, key = app.targetKey kind other := by
      rintro _ rfl ⟨other, hother, hkey⟩
      have hname : other.name = target.name := (congrArg ObjectKey.name hkey).symm
      exact hhead (List.mem_map.2 ⟨other, hother, hname⟩)
    refine (converge_tends hanswering hkeyed hvalid (htargets target List.mem_cons_self)
      (halone target List.mem_cons_self)).bind ?_
    intro result mid hmid
    have halone' : ∀ other ∈ rest, app.DeletesAlone mid.store.cluster kind other := by
      intro other hother
      refine (halone other (List.mem_cons_of_mem _ hother)).of_confined hmid.confined ?_
      exact fun hkey => hapart _ hkey ⟨other, hother, rfl⟩
    refine (ih (hanswering.of_rules hmid.rules) (hmid.confined.keyed hkeyed)
      (fun other hother => htargets other (List.mem_cons_of_mem _ hother)) hrest halone').bind ?_
    intro results after hafter
    refine Ends.pure ((hmid.trans hafter hapart).congr fun key => ?_)
    simp only [List.mem_cons, exists_eq_or_imp]

theorem observeAll_reads {targets : List Target} {status : AppStatus}
    (hanswering : w.store.Answering) :
    Ends World.handler (observeAll app kind status targets) w fun _ after => w.Reads after := by
  induction targets generalizing w status with
  | nil => exact Ends.pure (.of_store rfl)
  | cons target rest ih =>
    refine (lookup_tried hanswering (app.targetKey kind target)).bind ?_
    rintro result mid ⟨hreads, -⟩
    cases result with
    | ok observed =>
      exact (ih (hanswering.of_rules hreads.rules)).mono fun _ after hmore => hreads.trans hmore
    | error e => exact Ends.pure hreads

theorem observeAll_served {targets : List Target} {status : AppStatus}
    (hkeyed : w.store.cluster.Keyed) (hobserves : kind.observes = true)
    (hserved : w.store.faultOf? .get (.child kind) = none) :
    Ends World.handler (observeAll app kind status targets) w fun result after =>
      w.Reads after ∧ result = (app.observedOf w.store.cluster kind targets status, none) := by
  induction targets generalizing w status with
  | nil => exact Ends.pure ⟨.of_store rfl, rfl⟩
  | cons target rest ih =>
    refine (lookup_served (app.targetKey kind target) hserved).bind ?_
    rintro _ mid ⟨hreads, rfl⟩
    rw [Cluster.get_of_observes app target hkeyed hobserves]
    have hserved' : mid.store.faultOf? .get (.child kind) = none := by
      rw [FaultyCluster.faultOf?_of_rules hreads.rules, hserved]
    refine (ih (hreads.cluster ▸ hkeyed) hserved').mono ?_
    rintro _ after ⟨hmore, rfl⟩
    refine ⟨hreads.trans hmore, ?_⟩
    rw [hreads.cluster]
    rfl

/-- The status shows the objects of the kind as they are stored, if they can be looked up. -/
theorem updateStatus_reads {status : AppStatus} (hanswering : w.store.Answering)
    (hkeyed : w.store.cluster.Keyed) :
    Ends World.handler (updateStatus app kind status) w fun result after =>
      w.Reads after ∧ ((kind.observes = true → w.store.faultOf? .get (.child kind) = none) →
        result = (app.observed w.store.cluster kind status, none)) := by
  unfold updateStatus CompositeApp.observed
  by_cases hobserves : kind.observes = true
  · simp only [hobserves, if_true, true_implies]
    by_cases hserved : w.store.faultOf? .get (.child kind) = none
    · exact (observeAll_served hkeyed hobserves hserved).mono fun _ _ hpost =>
        ⟨hpost.1, fun _ => hpost.2⟩
    · exact (observeAll_reads hanswering).mono fun _ _ hreads =>
        ⟨hreads, fun h => absurd h hserved⟩
  · simp only [hobserves]
    exact Ends.pure ⟨.of_store rfl, fun _ => rfl⟩

theorem settleStatus_reads (p : Progress) (status : AppStatus) (error : Option ApplyError) :
    Ends World.handler (settleStatus app p status error) w fun p' after =>
      w.Reads after ∧ p'.status = status := by
  unfold settleStatus
  cases error with
  | none => exact Ends.pure ⟨.of_store rfl, rfl⟩
  | some e => exact (tell_reads _).bind fun _ _ hreads => Ends.pure ⟨hreads, rfl⟩

/-- A kind is looked after, whatever fails. The status shows its objects as they are then stored,
if they can be looked up. -/
theorem lookAfter_tends {p : Progress} (hanswering : w.store.Answering)
    (hkeyed : w.store.cluster.Keyed) (hvalid : app.validate = .ok ())
    (halone : ∀ target ∈ app.targets kind.scope, app.DeletesAlone w.store.cluster kind target) :
    Ends World.handler (lookAfter app p kind) w fun p' after =>
      w.Tends app (app.Covers [kind]) after ∧
        ((kind.observes = true → w.store.faultOf? .get (.child kind) = none) →
          p'.status = app.observed after.store.cluster kind p.status) := by
  unfold lookAfter apply
  refine (convergeAll_tends hanswering hkeyed hvalid (fun _ => id)
    (CompositeApp.targets_nodup hvalid kind.scope) halone).bind ?_
  intro results converged hconverged
  refine (settleKind_ends p results).bind ?_
  rintro _ settled ⟨rfl, hsettled⟩
  have hsofar := hconverged.then_reads (.of_store hsettled)
  have hsettledKeyed := hsofar.confined.keyed hkeyed
  refine (updateStatus_reads (hanswering.of_rules hsofar.rules) hsettledKeyed).bind ?_
  rintro ⟨status, error⟩ reported ⟨hreported, hstatus⟩
  refine (settleStatus_reads _ status error).mono ?_
  rintro p' after ⟨hafter, hp'⟩
  refine ⟨(hsofar.then_reads (hreported.trans hafter)).congr fun key => ?_, fun hserved => ?_⟩
  · simp [CompositeApp.Covers]
  · rw [FaultyCluster.faultOf?_of_rules hsofar.rules] at hstatus
    have hobserved : status = _ := congrArg Prod.fst (hstatus hserved)
    rw [hp', hobserved, (hreported.trans hafter).cluster, Progress.status_settled]

/-- The kinds are looked after one after the other, whatever becomes of each. What the status shows
of a kind still holds once the others have been looked after. -/
theorem lookAfterAll_tends {p : Progress} {kinds : List ChildKind}
    (hanswering : w.store.Answering) (hkeyed : w.store.cluster.Keyed)
    (hvalid : app.validate = .ok ()) (hnodup : kinds.Nodup)
    (halone : ∀ kind ∈ kinds, ∀ target ∈ app.targets kind.scope,
      app.DeletesAlone w.store.cluster kind target) :
    Ends World.handler (lookAfterAll app p kinds) w fun p' after =>
      w.Tends app (app.Covers kinds) after ∧
        ((∀ kind ∈ kinds, kind.observes = true →
            w.store.faultOf? .get (.child kind) = none) →
          p'.status = kinds.foldl
            (fun status kind => app.observed after.store.cluster kind status) p.status) := by
  induction kinds generalizing w p with
  | nil =>
    refine Ends.pure ⟨(World.Tends.of_reads (.of_store rfl)).congr fun key => ?_, fun _ => rfl⟩
    simp [CompositeApp.Covers]
  | cons kind rest ih =>
    obtain ⟨hfresh, hrest⟩ := List.nodup_cons.1 hnodup
    have hapart : ∀ key, app.Covers [kind] key → ¬app.Covers rest key := by
      rintro _ ⟨same, hsame, _, -, rfl⟩ ⟨other, hother, _, -, hkey⟩
      obtain rfl := List.mem_singleton.1 hsame
      obtain rfl := Kind.child.inj (congrArg ObjectKey.kind hkey)
      exact hfresh hother
    refine (lookAfter_tends hanswering hkeyed hvalid (halone kind List.mem_cons_self)).bind ?_
    rintro p mid ⟨hmid, hstatus⟩
    have halone' : ∀ other ∈ rest, ∀ target ∈ app.targets other.scope,
        app.DeletesAlone mid.store.cluster other target := by
      intro other hother target htarget
      refine (halone other (List.mem_cons_of_mem _ hother) target htarget).of_confined
        hmid.confined fun hcovered => ?_
      exact hapart _ hcovered (.of_mem hother htarget)
    refine (ih (hanswering.of_rules hmid.rules) (hmid.confined.keyed hkeyed) hrest halone').mono ?_
    rintro p' after ⟨hafter, hstatus'⟩
    refine ⟨(hmid.trans hafter hapart).congr fun key => ?_, fun hserved => ?_⟩
    · simp [CompositeApp.Covers]
    · have hlater : app.observed mid.store.cluster kind =
          app.observed after.store.cluster kind := by
        funext status
        refine CompositeApp.observed_congr fun target htarget => (hafter.confined.frame _ ?_).symm
        exact hapart _ (.of_mem (List.mem_singleton_self kind) htarget)
      simp only [FaultyCluster.faultOf?_of_rules hmid.rules] at hstatus'
      rw [hstatus' fun other hother => hserved other (List.mem_cons_of_mem _ hother),
        hstatus (hserved kind List.mem_cons_self), List.foldl_cons, hlater]

/-- A call that puts a later copy of the app in its place is answered with it, unless there are
faults for apps or the copy cannot be read. -/
theorem written_tried {c : Call} {app' : CompositeApp} (hanswering : w.store.Answering)
    (hstored : w.store.cluster.get? app.storeKey = some (.app app)) (hfollows : app'.Follows app)
    (heffect : w.store.cluster.Effect c (some (.app app')) (w.store.cluster.put (.app app'))) :
    Ends World.handler (perform c) w fun reply after =>
      (reply = .ok (some (.app app')) ∧ w.Keeps app app' after ∧
        after.store.rules = w.store.rules) ∨
      (∃ e, reply = .error e) ∧ ¬(app.spec.isFinite = true ∧ w.store.Spares c.key.kind) := by
  refine Ends.tried hanswering fun reply store htried => ?_
  rcases htried.served_or_failed with ⟨hreply, hcluster⟩ | ⟨hreply, -, hnamed⟩
  · rw [heffect.perform_eq] at hreply hcluster
    cases hread : Reply.ofStored (some (.app app')) with
    | ok stored =>
      obtain ⟨rfl, -⟩ := Reply.ofStored_eq_ok.1 hread
      exact Or.inl ⟨hreply.trans hread, World.keeps_put hstored hfollows hcluster,
        htried.rules_eq⟩
    | error e =>
      obtain ⟨hunread, -⟩ := Reply.exists_malformed hread
      rw [Resource.isFinite, hfollows.copyOf.spec_eq] at hunread
      refine Or.inr ⟨⟨e, hreply.trans hread⟩, fun hreadable => ?_⟩
      exact absurd (hunread.symm.trans hreadable.1) (by simp)
  · exact Or.inr ⟨hreply, fun hspared => hnamed hspared.2⟩

/-- A status write that works leaves the app stored with that status. It works unless there are
faults for apps or the app cannot be read. -/
theorem writeStatus_tends {status : AppStatus} (hanswering : w.store.Answering)
    (hstored : w.store.cluster.get? app.storeKey = some (.app app)) :
    Ends World.handler (writeStatus app status) w fun result after =>
      (app.spec.isFinite = true → w.store.Spares .app →
        result = .ok .unchanged ∨ result = .ok .written) ∧
        ∀ write, result = .ok write → write ≠ .conflict →
          w.Tends app (· = app.storeKey) after ∧ app.StoredWith status after.store.cluster := by
  unfold writeStatus
  split
  · rename_i hsame
    refine Ends.pure ⟨fun _ _ => Or.inl rfl, fun _ _ _ => ⟨.of_app rfl (.refl _ _ _), ?_⟩⟩
    exact ⟨app, hstored, .refl app, rfl, hsame⟩
  · have heffect := Cluster.Effect.reported_of_current
      (r := .app { app with status := some status }) hstored rfl
    refine (written_tried hanswering hstored ⟨_, _, _, rfl⟩ heffect).bind ?_
    rintro _ after (⟨rfl, hkeeps, hrules⟩ | ⟨⟨e, rfl⟩, hnamed⟩)
    · refine Ends.pure ⟨fun _ _ => Or.inr rfl, fun _ _ _ => ⟨.of_app hrules hkeeps.confined, ?_⟩⟩
      exact ⟨_, hkeeps.stored, hkeeps.follows, rfl, rfl⟩
    · cases e with
      | conflict reason =>
        exact Ends.pure ⟨fun hfinite hspares => absurd ⟨hfinite, hspares⟩ hnamed,
          fun write hwrite hended => absurd (Except.ok.inj hwrite).symm hended⟩
      | notFound | api | malformed | client =>
        exact Ends.pure ⟨fun hfinite hspares => absurd ⟨hfinite, hspares⟩ hnamed,
          fun write hwrite => absurd hwrite (by simp)⟩

/-- A pass behind the gate ends with its report, whatever fails for the kinds of objects. -/
theorem bringInLine_tends (hanswering : w.store.Answering) (hspares : w.store.Spares .app)
    (hkeyed : w.store.cluster.Keyed) (hvalid : app.validate = .ok ())
    (hstored : w.store.cluster.get? app.storeKey = some (.app app))
    (halone : ∀ kind ∈ ChildKind.all, ∀ target ∈ app.targets kind.scope,
      app.DeletesAlone w.store.cluster kind target) :
    Ends World.handler (bringInLine app) w fun result after => (∃ outcome, result = .ok outcome) ∧
      w.Tends app (fun key => app.Covers ChildKind.all key ∨ key = app.storeKey) after ∧
      ∃ status, app.StoredWith status after.store.cluster := by
  have happart : ∀ key, app.Covers ChildKind.all key → key ≠ app.storeKey :=
    fun _ => CompositeApp.ne_storeKey_of_covers
  have hfinite := CompositeApp.isFinite_of_validate hvalid
  unfold bringInLine
  refine (lookAfterAll_tends (p := {}) hanswering hkeyed hvalid (by decide) halone).bind ?_
  rintro p mid ⟨hmid, -⟩
  have hmidStored : mid.store.cluster.get? app.storeKey = some (.app app) := by
    rw [hmid.confined.frame _ fun hcovered => happart _ hcovered rfl, hstored]
  have hreport : ∀ told : World, mid.Reads told →
      Ends World.handler (do
        return conclude (← writeStatus app (p.finalStatus app))
          (if p.raced then .retry else .converged p.success p.writes)) told
        fun result after => (∃ outcome, result = .ok outcome) ∧
          w.Tends app (fun key => app.Covers ChildKind.all key ∨ key = app.storeKey) after ∧
          ∃ status, app.StoredWith status after.store.cluster := by
    intro told htold
    have hsofar := hmid.then_reads htold
    have htoldStored : told.store.cluster.get? app.storeKey = some (.app app) := by
      rw [htold.cluster, hmidStored]
    refine (writeStatus_tends (hanswering.of_rules hsofar.rules) htoldStored).bind ?_
    rintro result after ⟨hworks, hkept⟩
    rcases hworks hfinite (hspares.of_rules hsofar.rules) with rfl | rfl
    · obtain ⟨hafter, hwith⟩ := hkept .unchanged rfl StatusWrite.noConfusion
      exact Ends.pure ⟨⟨_, rfl⟩, hsofar.trans hafter happart, _, hwith⟩
    · obtain ⟨hafter, hwith⟩ := hkept .written rfl StatusWrite.noConfusion
      exact Ends.pure ⟨⟨_, rfl⟩, hsofar.trans hafter happart, _, hwith⟩
  dsimp only
  by_cases hnews : p.isNews = true
  · rw [if_pos hnews]
    exact (tell_reads _).bind fun _ told htold => hreport told htold
  · rw [if_neg hnews]
    exact hreport mid (.of_store rfl)

end Pass

def World.withoutFaults (w : World) : World :=
  { w with store := w.store.withoutFaults }

/-- A pass over a valid live app that carries the finalizer, in a world in which the server fails
calls on some kinds of objects: it ends with an outcome, and the objects of all other kinds come out
as if there were no faults, but for the versions and uids that the store gives out. So does the
app, but for its version and status. -/
theorem World.reconcile_isolates {w : World} {app : CompositeApp} (elapsed : Duration)
    (hanswering : w.store.Answering)
    (hchildren : ∀ rule ∈ w.store.rules, ∃ kind, rule.kind = .child kind)
    (hkeyed : w.store.cluster.Keyed) (hvalid : app.validate = .ok ())
    (hstored : w.store.cluster.get? app.storeKey = some (.app app))
    (hlive : app.metadata.isTerminating = false)
    (hheld : finalizer ∈ app.metadata.finalizerList)
    (halone : app.ChildrenAlone w.store.cluster) :
    (∃ outcome, (w.reconcile app elapsed).1 = .ok outcome) ∧
    (∀ key, key ≠ app.storeKey → w.store.Spares key.kind →
      ((w.reconcile app elapsed).2.store.cluster.get? key).map Resource.unstamped =
        ((w.withoutFaults.reconcile app elapsed).2.store.cluster.get? key).map
          Resource.unstamped) ∧
    ∃ faulty calm,
      (w.reconcile app elapsed).2.store.cluster.get? app.storeKey = some (.app faulty) ∧
      (w.withoutFaults.reconcile app elapsed).2.store.cluster.get? app.storeKey =
        some (.app calm) ∧
      faulty = { calm with
        metadata := { calm.metadata with resourceVersion := faulty.metadata.resourceVersion }
        status := faulty.status } := by
  have hregistered := FinalizerState.of_eq_registered.2 ⟨hheld, hlive⟩
  have hwork : Pass.reconcile app = Pass.bringInLine app := by
    rw [Pass.reconcile_of_registered hregistered]
    simp only [Pass.work, hvalid]
  have hspares : w.store.Spares .app := by
    intro rule hrule hkind
    obtain ⟨kind, hchild⟩ := hchildren rule hrule
    exact Kind.noConfusion (hkind.symm.trans hchild)
  have hdeletes : ∀ kind ∈ ChildKind.all, ∀ target ∈ app.targets kind.scope,
      app.DeletesAlone w.store.cluster kind target :=
    fun kind _ target _ => halone.deletesAlone kind target
  have hfaulty := Pass.bringInLine_tends (w := { w with changes := [] }) hanswering hspares hkeyed
    hvalid hstored hdeletes
  have hcalm := Pass.bringInLine_ends (w := { w.withoutFaults with changes := [] }) rfl hkeyed
    hvalid hstored hdeletes
  rw [← hwork] at hfaulty hcalm
  obtain ⟨faulty, ⟨hended, htends, status, hfaultyWith⟩, hfaultyStore⟩ :=
    reconcile_of_ends elapsed hfaulty
  obtain ⟨calm, ⟨p, -, -, hline, hcalmWith, -⟩, hcalmStore⟩ := reconcile_of_ends elapsed hcalm
  rw [hfaultyStore, hcalmStore]
  refine ⟨hended, ?_, ?_⟩
  · intro key happ hspared
    by_cases hcovered : app.Covers ChildKind.all key
    · obtain ⟨kind, -, target, htarget, rfl⟩ := hcovered
      have hkey := Or.inl (b := app.targetKey kind target = app.storeKey)
        (CompositeApp.Covers.of_mem kind.mem_all htarget)
      exact (htends.brought kind hspared target htarget hkey).unstamped_eq
        (hline.brought kind kind.mem_all target htarget)
    · have hother : ¬(app.Covers ChildKind.all key ∨ key = app.storeKey) := by
        rintro (hcovers | rfl)
        · exact hcovered hcovers
        · exact happ rfl
      rw [htends.confined.frame key hother, hline.confined.frame key hother]
      rfl
  · obtain ⟨last, hlast, ⟨finalizers, version, _, rfl⟩, rfl, rfl⟩ := hfaultyWith
    obtain ⟨last', hlast', ⟨finalizers', version', _, rfl⟩, rfl, rfl⟩ := hcalmWith
    exact ⟨_, _, hlast, hlast', rfl⟩

def Example.stormyWorld : World :=
  { heldWorld with
    store := (heldWorld.store.inject ⟨.get, .child .service, .status 503⟩).inject
      ⟨.create, .child .autoscaler, .status 409⟩ }

/-- A pass that leaves two kinds of objects undone. -/
theorem World.reconcile_isolates_example :
    (∀ rule ∈ Example.stormyWorld.store.rules, ∃ kind, rule.kind = .child kind) ∧
    Example.stormyWorld.store.Answering ∧
    (Example.stormyWorld.reconcile Example.heldShop default).1 = .ok .retry ∧
    (∀ key, key ≠ Example.heldShop.storeKey → Example.stormyWorld.store.Spares key.kind →
      ((Example.stormyWorld.reconcile Example.heldShop default).2.store.cluster.get? key).map
          Resource.unstamped =
        ((Example.stormyWorld.withoutFaults.reconcile Example.heldShop
          default).2.store.cluster.get? key).map Resource.unstamped) ∧
    ∃ faulty calm,
      (Example.stormyWorld.reconcile Example.heldShop default).2.store.cluster.get?
        Example.heldShop.storeKey = some (.app faulty) ∧
      (Example.stormyWorld.withoutFaults.reconcile Example.heldShop
        default).2.store.cluster.get? Example.heldShop.storeKey = some (.app calm) ∧
      faulty = { calm with
        metadata := { calm.metadata with resourceVersion := faulty.metadata.resourceVersion }
        status := faulty.status } := by
  have hchildren : ∀ rule ∈ Example.stormyWorld.store.rules, ∃ kind, rule.kind = .child kind := by
    intro rule hrule
    rcases List.mem_cons.1 hrule with rfl | hrule
    · exact ⟨.service, rfl⟩
    · obtain rfl := List.mem_singleton.1 hrule
      exact ⟨.autoscaler, rfl⟩
  have hanswering : Example.stormyWorld.store.Answering := by decide
  have hstored : Example.stormyWorld.store.cluster.get? Example.heldShop.storeKey =
      some (.app Example.heldShop) := by
    decide +kernel
  have hheld : finalizer ∈ Example.heldShop.metadata.finalizerList := by decide
  obtain ⟨-, hobjects, happ⟩ := World.reconcile_isolates default hanswering hchildren
    (Example.keyed_heldBy _) rfl hstored rfl hheld (Example.childrenAlone_heldBy _)
  exact ⟨hchildren, hanswering, rfl, hobjects, happ⟩

end CompositeApps
