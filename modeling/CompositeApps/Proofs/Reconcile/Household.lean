import CompositeApps.Proofs.Cluster.Ownership
import CompositeApps.Proofs.Reconcile.Calls

/-!
An app and all that was made for it, from the first pass to the last. As long as the app is stored,
every other object belongs to it and to nothing else; once it is gone, so are they. One lemma for
each kind of write says that this is kept, and from them it follows for each step of a pass and for
each step of a run in which the app is edited, deleted and looked after, in any order.
-/

namespace CompositeApps

def Resource.BelongsTo (r : Resource) (uid : String) : Prop :=
  ∃ ref, r.metadata.ownerReferences = some [ref] ∧ ref.controller = some true ∧ ref.uid = uid

theorem Resource.BelongsTo.congr {r s : Resource} {uid : String} (h : r.BelongsTo uid)
    (hsame : s.metadata.ownerReferences = r.metadata.ownerReferences) : s.BelongsTo uid := by
  obtain ⟨ref, howners, hcontroller, huid⟩ := h
  exact ⟨ref, hsame.trans howners, hcontroller, huid⟩

theorem Resource.BelongsTo.isOwnedBy {r : Resource} {uid : String} (h : r.BelongsTo uid) :
    r.isOwnedBy uid = true := by
  obtain ⟨ref, howners, -, huid⟩ := h
  simp [Resource.isOwnedBy, ObjectMeta.owners, howners, huid]

namespace Cluster

/-- A cluster that holds an object with a uid and without owners, and besides it nothing but what
belongs to it alone. -/
structure Household (key : ObjectKey) (uid : String) (c : Cluster) : Prop where
  keyed : c.Keyed
  head : ∃ r, c.get? key = some r ∧ r.metadata.uid = some uid ∧ r.metadata.owners = []
  members : ∀ other r, c.get? other = some r → other ≠ key → r.BelongsTo uid

def Vacant (c : Cluster) : Prop :=
  ∀ key, c.get? key = none

namespace Household

variable {c : Cluster} {key other : ObjectKey} {uid : String} {r stored : Resource}

theorem head_of_get? (h : c.Household key uid) (hr : c.get? key = some r) :
    r.metadata.uid = some uid ∧ r.metadata.owners = [] := by
  obtain ⟨head, hhead, huid, howners⟩ := h.head
  obtain rfl := Option.some.inj (hr.symm.trans hhead)
  exact ⟨huid, howners⟩

/-- The head belongs to nothing. -/
theorem eq_of_goesWith (h : c.Household key uid) (hgoes : c.GoesWith key other) : other = key := by
  refine hgoes.of_closed (· = key) ?_ rfl
  intro owner k hk howns
  obtain rfl := hk
  obtain ⟨o, s, u, -, -, hs, hlisted⟩ := howns
  have howners := (h.head_of_get? hs).2
  rw [Resource.isOwnedBy, howners] at hlisted
  exact absurd hlisted (by simp)

theorem put_head (h : c.Household key uid) (hkey : r.key = key)
    (huid : r.metadata.uid = some uid) (howners : r.metadata.owners = []) :
    (c.put r).Household key uid where
  keyed := h.keyed.put r
  head := ⟨r, by rw [get?_put, if_pos hkey], huid, howners⟩
  members other s hs hother := by
    rw [get?_put, if_neg (by rw [hkey]; exact Ne.symm hother)] at hs
    exact h.members other s hs hother

theorem put_member (h : c.Household key uid) (hkey : r.key ≠ key) (hr : r.BelongsTo uid) :
    (c.put r).Household key uid where
  keyed := h.keyed.put r
  head := by
    obtain ⟨head, hhead, huid, howners⟩ := h.head
    exact ⟨head, by rw [get?_put, if_neg hkey, hhead], huid, howners⟩
  members other s hs hother := by
    rcases eq_or_get?_of_put hs with rfl | hs
    · exact hr
    · exact h.members other s hs hother

theorem remove_member (h : c.Household key uid) (hother : other ≠ key) :
    Household key uid { c with objects := c.objects.remove other } where
  keyed := h.keyed.remove other
  head := by
    obtain ⟨head, hhead, huid, howners⟩ := h.head
    refine ⟨head, ?_, huid, howners⟩
    rw [← hhead]
    exact get?_remove_of_not_goesWith fun hgoes => hother (h.eq_of_goesWith hgoes)
  members k s hs hk := h.members k s (Objects.getElem?_of_remove hs) hk

/-- With the head all the others go. -/
theorem remove_head (h : c.Household key uid) :
    Vacant { c with objects := c.objects.remove key } := by
  intro other
  change (c.objects.remove key)[other]? = none
  obtain ⟨head, hhead, huid, -⟩ := h.head
  by_cases hsame : other = key
  · rw [hsame]
    exact Objects.getElem?_remove_self c.objects key
  · cases hs : c.get? other with
    | some s =>
      have howned := (h.members other s hs hsame).isOwnedBy
      exact Objects.getElem?_remove_of_owned hhead huid hs howned
    | none =>
      refine Option.eq_none_iff_forall_ne_some.2 fun s hs' => ?_
      have hbefore : c.get? other = some s := Objects.getElem?_of_remove hs'
      rw [hs] at hbefore
      exact absurd hbefore (by simp)

/-- Another copy of the head is stored in its place. -/
theorem put_replacement (h : c.Household key uid) (hkey : r.key = key)
    (hstored : c.get? r.key = some stored) (howners : r.metadata.owners = []) (version : Nat) :
    (c.put (replacement stored r version)).Household key uid := by
  refine h.put_head (by rw [key_replacement, hkey]) ?_ ?_
  · rw [metadata_replacement]
    rw [hkey] at hstored
    exact (h.head_of_get? hstored).1
  · rw [metadata_replacement]
    exact howners

/-- What comes of a household when its head is written by a replace. -/
theorem replace_head {after : Cluster} {reply : Option Resource} (h : c.Household key uid)
    (hkey : r.key = key) (howners : r.metadata.owners = [])
    (heffect : c.Effect (.replace r) reply after) : after.Household key uid ∨ after.Vacant := by
  cases heffect with
  | replaced _ stored hstored =>
    exact Or.inl (h.put_replacement hkey hstored howners (c.version + 1))
  | released _ stored hstored =>
    have hput := h.put_replacement hkey hstored howners (c.version + 1)
    rw [hkey]
    exact Or.inr hput.remove_head

/-- A delete request takes the head away or marks it. -/
theorem delete_head (h : c.Household key uid) :
    (c.delete key).Household key uid ∨ (c.delete key).Vacant := by
  have heffect := delete_effect c key
  generalize c.delete key = after at heffect ⊢
  cases heffect with
  | missed => exact Or.inl h
  | doomed _ stored hstored =>
    obtain ⟨huid, howners⟩ := h.head_of_get? hstored
    refine Or.inl (h.put_head ?_ ?_ ?_)
    · rw [key_doomed, h.keyed key stored hstored]
    · rw [metadata_doomed]
      exact huid
    · rw [metadata_doomed]
      exact howners
  | removed => exact Or.inr h.remove_head

end Household

end Cluster

namespace CompositeApp

variable {app copy : CompositeApp} {past : List Exchange} {c after : Cluster} {call : Call}
  {uid : String}

/-- What is made or replaced for a target is claimed for the app. -/
theorem Works.claimed {r : Resource} (h : copy.Works past call)
    (hcall : call = .create r ∨ call = .replace r) (huid : copy.metadata.uid = some uid) :
    r.key ≠ copy.storeKey ∧ r.BelongsTo uid := by
  have hclaimed : ∀ {name : String} {wanted claimed made : Child},
      copy.claim name wanted = .ok claimed →
      made.metadata.ownerReferences = claimed.metadata.ownerReferences → r = .child made →
      r.key ≠ copy.storeKey ∧ r.BelongsTo uid := by
    intro name wanted claimed made hclaim hsame hr
    obtain ⟨ref, href, rfl⟩ := claim_eq_ok hclaim
    obtain ⟨hrefUid, hcontroller⟩ := controllerReference?_eq_some href
    rw [Child.metadata_withMetadata] at hsame
    subst hr
    refine ⟨?_, ref, hsame, hcontroller, ?_⟩
    · intro hkey
      exact absurd (congrArg ObjectKey.kind hkey) (by simp [storeKey, Resource.key, Resource.kind])
    · exact Option.some.inj (hrefUid.symm.trans huid)
  cases h with
  | lookup | report => rcases hcall with hcall | hcall <;> exact absurd hcall (by simp)
  | write _ kind target stored action _ _ _ hchoice hwrite =>
    have hverdict := copy.choice_verdict kind target stored
    rw [hchoice] at hverdict
    cases hverdict with
    | unmanaged | gone | right => exact absurd hwrite (by simp [Action.write?])
    | obsolete =>
      obtain rfl := Option.some.inj hwrite
      rcases hcall with hcall | hcall <;> exact absurd hcall (by simp)
    | missing wanted claimed _ _ hclaim =>
      obtain rfl := Option.some.inj hwrite
      rcases hcall with hcall | hcall
      · exact hclaimed hclaim rfl (Call.create.inj hcall).symm
      · exact absurd hcall (by simp)
    | drifted wanted seen claimed _ _ _ hclaim =>
      obtain rfl := Option.some.inj hwrite
      rcases hcall with hcall | hcall
      · exact absurd hcall (by simp)
      · refine hclaimed hclaim ?_ (Call.replace.inj hcall).symm
        rw [Child.metadata_preparedUpdate]

/-- A delete of the work behind the gate is about the object of a target. -/
theorem Works.key_ne_of_delete {key : ObjectKey} (h : copy.Works past (.delete key)) :
    key ≠ copy.storeKey := by
  cases h with
  | write _ kind target stored action _ _ _ _ hwrite =>
    cases action with
    | keep | create | update => exact absurd hwrite (by simp [Action.write?])
    | delete =>
      obtain rfl := Call.delete.inj (Option.some.inj hwrite)
      exact copy.targetKey_ne_storeKey copy kind target

theorem Works.key_eq_of_replaceStatus {r : Resource} (h : copy.Works past (.replaceStatus r)) :
    r.key = copy.storeKey := by
  cases h with
  | report status => rfl
  | write _ _ _ _ action _ _ _ _ hwrite =>
    cases action <;> exact absurd hwrite (by simp [Action.write?])

/-- The work behind the gate keeps the household of the app. -/
theorem Works.household {reply : Option Resource} (h : copy.Works past call)
    (hcopy : app.LetThrough copy past) (huid : copy.metadata.uid = some uid)
    (hcurrent : c.Current past) (hc : c.Household copy.storeKey uid)
    (heffect : c.Effect call reply after) : after.Household copy.storeKey uid := by
  cases heffect with
  | found | missed => exact hc
  | created r =>
    obtain ⟨hkey, hbelongs⟩ := h.claimed (Or.inl rfl) huid
    refine hc.put_member (by rwa [Cluster.key_newborn]) (hbelongs.congr ?_)
    rw [Cluster.metadata_newborn]
  | replaced r stored =>
    obtain ⟨hkey, hbelongs⟩ := h.claimed (Or.inr rfl) huid
    refine hc.put_member (by rwa [Cluster.key_replacement]) (hbelongs.congr ?_)
    rw [Cluster.metadata_replacement]
  | released r stored hstored _ hreleased =>
    have hheld := (h.licensed hcopy).isReleased_eq_false hcopy.not_finalizing hcurrent hstored
    rw [hheld] at hreleased
    exact absurd hreleased (by simp)
  | reported r stored hstored =>
    have hkey := h.key_eq_of_replaceStatus
    have hstoredKey := hc.keyed _ _ hstored
    rw [hkey] at hstored hstoredKey
    obtain ⟨hstoredUid, howners⟩ := hc.head_of_get? hstored
    refine hc.put_head ?_ ?_ ?_
    · rw [Cluster.key_stamped, Cluster.key_withStatusOf, hstoredKey]
    · rw [Cluster.metadata_stamped, Resource.metadata_withStatusOf]
      exact hstoredUid
    · rw [Cluster.metadata_stamped, Resource.metadata_withStatusOf]
      exact howners
  | doomed key stored hstored =>
    have hkey := h.key_ne_of_delete
    have hbelongs := hc.members key stored hstored hkey
    refine hc.put_member ?_ (hbelongs.congr ?_)
    · rwa [Cluster.key_doomed, hc.keyed key stored hstored]
    · rw [Cluster.metadata_doomed]
  | removed key => exact hc.remove_member h.key_ne_of_delete

/-- What holds of the cluster all along a pass over an app that heads a household. Whatever copy of
the app the pass has been given carries its uid, and the household stays unless the app may go. -/
structure Tended (app : CompositeApp) (uid : String) (past : List Exchange) (c : Cluster) : Prop
    extends c.Current past where
  read : ∀ written copy, .called (.replace (.app written)) (.ok (some (.app copy))) ∈ past →
    copy.metadata.uid = some uid
  kept : c.Household app.storeKey uid ∨ c.Vacant ∧ FinalizerState.of app = .finalizing

theorem Tended.hooked (h : app.Tended uid past c) (a : CompositeApp) (result : Except String Unit) :
    app.Tended uid (past ++ [.hooked a result]) c := by
  refine ⟨h.toCurrent.hooked a result, fun written copy hcalled => ?_, h.kept⟩
  rcases List.mem_append.1 hcalled with hpast | hlast
  · exact h.read written copy hpast
  · exact absurd (List.mem_singleton.1 hlast) (by simp)

theorem Tended.uid_of_letThrough (h : app.Tended uid past c) (huid : app.metadata.uid = some uid)
    (hcopy : app.LetThrough copy past) : copy.metadata.uid = some uid := by
  rcases hcopy.held with ⟨-, rfl⟩ | hcalled
  · exact huid
  · exact h.read _ copy hcalled

/-- Of the gate a household becomes a household, unless the app goes. -/
theorem Gates.household {reply : Option Resource} (h : app.Gates past call)
    (howners : app.metadata.owners = []) (hcurrent : c.Current past)
    (hc : c.Household app.storeKey uid) (heffect : c.Effect call reply after) :
    after.Household app.storeKey uid ∨ after.Vacant ∧ FinalizerState.of app = .finalizing := by
  have hlicensed : app.Licensed past call := (Undertakes.gate h).licensed
  have hkey := h.key_eq
  cases h with
  | release hstate =>
    have hwritten : (Resource.app app.withoutFinalizer).metadata.owners = [] := howners
    exact (hc.replace_head hkey hwritten heffect).imp_right fun hvacant => ⟨hvacant, hstate⟩
  | register hstate =>
    have hwritten : (Resource.app app.withFinalizer).metadata.owners = [] := howners
    cases heffect with
    | replaced _ stored hstored =>
      exact Or.inl (hc.put_replacement hkey hstored hwritten (c.version + 1))
    | released _ stored hstored _ hreleased =>
      have hgoing : FinalizerState.of app ≠ .finalizing := by rw [hstate]; simp
      rw [hlicensed.isReleased_eq_false hgoing hcurrent hstored] at hreleased
      exact absurd hreleased (by simp)

/-- Where nothing is stored any more, no call of a pass that has let the app go does anything. -/
theorem Undertakes.not_effect_of_vacant {reply : Option Resource} (h : app.Undertakes past call)
    (hstate : FinalizerState.of app = .finalizing) (hc : c.Vacant) :
    ¬ c.Effect call reply after := by
  intro heffect
  cases h with
  | work copy _ hcopy => exact hcopy.not_finalizing hstate
  | gate hgate =>
    cases hgate with
    | register hother => exact absurd (hother.symm.trans hstate) (by simp)
    | release =>
      cases heffect with
      | replaced _ stored hstored | released _ stored hstored =>
        rw [hc] at hstored
        exact absurd hstored (by simp)

/-- The copy of the app that a replace answers has the uid that the app has. -/
theorem Undertakes.uid_of_replaced {written : CompositeApp} {version : Nat} {stored : Resource}
    (h : app.Undertakes past (.replace (.app written))) (hc : c.Household app.storeKey uid)
    (hstored : c.get? (Resource.app written).key = some stored)
    (hcopy : Cluster.replacement stored (.app written) version = .app copy) :
    copy.metadata.uid = some uid := by
  have hkey : (Resource.app written).key = app.storeKey := h.gates.key_eq
  rw [hkey] at hstored
  have hmetadata := Cluster.metadata_replacement stored (.app written) version
  rw [hcopy] at hmetadata
  have huid : copy.metadata.uid = stored.metadata.uid := congrArg (·.uid) hmetadata
  rw [huid]
  exact (hc.head_of_get? hstored).1

/-- Each answer to a call of a pass keeps what holds all along it. -/
theorem Tended.answered {reply : Reply} (h : app.Tended uid past c)
    (huid : app.metadata.uid = some uid) (howners : app.metadata.owners = [])
    (hcall : app.Undertakes past call) (hanswer : c.Answers call reply after) :
    app.Tended uid (past ++ [.called call reply]) after := by
  refine ⟨h.toCurrent.answered hanswer, fun written copy hcalled => ?_, ?_⟩
  · rcases List.mem_append.1 hcalled with hpast | hlast
    · exact h.read written copy hpast
    obtain ⟨rfl, rfl⟩ := Exchange.called.inj (List.mem_singleton.1 hlast)
    have heffect := hanswer.effect
    rcases h.kept with hc | ⟨hvacant, hstate⟩
    · generalize hresult : some (Resource.app copy) = result at heffect
      cases heffect with
      | replaced _ stored hstored | released _ stored hstored =>
        exact hcall.uid_of_replaced hc hstored (Option.some.inj hresult).symm
    · exact absurd heffect (hcall.not_effect_of_vacant hstate hvacant)
  · cases hanswer with
    | failed => exact h.kept
    | done heffect =>
      rcases h.kept with hc | ⟨hvacant, hstate⟩
      · cases hcall with
        | gate hgate => exact hgate.household howners h.toCurrent hc heffect
        | work copy _ hcopy hwork =>
          have hkey := hcopy.copyOf.storeKey_eq
          rw [← hkey] at hc ⊢
          have hcopyUid := h.uid_of_letThrough huid hcopy
          exact Or.inl (hwork.household hcopy hcopyUid h.toCurrent hc heffect)
      · exact absurd heffect (hcall.not_effect_of_vacant hstate hvacant)

end CompositeApp

/-- A pass over the app that heads a household leaves a household, or nothing at all. -/
theorem Pass.reconcile_household {σ : Type} {h : Handler σ} {cluster : σ → Cluster}
    (hserves : h.Serves cluster) {app : CompositeApp} {uid : String} {s : σ}
    (hstored : (cluster s).get? app.storeKey = some (.app app))
    (hs : (cluster s).Household app.storeKey uid) :
    (cluster ((reconcile app).run h s).2).Household app.storeKey uid ∨
      (cluster ((reconcile app).run h s).2).Vacant := by
  obtain ⟨huid, howners⟩ := hs.head_of_get? hstored
  have hstart : app.Tended uid [] (cluster s) :=
    ⟨.start hs.keyed, fun _ _ hcalled => absurd hcalled (by simp), Or.inl hs⟩
  obtain ⟨later, hlater⟩ := (reconcile_undertakes app).run_invariant (I := app.Tended uid) hserves
    (fun _ _ _ _ _ hcall hc hanswer => hc.answered huid howners hcall hanswer)
    (fun _ _ a result hc => hc.hooked a result) hstart
  exact hlater.kept.imp_right And.left

/-- What may happen to an app that is stored: its spec is edited, its deletion is asked for, or a
pass is made over the copy that is stored, against any store and with any hook. -/
inductive Tending (key : ObjectKey) (c : Cluster) : Cluster → Prop where
  | edited {app : CompositeApp} (spec : AppSpec) {reply : Reply} {after : Cluster}
      (hstored : c.get? key = some (.app app))
      (h : c.perform (.replace (.app { app with spec })) = (reply, after)) : Tending key c after
  | seeded {app : CompositeApp} (spec : AppSpec) (hstored : c.get? key = some (.app app)) :
      Tending key c (c.seed (.app { app with spec })).2
  | deleted : Tending key c (c.delete key)
  | passed {σ : Type} {h : Handler σ} {cluster : σ → Cluster} {s : σ} {app : CompositeApp}
      (hserves : h.Serves cluster) (hs : cluster s = c) (hstored : c.get? key = some (.app app)) :
      Tending key c (cluster ((Pass.reconcile app).run h s).2)

namespace Tending

variable {key : ObjectKey} {uid : String} {c after : Cluster}

theorem household (h : Tending key c after) (hc : c.Household key uid) :
    after.Household key uid ∨ after.Vacant := by
  cases h with
  | @edited app spec reply _ hstored hperform =>
    have hkey : (Resource.app { app with spec }).key = key := by
      rw [← hc.keyed key _ hstored]
      rfl
    have howners : (Resource.app { app with spec }).metadata.owners = [] :=
      (hc.head_of_get? hstored).2
    rcases Cluster.effect_or_eq hperform with ⟨_, heffect⟩ | rfl
    · exact hc.replace_head hkey howners heffect
    · exact Or.inl hc
  | @seeded app spec hstored =>
    obtain ⟨huid, howners⟩ := hc.head_of_get? hstored
    have hkey : (Resource.app app).key = key := hc.keyed key _ hstored
    refine Or.inl (hc.put_head hkey ?_ howners)
    change some (app.metadata.uid.getD _) = some uid
    rw [show app.metadata.uid = some uid from huid]
    rfl
  | deleted => exact hc.delete_head
  | passed hserves hs hstored =>
    have hkey := hc.keyed key _ hstored
    subst hs
    obtain rfl := hkey
    exact Pass.reconcile_household hserves hstored hc

theorem vacant (h : Tending key c after) (hc : c.Vacant) : after.Vacant := by
  cases h with
  | edited _ hstored | seeded _ hstored | passed _ _ hstored =>
    rw [hc key] at hstored
    exact absurd hstored (by simp)
  | deleted =>
    have hnone : c.objects[key]? = none := hc key
    rw [Cluster.delete, hnone]
    exact hc

/-- However an app is edited, deleted and looked after, it heads a household until nothing is
left. -/
theorem run_household (hrun : Relation.ReflTransGen (Tending key) c after)
    (hc : c.Household key uid) : after.Household key uid ∨ after.Vacant := by
  induction hrun with
  | refl => exact Or.inl hc
  | tail _ hstep ih =>
    rcases ih with hmid | hmid
    · exact hstep.household hmid
    · exact Or.inr (hstep.vacant hmid)

/-- Where an app without owners was the only object at the start, every other object that is stored
later on belongs to the app alone, and when the app is gone nothing is left behind. -/
theorem leaves_nothing_behind {app : CompositeApp}
    (hstored : c.get? app.storeKey = some (.app app))
    (hsole : ∀ other, other ≠ app.storeKey → c.get? other = none)
    (huid : app.metadata.uid = some uid) (howners : app.metadata.owners = [])
    (hrun : Relation.ReflTransGen (Tending app.storeKey) c after) :
    (∀ other r, after.get? other = some r → other ≠ app.storeKey → r.BelongsTo uid) ∧
      (after.get? app.storeKey = none → ∀ other, after.get? other = none) := by
  have hstart : c.Household app.storeKey uid := by
    refine ⟨fun key r hr => ?_, ⟨_, hstored, huid, howners⟩, fun other r hr hother => ?_⟩
    · by_cases hkey : key = app.storeKey
      · rw [hkey, hstored] at hr
        rw [← Option.some.inj hr, hkey]
        rfl
      · rw [hsole key hkey] at hr
        exact absurd hr (by simp)
    · rw [hsole other hother] at hr
      exact absurd hr (by simp)
  rcases run_household hrun hstart with hhousehold | hvacant
  · refine ⟨hhousehold.members, fun hgone => ?_⟩
    obtain ⟨r, hr, -⟩ := hhousehold.head
    rw [hgone] at hr
    exact absurd hr (by simp)
  · refine ⟨fun other r hr => ?_, fun _ => hvacant⟩
    rw [hvacant other] at hr
    exact absurd hr (by simp)

end Tending

namespace Example

def stand : CompositeApp :=
  { metadata := {
      name := some "stand", namespaceName := some "default", uid := some "stand-uid"
      resourceVersion := some "1" }
    spec := { apps := [
      { version := "v1", image := "stand:1", minReplicas := 1, maxReplicas := 1, port := 80 }] } }

def pitched : Cluster :=
  ({} : Cluster).put (.app stand)

def passOver (app : CompositeApp) (c : Cluster) : Cluster :=
  ((Pass.reconcile app).run World.handler { store := { cluster := c } }).2.store.cluster

def trading : Cluster :=
  passOver stand pitched

def folding : Cluster :=
  trading.delete stand.storeKey

def lastCopy : CompositeApp :=
  ((folding.get? stand.storeKey).bind (·.app?)).getD default

theorem pitched_stored : pitched.get? stand.storeKey = some (.app stand) :=
  Cluster.get?_put_self _ _

theorem trading_stored : (trading.get? ⟨.child .service, "default", "stand"⟩).isSome = true := by
  decide +kernel

theorem folding_stored : folding.get? stand.storeKey = some (.app lastCopy) := by
  decide +kernel

theorem passOver_tending {app : CompositeApp} {c : Cluster} {key : ObjectKey}
    (hstored : c.get? key = some (.app app)) : Tending key c (passOver app c) :=
  .passed World.handler_serves rfl hstored

theorem cleared_gone : (passOver lastCopy folding).get? stand.storeKey = none := by
  have hrun : (passOver lastCopy folding).objects =
      (folding.put (Cluster.replacement (.app lastCopy) (.app lastCopy.withoutFinalizer)
        (folding.version + 1))).objects.remove stand.storeKey := by
    rfl
  rw [Cluster.get?, hrun]
  exact Objects.getElem?_remove_self _ _

end Example

theorem Tending.leaves_nothing_behind_example :
    (Example.pitched.get? Example.stand.storeKey = some (.app Example.stand) ∧
      (∀ other, other ≠ Example.stand.storeKey → Example.pitched.get? other = none) ∧
      Example.stand.metadata.uid = some "stand-uid" ∧ Example.stand.metadata.owners = []) ∧
    (∃ r, Example.trading.get? ⟨.child .service, "default", "stand"⟩ = some r ∧
      r.BelongsTo "stand-uid") ∧
    ∀ other, (Example.passOver Example.lastCopy Example.folding).get? other = none := by
  have hsole : ∀ other, other ≠ Example.stand.storeKey → Example.pitched.get? other = none := by
    intro other hother
    rw [Example.pitched, Cluster.get?_put_of_ne hother, Cluster.get?_empty]
  have htrading : Tending Example.stand.storeKey Example.pitched Example.trading :=
    Example.passOver_tending Example.pitched_stored
  have hfolding : Tending Example.stand.storeKey Example.trading Example.folding := .deleted
  have hcleared : Tending Example.stand.storeKey Example.folding
      (Example.passOver Example.lastCopy Example.folding) :=
    Example.passOver_tending Example.folding_stored
  obtain ⟨hmembers, -⟩ := Tending.leaves_nothing_behind Example.pitched_stored hsole rfl rfl
    (.single htrading)
  obtain ⟨-, hnothing⟩ := Tending.leaves_nothing_behind Example.pitched_stored hsole rfl rfl
    (((Relation.ReflTransGen.single htrading).tail hfolding).tail hcleared)
  obtain ⟨service, hservice⟩ := Option.isSome_iff_exists.1 Example.trading_stored
  refine ⟨⟨Example.pitched_stored, hsole, rfl, rfl⟩, ⟨service, hservice, ?_⟩, ?_⟩
  · exact hmembers _ service hservice (by decide)
  · exact hnothing Example.cleared_gone

end CompositeApps
