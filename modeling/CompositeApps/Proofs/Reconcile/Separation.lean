import CompositeApps.Proofs.Cluster.Ownership
import CompositeApps.Proofs.Reconcile.Calls

/-!
What passes over one app mean for the objects of another one. A pass writes only what goes by the
name of the app or of one of its targets, and what it may take away takes with it only what goes
with that. Two apps can share a name only for objects that are made for single versions, and only if
one app is named like the other one with a hyphen and more behind.
-/

namespace CompositeApps

namespace CompositeApp

/-- A pass over the app may take objects away: the app is on its way out, or it wants that there is
no object for one of its targets. -/
def Removes (app : CompositeApp) : Prop :=
  FinalizerState.of app = .finalizing ∨
    ∃ kind : ChildKind, ∃ target ∈ app.targets kind.scope, ∃ observed,
      kind.desired app target.entry observed = .ok .absent

/-- An object that a pass over the app has nothing to do with: it does not go by the name of the app
or of one of its targets and, if the pass may take objects away, it goes with nothing that does and
waits for no owner. -/
structure Apart (app : CompositeApp) (c : Cluster) (key : ObjectKey) : Prop where
  untouched : ¬ app.Touches key
  unrelated : app.Removes → ∀ owner, c.GoesWith key owner → ¬ app.Touches owner
  awaits : app.Removes → c.AwaitsNoOwner key

end CompositeApp

namespace Cluster

variable {start c after : Cluster} {key : ObjectKey} {call : Call} {reply : Reply}
  {past : List Exchange}

theorem Shelters.answered (h : start.Shelters key c) (hawaits : start.AwaitsNoOwner key)
    (hcall : ¬ start.GoesWith key call.key) (hanswer : c.Answers call reply after) :
    start.Shelters key after := by
  rcases hanswer.effect_or_eq with ⟨_, heffect⟩ | rfl
  · exact h.effect hawaits hcall heffect
  · exact h

structure Keeps (start : Cluster) (key : ObjectKey) (past : List Exchange) (c : Cluster) : Prop
    extends Current past c where
  same : c.get? key = start.get? key

theorem Keeps.refl (hkeyed : start.Keyed) : start.Keeps key [] start :=
  ⟨.start hkeyed, rfl⟩

theorem Keeps.hooked (h : start.Keeps key past c) (app : CompositeApp)
    (result : Except String Unit) : start.Keeps key (past ++ [.hooked app result]) c :=
  ⟨h.toCurrent.hooked app result, h.same⟩

theorem Keeps.answered (h : start.Keeps key past c) (hanswer : c.Answers call reply after)
    (hsame : ∀ result, c.Effect call result after → after.get? key = c.get? key) :
    start.Keeps key (past ++ [.called call reply]) after := by
  refine ⟨h.toCurrent.answered hanswer, ?_⟩
  rcases hanswer.effect_or_eq with ⟨_, heffect⟩ | rfl
  · exact (hsame _ heffect).trans h.same
  · exact h.same

end Cluster

namespace CompositeApp

variable {app : CompositeApp} {past : List Exchange} {start c after : Cluster} {key : ObjectKey}

/-- A call of a pass that takes no objects away changes none but what it is about. -/
theorem Licensed.get?_of_effect {call : Call} {reply : Option Resource}
    (h : app.Licensed past call) (hkeeps : ¬ app.Removes) (hkey : ¬ app.Touches key)
    (hc : start.Keeps key past c) (heffect : c.Effect call reply after) :
    after.get? key = c.get? key := by
  have hne : key ≠ call.key := by
    intro hsame
    exact hkey (hsame ▸ h.touches)
  cases heffect with
  | found | missed => rfl
  | created r => rw [Cluster.get?_put_of_ne (by rwa [Cluster.key_newborn])]
  | replaced r stored => rw [Cluster.get?_put_of_ne (by rwa [Cluster.key_replacement])]
  | released r stored hstored _ hreleased =>
    have hgoing : FinalizerState.of app ≠ .finalizing := fun hstate => hkeeps (Or.inl hstate)
    rw [h.isReleased_eq_false hgoing hc.toCurrent hstored] at hreleased
    exact absurd hreleased (by simp)
  | reported r stored hstored =>
    have hstoredKey : stored.key = r.key := hc.keyed r.key stored hstored
    rw [Cluster.get?_put_of_ne]
    rwa [Cluster.key_stamped, Cluster.key_withStatusOf, hstoredKey]
  | doomed other | removed other =>
    cases h with
    | delete kind target observed htarget hobsolete =>
      have hremoves : app.Removes := Or.inr ⟨kind, target, htarget, observed, hobsolete⟩
      exact absurd hremoves hkeeps

end CompositeApp

namespace World

variable {w : World} {app : CompositeApp} {key : ObjectKey}

/-- A pass leaves alone what goes with nothing that it writes, also if it fails or aborts. -/
theorem shelters_reconcile (elapsed : Duration) (hkeyed : w.store.cluster.Keyed)
    (hunrelated : ∀ owner, w.store.cluster.GoesWith key owner → ¬ app.Touches owner)
    (hawaits : w.store.cluster.AwaitsNoOwner key) :
    w.store.cluster.Shelters key (w.reconcile app elapsed).2.store.cluster := by
  have hanswer : ∀ past c call reply after, app.Licensed past call →
      w.store.cluster.Shelters key c → c.Answers call reply after →
      w.store.cluster.Shelters key after := by
    intro past c call reply after hlicensed hc hanswer
    refine hc.answered hawaits ?_ hanswer
    exact fun hinside => hunrelated _ hinside hlicensed.touches
  obtain ⟨-, hshelters⟩ := reconcile_invariant (I := fun _ c => w.store.cluster.Shelters key c)
    elapsed hanswer (fun _ _ _ _ hc => hc) (.refl hkeyed)
  exact hshelters

/-- A pass that takes no objects away changes none but those that go by the name of the app or of
one of its targets. -/
theorem get?_reconcile_of_keeps (elapsed : Duration) (hkeyed : w.store.cluster.Keyed)
    (hkeeps : ¬ app.Removes) (hkey : ¬ app.Touches key) :
    (w.reconcile app elapsed).2.store.cluster.get? key = w.store.cluster.get? key := by
  have hanswer : ∀ past c call reply after, app.Licensed past call →
      w.store.cluster.Keeps key past c → c.Answers call reply after →
      w.store.cluster.Keeps key (past ++ [.called call reply]) after := by
    intro past c call reply after hlicensed hc hanswer
    exact hc.answered hanswer fun _ heffect => hlicensed.get?_of_effect hkeeps hkey hc heffect
  obtain ⟨_, hkept⟩ := reconcile_invariant elapsed hanswer
    (fun _ _ a result hc => hc.hooked a result) (.refl hkeyed)
  exact hkept.same

/-- A pass leaves alone what it has nothing to do with, also if it fails or aborts. -/
theorem get?_reconcile_of_apart (elapsed : Duration) (hkeyed : w.store.cluster.Keyed)
    (hapart : app.Apart w.store.cluster key) :
    (w.reconcile app elapsed).2.store.cluster.get? key = w.store.cluster.get? key := by
  by_cases hremoves : app.Removes
  · have hshelters := shelters_reconcile elapsed hkeyed (hapart.unrelated hremoves)
      (hapart.awaits hremoves)
    exact hshelters.same key (.refl _ key)
  · exact get?_reconcile_of_keeps elapsed hkeyed hremoves hapart.untouched

end World

namespace CompositeApp

variable {a b : CompositeApp}

def ExtendsName (a b : CompositeApp) : Prop :=
  ∃ rest, a.name = b.name ++ "-" ++ rest

theorem extendsName_of_versionName_eq {e e' : VersionEntry} (hname : a.name ≠ b.name)
    (h : a.versionName e = b.versionName e') : a.ExtendsName b ∨ b.ExtendsName a := by
  have hlist : a.name.toList ++ ('-' :: e.version.toList) =
      b.name.toList ++ ('-' :: e'.version.toList) := by
    simpa [versionName] using congrArg String.toList h
  -- The one name ends where the other still goes on, and there it goes on with the hyphen.
  have hextends : ∀ {x y : CompositeApp} {version version' middle : List Char},
      x.name ≠ y.name → x.name.toList = y.name.toList ++ middle →
      '-' :: version = middle ++ '-' :: version' → x.ExtendsName y := by
    intro x y version version' middle hne hnames hversions
    cases middle with
    | nil => exact absurd (String.toList_inj.1 (by simpa using hnames)) hne
    | cons head rest =>
      obtain ⟨rfl, -⟩ := List.cons.inj hversions
      refine ⟨String.ofList rest, String.toList_inj.1 ?_⟩
      simp [hnames]
  rcases List.append_eq_append_iff.1 hlist with
    ⟨middle, hnames, hversions⟩ | ⟨middle, hnames, hversions⟩
  · exact Or.inr (hextends (Ne.symm hname) hnames hversions)
  · exact Or.inl (hextends hname hnames hversions)

/-- Targets of two apps are stored under the same key only if they are for single versions. -/
theorem extendsName_of_targetKey_eq {kind kind' : ChildKind} {ta tb : Target}
    (hname : a.name ≠ b.name) (hta : ta ∈ a.targets kind.scope) (htb : tb ∈ b.targets kind'.scope)
    (h : a.targetKey kind ta = b.targetKey kind' tb) :
    kind.scope = .version ∧ (a.ExtendsName b ∨ b.ExtendsName a) := by
  obtain ⟨hkind, -, hnames⟩ := ObjectKey.mk.inj h
  obtain rfl := Kind.child.inj hkind
  cases hscope : kind.scope with
  | app =>
    rw [hscope] at hta htb
    obtain rfl := List.mem_singleton.1 hta
    obtain rfl := List.mem_singleton.1 htb
    exact absurd hnames hname
  | version =>
    rw [hscope] at hta htb
    obtain ⟨e, -, rfl⟩ := List.mem_map.1 hta
    obtain ⟨e', -, rfl⟩ := List.mem_map.1 htb
    exact ⟨rfl, extendsName_of_versionName_eq hname hnames⟩

end CompositeApp

/-- A pass over one app changes nothing that another one controls, but for what goes by the name of
one of the first app's targets and what goes with an object that the pass may take away. The targets
of the two are apart unless they are for single versions and the name of one app extends that of the
other. -/
theorem World.reconcile_spares {w : World} {a b : CompositeApp} (elapsed : Duration)
    (hkeyed : w.store.cluster.Keyed) (hname : a.name ≠ b.name) :
    (∀ key child, w.store.cluster.get? key = some (.child child) → b.controls child = true →
      a.Apart w.store.cluster key →
      (w.reconcile a elapsed).2.store.cluster.get? key = some (.child child)) ∧
    ∀ kind, ∀ ta ∈ a.targets kind.scope, ∀ kind', ∀ tb ∈ b.targets kind'.scope,
      a.targetKey kind ta = b.targetKey kind' tb →
      kind.scope = .version ∧ (a.ExtendsName b ∨ b.ExtendsName a) := by
  refine ⟨fun key child hstored _ hapart => ?_, fun kind ta hta kind' tb htb hkey => ?_⟩
  · rw [get?_reconcile_of_apart elapsed hkeyed hapart, hstored]
  · exact CompositeApp.extendsName_of_targetKey_eq hname hta htb hkey

namespace Example

def controller (name uid : String) : OwnerReference :=
  { apiVersion := CompositeApp.apiVersion, kind := "CompositeApp", name, uid
    controller := some true, blockOwnerDeletion := none }

def hall : CompositeApp :=
  { metadata := { name := some "hall", namespaceName := some "default", uid := some "hall-uid" }
    spec := { apps := [
      { version := "x-y", image := "hall:1", minReplicas := 1, maxReplicas := 1, port := 80 }] } }

def annex : CompositeApp :=
  { metadata := { name := some "hall-x", namespaceName := some "default", uid := some "annex-uid" }
    spec := { apps := [
      { version := "y", image := "annex:1", minReplicas := 1, maxReplicas := 1, port := 80 }] } }

def contested : Autoscaler :=
  { metadata := {
      name := some "hall-x-y", namespaceName := some "default", uid := some "contested-uid"
      ownerReferences := some [controller "hall-x" "annex-uid"] } }

def entrance : Service :=
  { metadata := {
      name := some "hall-x", namespaceName := some "default", uid := some "entrance-uid"
      ownerReferences := some [controller "hall-x" "annex-uid"] } }

def neighbours : World :=
  { store := { cluster := ((((({} : Cluster).seed (.app hall)).2.seed (.app annex)).2.seed
      (.child (.autoscaler contested))).2.seed (.child (.service entrance))).2 } }

theorem neighbours_keyed : neighbours.store.cluster.Keyed :=
  (((Cluster.Keyed.empty.put _).put _).put _).put _

theorem entrance_stored :
    neighbours.store.cluster.get? ⟨.child .service, "default", "hall-x"⟩ =
      some (Cluster.stamped 4 (.child (.service entrance))) := by
  decide +kernel

theorem annex_stored :
    neighbours.store.cluster.get? annex.storeKey = some (Cluster.stamped 2 (.app annex)) := by
  decide +kernel

/-- The service of the annex belongs to the annex and to nothing else. -/
theorem goesWith_entrance {owner : ObjectKey}
    (h : neighbours.store.cluster.GoesWith ⟨.child .service, "default", "hall-x"⟩ owner) :
    owner = ⟨.child .service, "default", "hall-x"⟩ ∨ owner = annex.storeKey := by
  have hsole : ∀ uid, (Cluster.stamped 4 (.child (.service entrance))).isOwnedBy uid = true →
      uid = "annex-uid" := by
    intro uid hlisted
    have hlisted : (decide ("annex-uid" = uid) || false) = true := hlisted
    simpa [eq_comm] using hlisted
  refine h.eq_or_eq entrance_stored hsole ?_ annex_stored fun _ => rfl
  intro other r hr huid
  have hkey := neighbours_keyed other r hr
  rcases Cluster.eq_or_get?_of_put hr with rfl | hr
  · exact absurd huid (by decide)
  rcases Cluster.eq_or_get?_of_put hr with rfl | hr
  · exact absurd huid (by decide)
  rcases Cluster.eq_or_get?_of_put hr with rfl | hr
  · exact hkey.symm
  rcases Cluster.eq_or_get?_of_put hr with rfl | hr
  · exact absurd huid (by decide)
  · rw [Cluster.get?_empty] at hr
    exact absurd hr (by simp)

theorem hall_unrelated {owner : ObjectKey}
    (howner : neighbours.store.cluster.GoesWith ⟨.child .service, "default", "hall-x"⟩ owner) :
    ¬ hall.Touches owner := by
  intro h
  rcases h with hsame | ⟨kind, target, htarget, hsame⟩
  · rcases goesWith_entrance howner with rfl | rfl <;> exact absurd hsame (by decide)
  · rcases goesWith_entrance howner with rfl | rfl
    · obtain rfl : ChildKind.service = kind := Kind.child.inj (congrArg ObjectKey.kind hsame)
      obtain rfl := List.mem_singleton.1 htarget
      exact absurd hsame (by decide)
    · exact absurd hsame.symm (hall.targetKey_ne_storeKey annex kind target)

theorem hall_apart :
    hall.Apart neighbours.store.cluster ⟨.child .service, "default", "hall-x"⟩ where
  untouched := hall_unrelated (.refl _ _)
  unrelated _ _ howner := hall_unrelated howner
  awaits _ owner r n howner hr _ := by
    have hgiven : "annex-uid" ≠ Cluster.uidText n := by
      intro h
      have hhead := congrArg (·.toList.head?) h
      simp [Cluster.uidText] at hhead
    rcases goesWith_entrance howner with rfl | rfl
    · obtain rfl := Option.some.inj (entrance_stored.symm.trans hr)
      show (decide ("annex-uid" = Cluster.uidText n) || false) = false
      simp [hgiven]
    · obtain rfl := Option.some.inj (annex_stored.symm.trans hr)
      rfl

end Example

theorem World.reconcile_spares_example :
    Example.neighbours.store.cluster.Keyed ∧ Example.hall.name ≠ Example.annex.name ∧
    Example.annex.controls (.service Example.entrance) = true ∧
    (Example.neighbours.reconcile Example.hall default).2.store.cluster.get?
        ⟨.child .service, "default", "hall-x"⟩ =
      some (Cluster.stamped 4 (.child (.service Example.entrance))) := by
  have hname : Example.hall.name ≠ Example.annex.name := by decide
  have hcontrols : Example.annex.controls (.service Example.entrance) = true := by decide
  obtain ⟨hspares, -⟩ := World.reconcile_spares (b := Example.annex) default
    Example.neighbours_keyed hname
  exact ⟨Example.neighbours_keyed, hname, hcontrols,
    hspares _ _ Example.entrance_stored hcontrols Example.hall_apart⟩

def Example.closing : CompositeApp :=
  { Example.hall with
    metadata := { Example.hall.metadata with
      deletionTimestamp := some Cluster.deletionTime, finalizers := some [finalizer] } }

def Example.passage : Service :=
  { Example.entrance with
    metadata := { Example.entrance.metadata with
      ownerReferences := some [Example.controller "hall-x" "annex-uid",
        { Example.controller "hall" "hall-uid" with controller := none }] } }

def Example.parting : World :=
  { store := { cluster := (((({} : Cluster).seed (.app Example.closing)).2.seed
      (.app Example.annex)).2.seed (.child (.service Example.passage))).2 } }

/-- A pass over one app takes over what another one controls if it goes by the name of one of its
targets, and what belongs to both goes with the first of them. -/
theorem World.reconcile_takes_over :
    (Example.hall.validate = .ok () ∧ Example.closing.validate = .ok () ∧
      Example.annex.validate = .ok () ∧
      Example.hall.namespaceName = Example.annex.namespaceName ∧
      Example.hall.name ≠ Example.annex.name ∧
      Example.hall.metadata.uid ≠ Example.annex.metadata.uid) ∧
    (((Example.neighbours.store.cluster.get? ⟨.child .autoscaler, "default", "hall-x-y"⟩).bind
        (·.child?)).map Example.annex.controls = some true ∧
      (((Example.neighbours.reconcile Example.hall default).2.store.cluster.get?
        ⟨.child .autoscaler, "default", "hall-x-y"⟩).bind (·.child?)).map Example.annex.controls =
          some false) ∧
    ((Example.parting.store.cluster.get? ⟨.child .service, "default", "hall-x"⟩).bind
        (·.child?)).map Example.annex.controls = some true ∧
      (Example.parting.reconcile Example.closing default).2.store.cluster.get?
        ⟨.child .service, "default", "hall-x"⟩ = none := by
  refine ⟨⟨by rfl, by rfl, by rfl, by decide, by decide, by decide⟩, ⟨?_, ?_⟩, ?_, ?_⟩
  · decide +kernel
  · decide +kernel
  · decide +kernel
  · have hrun : (Example.parting.reconcile Example.closing default).2.store.cluster.objects =
        (Example.parting.store.cluster.put
          (Cluster.replacement (Cluster.stamped 1 (.app Example.closing))
            (.app Example.closing.withoutFinalizer) 4)).objects.remove
              Example.closing.storeKey := by
      rfl
    rw [Cluster.get?, hrun]
    exact Objects.getElem?_remove_of_owned (Cluster.get?_put_self _ _) rfl rfl rfl

end CompositeApps
