import CompositeApps.Proofs.Cluster.Ownership
import CompositeApps.Proofs.Cluster.Versions
import CompositeApps.Proofs.Reconcile.Calls

/-!
A pass among other writers. Between any two of its calls the store may be written by others. What it
replaces is nevertheless what it has read: a write of the pass finds the object that the pass has
seen, or it is refused and changes nothing.
-/

namespace CompositeApps

/-- A step of a pass as it took place, between the states of the store just before and after it. -/
structure Moment where
  before : Cluster
  exchange : Exchange
  after : Cluster

namespace Cluster

variable {c after : Cluster} {call : Call} {reply : Reply}

theorem Answers.later (h : c.Answers call reply after) : c.Later after := by
  rcases h.effect_or_eq with ⟨_, heffect⟩ | rfl
  · exact heffect.later
  · exact .refl _

theorem Answers.versioned (h : c.Answers call reply after) (hc : c.Versioned) :
    after.Versioned := by
  rcases h.effect_or_eq with ⟨_, heffect⟩ | rfl
  · exact (Write.called heffect).versioned hc
  · exact hc

end Cluster

/-- The runs of a pass from a state of the store, each with its steps and the last state. Others may
write at any time, and a run may stop at any time. -/
inductive Pass.Interleaved {α : Type} : Pass α → Cluster → List Moment → Cluster → Prop where
  | stop (p : Pass α) (c : Cluster) : Interleaved p c [] c
  | others {p : Pass α} {c mid last : Cluster} {moments : List Moment} (hwrite : c.Write mid)
      (hrest : Interleaved p mid moments last) : Interleaved p c moments last
  | call {next : Reply → Pass α} {c mid last : Cluster} {call : Call} {reply : Reply}
      {moments : List Moment} (hanswer : c.Answers call reply mid)
      (hrest : Interleaved (next reply) mid moments last) :
      Interleaved (.call call next) c (⟨c, .called call reply, mid⟩ :: moments) last
  | preDelete {next : Except String Unit → Pass α} {c last : Cluster} {app : CompositeApp}
      {moments : List Moment} (result : Except String Unit)
      (hrest : Interleaved (next result) c moments last) :
      Interleaved (.preDelete app next) c (⟨c, .hooked app result, c⟩ :: moments) last
  | publish {next : Pass α} {c last : Cluster} {app : CompositeApp} {event : Event}
      {moments : List Moment} (hrest : Interleaved next c moments last) :
      Interleaved (.publish app event next) c moments last
  | record {next : Pass α} {c last : Cluster} {change : Change}
      {moments : List Moment} (hrest : Interleaved next c moments last) :
      Interleaved (.record change next) c moments last

def Exchange.read? : Exchange → Option Resource
  | .called (.get _) (.ok reply) | .called (.replace _) (.ok reply) => reply
  | _ => none

def CompositeApp.Seen (app : CompositeApp) (past : List Exchange) (r : Resource) : Prop :=
  r = .app app ∨ ∃ e ∈ past, e.read? = some r

/-- A state of the store in which all that a pass has read can be relied on. -/
structure Cluster.Trusts (c : Cluster) (app : CompositeApp) (past : List Exchange) : Prop where
  versioned : c.Versioned
  recalls : ∀ r, app.Seen past r → c.Recalls r
  found : ∀ key r, .called (.get key) (.ok (some r)) ∈ past → r.key = key

namespace Cluster.Trusts

variable {c after : Cluster} {app : CompositeApp} {past : List Exchange}

/-- When a pass starts, it has read no more than the app. -/
theorem start (hc : c.Versioned) (hread : c.get? app.storeKey = some (.app app)) :
    c.Trusts app [] where
  versioned := hc
  recalls r hr := by
    rcases hr with rfl | ⟨e, he, -⟩
    · exact hc.recalls hread
    · exact absurd he (by simp)
  found _ _ h := absurd h (by simp)

theorem later (h : c.Trusts app past) (hlater : c.Later after) (hafter : after.Versioned) :
    after.Trusts app past :=
  ⟨hafter, fun r hr => (h.recalls r hr).later hlater, h.found⟩

theorem snoc (h : c.Trusts app past) {e : Exchange} (hread : ∀ r, e.read? = some r → c.Recalls r)
    (hfound : ∀ key r, e = .called (.get key) (.ok (some r)) → r.key = key) :
    c.Trusts app (past ++ [e]) where
  versioned := h.versioned
  recalls r hr := by
    rcases hr with rfl | ⟨e', he', hread'⟩
    · exact h.recalls _ (Or.inl rfl)
    · rcases List.mem_append.1 he' with hpast | hlast
      · exact h.recalls r (Or.inr ⟨e', hpast, hread'⟩)
      · obtain rfl := List.mem_singleton.1 hlast
        exact hread r hread'
  found key r hr := by
    rcases List.mem_append.1 hr with hpast | hlast
    · exact h.found key r hpast
    · exact hfound key r (List.mem_singleton.1 hlast).symm

/-- The answer to a call can be relied on as well. -/
theorem answered (h : c.Trusts app past) {call : Call} {reply : Reply}
    (hanswer : c.Answers call reply after) : after.Trusts app (past ++ [.called call reply]) := by
  have hafter : after.Versioned := hanswer.versioned h.versioned
  refine (h.later hanswer.later hafter).snoc (fun r hread => ?_) fun key r hcalled => ?_
  · cases reply with
    | error e => exact absurd hread (by cases call <;> simp [Exchange.read?])
    | ok answer =>
      cases call with
      | get key =>
        obtain ⟨hreply, rfl⟩ := hanswer.effect.of_get
        exact h.versioned.recalls (hreply.symm.trans hread)
      | replace o =>
        obtain rfl : answer = some r := hread
        exact hanswer.effect.recalls_replaced
      | create o | replaceStatus o | delete key => exact absurd hread (by simp [Exchange.read?])
  · obtain ⟨rfl, rfl⟩ := Exchange.called.inj hcalled
    obtain ⟨hreply, rfl⟩ := hanswer.effect.of_get
    exact h.versioned.keyed key r hreply.symm

end Cluster.Trusts

inductive Moment.Licensed (app : CompositeApp) (past : List Exchange) : Moment → Prop where
  | called {before after : Cluster} {call : Call} {reply : Reply}
      (hlicensed : app.Licensed past call) (hanswer : before.Answers call reply after) :
      Licensed app past ⟨before, .called call reply, after⟩
  | hooked (before : Cluster) (a : CompositeApp) (result : Except String Unit) :
      Licensed app past ⟨before, .hooked a result, before⟩

/-- Every step of a run is one that the pass may take, and at each of them the pass can rely on all
that it has read before. -/
theorem Pass.Obeys.interleaved {α : Type} {p : Pass α} {app : CompositeApp} {past : List Exchange}
    {post : α → List Exchange → Prop} (hp : p.Obeys Call.Admits app.Licensed past post)
    {c last : Cluster} {moments earlier later : List Moment} {m : Moment}
    (hrun : p.Interleaved c moments last) (hc : c.Trusts app past)
    (hm : moments = earlier ++ m :: later) :
    m.before.Trusts app (past ++ earlier.map (·.exchange)) ∧
      m.Licensed app (past ++ earlier.map (·.exchange)) := by
  induction hrun generalizing past earlier with
  | stop => exact absurd hm (by simp)
  | others hwrite _ ih => exact ih hp (hc.later hwrite.later (hwrite.versioned hc.versioned)) hm
  | call hanswer _ ih =>
    cases earlier with
    | nil =>
      obtain ⟨rfl, -⟩ := List.cons.inj hm
      rw [List.map_nil, List.append_nil]
      exact ⟨hc, .called hp.1 hanswer⟩
    | cons first rest =>
      obtain ⟨rfl, hrest⟩ := List.cons.inj hm
      rw [List.map_cons, List.append_cons]
      exact ih (hp.2 _ hanswer.admits) (hc.answered hanswer) hrest
  | preDelete result _ ih =>
    cases earlier with
    | nil =>
      obtain ⟨rfl, -⟩ := List.cons.inj hm
      rw [List.map_nil, List.append_nil]
      exact ⟨hc, .hooked _ _ result⟩
    | cons first rest =>
      obtain ⟨rfl, hrest⟩ := List.cons.inj hm
      rw [List.map_cons, List.append_cons]
      refine ih (hp result) (hc.snoc (fun r hread => ?_) fun key r hcalled => ?_) hrest
      · exact absurd hread (by simp [Exchange.read?])
      · exact absurd hcalled (by simp)
  | publish _ ih => exact ih hp hc hm
  | record _ ih => exact ih hp hc hm

namespace CompositeApp

variable {app : CompositeApp} {past : List Exchange} {c after : Cluster}

theorem ReadCopy.seen {copy : CompositeApp} (h : app.ReadCopy copy past) :
    app.Seen past (.app copy) := by
  rcases h.2 with rfl | ⟨r, hr⟩
  · exact Or.inl rfl
  · exact Or.inr ⟨_, hr, rfl⟩

/-- What a pass writes carries the version of what it has read. -/
theorem Licensed.exists_read {call : Call} {r : Resource} (h : app.Licensed past call)
    (hc : c.Trusts app past) (hguarded : call.guarded? = some r) :
    ∃ read, app.Seen past read ∧ read.key = r.key ∧
      r.metadata.resourceVersion = read.metadata.resourceVersion := by
  cases h with
  | lookup | create | delete => exact absurd hguarded (by simp [Call.guarded?])
  | update kind target seen object _ hkey hseen _ hversion _ =>
    obtain rfl := Option.some.inj hguarded
    have hpast := List.mem_of_getLast? hseen
    exact ⟨.child seen, Or.inr ⟨_, hpast, rfl⟩, (hc.found _ _ hpast).trans hkey.symm, hversion⟩
  | register | release =>
    obtain rfl := Option.some.inj hguarded
    exact ⟨.app app, Or.inl rfl, rfl, rfl⟩
  | report copy _ hcopy =>
    obtain rfl := Option.some.inj hguarded
    exact ⟨.app copy, hcopy.seen, rfl, rfl⟩

/-- A guarded write of a pass that works finds stored what the pass has read. -/
theorem Licensed.exists_seen {call : Call} {reply : Option Resource} {r : Resource}
    (h : app.Licensed past call) (hc : c.Trusts app past) (heffect : c.Effect call reply after)
    (hguarded : call.guarded? = some r) :
    ∃ read, app.Seen past read ∧ c.get? r.key = some read ∧
      r.metadata.resourceVersion = read.metadata.resourceVersion := by
  obtain ⟨read, hseen, hkey, hversion⟩ := h.exists_read hc hguarded
  obtain ⟨stored, hstored, hcheck⟩ := heffect.exists_checked hguarded
  have hsame : stored = read :=
    (hc.recalls read hseen).eq_of_checkVersion (by rw [hkey, hstored]) hversion hcheck
  exact ⟨read, hseen, by rw [hstored, hsame], hversion⟩

/-- What a call of a pass stores can be read, if the app that the pass was given was. -/
theorem Licensed.isFinite {call : Call} {stored : Option Resource} (h : app.Licensed past call)
    (hc : c.Trusts app past) (happ : app.spec.isFinite = true)
    (heffect : c.Effect call stored after) : stored.all (·.isFinite) = true ∨ after = c := by
  cases heffect with
  | found => exact Or.inr rfl
  | missed | doomed | removed => exact Or.inl rfl
  | created r =>
    cases h with
    | create _ _ object _ _ hfinite =>
      exact Or.inl ((Cluster.isFinite_newborn _ (.child object)).trans hfinite)
  | replaced r old | released r old =>
    refine Or.inl ((Cluster.isFinite_replacement old r _).trans ?_)
    cases h with
    | update _ _ _ _ _ _ _ _ _ hfinite => exact hfinite
    | register | release => exact happ
  | reported r old hold hcheck =>
    refine Or.inl ?_
    rw [Option.all_some, Cluster.isFinite_stamped, Resource.isFinite_withStatusOf]
    cases h with
    | report copy status hcopy =>
      have hread : old = .app copy :=
        (hc.recalls _ hcopy.seen).eq_of_checkVersion hold rfl hcheck
      rw [hread, Resource.isFinite, hcopy.1.spec_eq]
      exact happ

structure Respects (later earlier : CompositeApp) : Prop where
  spec : later.spec = earlier.spec
  labels : later.metadata.labels = earlier.metadata.labels
  annotations : later.metadata.annotations = earlier.metadata.annotations
  deletion : later.metadata.deletionTimestamp = earlier.metadata.deletionTimestamp
  finalizers : later.metadata.finalizerList.filter (· ≠ finalizer) =
    earlier.metadata.finalizerList.filter (· ≠ finalizer)

theorem Respects.refl (app : CompositeApp) : app.Respects app :=
  ⟨rfl, rfl, rfl, rfl, rfl⟩

/-- An app that a step of a pass may take away: it is being deleted and held by no one but the
operator, or it belongs to another object. -/
def MayGo (a : CompositeApp) (c : Cluster) (key : ObjectKey) : Prop :=
  a.metadata.isTerminating = true ∧ a.metadata.finalizerList.filter (· ≠ finalizer) = [] ∨
    ∃ owner, owner ≠ key ∧ c.Owns owner key

/-- What a step of a pass leaves of an app that was stored under a key: the app, with another status
only if it was as the pass has read it, or nothing if the app may go. -/
def Leaves (app : CompositeApp) (past : List Exchange) (c : Cluster) (key : ObjectKey)
    (a : CompositeApp) : Option Resource → Prop
  | some later => ∃ a', later = .app a' ∧ a'.Respects a ∧
      (a'.status ≠ a.status → app.Seen past (.app a))
  | none => a.MayGo c key

variable {key : ObjectKey} {a : CompositeApp}

theorem Leaves.same (app : CompositeApp) (past : List Exchange) (c : Cluster) (key : ObjectKey)
    (a : CompositeApp) : app.Leaves past c key a (some (.app a)) :=
  ⟨a, rfl, .refl a, fun hother => absurd rfl hother⟩

/-- A replace of a pass under the key of a stored app is one of an app that the pass has read there,
and changes none but its finalizer. -/
theorem Licensed.exists_replaced {r stored : Resource} (h : app.Licensed past (.replace r))
    (hc : c.Trusts app past) (hstored : c.get? r.key = some stored)
    (hcheck : stored.metadata.checkVersion r.metadata = .ok ())
    (ha : c.get? r.key = some (.app a)) (version : Nat) :
    ∃ a', Cluster.replacement stored r version = .app a' ∧ a'.Respects a ∧
      a'.status = a.status := by
  have hwritten : ∀ finalizers, r = .app (app.withFinalizers finalizers) →
      finalizers.filter (· ≠ finalizer) = app.metadata.finalizerList.filter (· ≠ finalizer) →
      ∃ a', Cluster.replacement stored r version = .app a' ∧ a'.Respects a ∧
        a'.status = a.status := by
    rintro finalizers rfl hothers
    have hread : stored = .app app :=
      (hc.recalls _ (Or.inl rfl)).eq_of_checkVersion hstored rfl hcheck
    obtain rfl : app = a := by
      rw [hread] at hstored
      exact Resource.app.inj (Option.some.inj (hstored.symm.trans ha))
    rw [hread]
    exact ⟨_, rfl, ⟨rfl, rfl, rfl, rfl, hothers⟩, rfl⟩
  cases h with
  | update kind target seen object _ hobject =>
    exact absurd hobject.symm (targetKey_ne_of_keyed hc.versioned.keyed ha kind target)
  | register => exact hwritten _ rfl (by simp)
  | release => exact hwritten _ rfl (by simp)

theorem Licensed.leaves_of_replace {r stored : Resource} (h : app.Licensed past (.replace r))
    (hc : c.Trusts app past) (hstored : c.get? r.key = some stored)
    (hcheck : stored.metadata.checkVersion r.metadata = .ok ())
    (ha : c.get? key = some (.app a)) :
    app.Leaves past c key a
      ((c.put (Cluster.replacement stored r (c.version + 1))).get? key) := by
  rw [Cluster.get?_put, Cluster.key_replacement]
  split
  · rename_i hkey
    rw [← hkey] at ha
    obtain ⟨a', ha', hrespects, hstatus⟩ :=
      h.exists_replaced hc hstored hcheck ha (c.version + 1)
    exact ⟨a', ha', hrespects, fun hother => absurd hstatus hother⟩
  · rw [ha]
    exact .same app past c key a

/-- What goes with an object that is released. -/
theorem Licensed.leaves_of_release {r stored : Resource} (h : app.Licensed past (.replace r))
    (hc : c.Trusts app past) (hstored : c.get? r.key = some stored)
    (hcheck : stored.metadata.checkVersion r.metadata = .ok ())
    (hreleased : (Cluster.replacement stored r (c.version + 1)).metadata.isReleased = true)
    (ha : c.get? key = some (.app a)) :
    app.Leaves past c key a
      ((c.put (Cluster.replacement stored r (c.version + 1))).objects.remove r.key)[key]? := by
  cases hafter : ((c.put (Cluster.replacement stored r (c.version + 1))).objects.remove
    r.key)[key]? with
  | some last =>
    have hleaves := h.leaves_of_replace hc hstored hcheck ha
    rwa [Cluster.get?, Objects.getElem?_of_remove hafter] at hleaves
  | none =>
    by_cases hkey : r.key = key
    · rw [← hkey] at ha
      obtain ⟨a', ha', hrespects, -⟩ :=
        h.exists_replaced hc hstored hcheck ha (c.version + 1)
      rw [ha'] at hreleased
      obtain ⟨hgoing, hheld⟩ := Bool.and_eq_true_iff.1 hreleased
      refine Or.inl ⟨?_, ?_⟩
      · rw [ObjectMeta.isTerminating, ← hrespects.deletion]
        exact hgoing
      · rw [← hrespects.finalizers]
        have hnone : a'.metadata.finalizerList = [] := List.isEmpty_iff.1 hheld
        rw [hnone, List.filter_nil]
    · refine Or.inr (Classical.byContradiction fun hunowned => ?_)
      have hstill : ∀ owner, owner ≠ key →
          ¬ (c.put (Cluster.replacement stored r (c.version + 1))).Owns owner key := by
        intro owner hne howns
        have hput : c.get? (Cluster.replacement stored r (c.version + 1)).key = some stored := by
          rwa [Cluster.key_replacement]
        refine hunowned ⟨owner, hne, howns.of_put ?_ hput ?_⟩
        · rwa [Cluster.key_replacement]
        · rw [Cluster.metadata_replacement]
      have hkept := Cluster.get?_remove_of_unowned hkey hstill
      rw [hafter, Cluster.get?_put, Cluster.key_replacement, if_neg hkey, ha] at hkept
      exact absurd hkept (by simp)

/-- A status write of a pass changes no app but for the status of the copy that it has read. -/
theorem Licensed.leaves_of_report {r stored : Resource} (h : app.Licensed past (.replaceStatus r))
    (hc : c.Trusts app past) (hstored : c.get? r.key = some stored)
    (hcheck : stored.metadata.checkVersion r.metadata = .ok ())
    (ha : c.get? key = some (.app a)) :
    app.Leaves past c key a
      ((c.put (Cluster.stamped (c.version + 1) (stored.withStatusOf r))).get? key) := by
  have hkeyStored : stored.key = r.key := hc.versioned.keyed r.key stored hstored
  rw [Cluster.get?_put, Cluster.key_stamped, Cluster.key_withStatusOf, hkeyStored]
  split
  · rename_i hkey
    cases h with
    | report copy status hcopy =>
      have hread : stored = .app copy :=
        (hc.recalls _ hcopy.seen).eq_of_checkVersion hstored rfl hcheck
      obtain rfl : copy = a := by
        rw [← hkey, hstored, hread] at ha
        exact Resource.app.inj (Option.some.inj ha)
      rw [hread]
      exact ⟨_, rfl, ⟨rfl, rfl, rfl, rfl, rfl⟩, fun _ => hcopy.seen⟩
  · rw [ha]
    exact .same app past c key a

/-- What a call of a pass leaves of the apps that are stored. -/
theorem Licensed.leaves {call : Call} {reply : Option Resource} (h : app.Licensed past call)
    (hc : c.Trusts app past) (heffect : c.Effect call reply after)
    (ha : c.get? key = some (.app a)) : app.Leaves past c key a (after.get? key) := by
  cases heffect with
  | found | missed =>
    rw [ha]
    exact .same app past c key a
  | created r hfree =>
    rw [Cluster.get?_put, Cluster.key_newborn, if_neg, ha]
    · exact .same app past c key a
    · intro hsame
      obtain rfl := hsame
      exact absurd (hfree.symm.trans ha) (by simp)
  | replaced r stored hstored hcheck => exact h.leaves_of_replace hc hstored hcheck ha
  | released r stored hstored hcheck hreleased =>
    exact h.leaves_of_release hc hstored hcheck hreleased ha
  | reported r stored hstored hcheck => exact h.leaves_of_report hc hstored hcheck ha
  | doomed other stored hstored =>
    cases h with
    | delete kind target =>
      rw [Cluster.get?_put, Cluster.key_doomed, hc.versioned.keyed _ stored hstored, if_neg, ha]
      · exact .same app past c key a
      · exact targetKey_ne_of_keyed hc.versioned.keyed ha kind target
  | removed other =>
    cases h with
    | delete kind target =>
      have hne : app.targetKey kind target ≠ key :=
        targetKey_ne_of_keyed hc.versioned.keyed ha kind target
      change app.Leaves past c key a (c.objects.remove (app.targetKey kind target))[key]?
      cases hafter : (c.objects.remove (app.targetKey kind target))[key]? with
      | some last =>
        obtain rfl := Option.some.inj ((Objects.getElem?_of_remove hafter).symm.trans ha)
        exact .same app past c key a
      | none =>
        refine Or.inr (Classical.byContradiction fun hunowned => ?_)
        have hkept := Cluster.get?_remove_of_unowned hne
          fun owner hother howns => hunowned ⟨owner, hother, howns⟩
        rw [hafter, ha] at hkept
        exact absurd hkept (by simp)

end CompositeApp

/-- A step of a pass by which nothing is lost that others have written since the pass has read
it. -/
structure Moment.LosesNothing (app : CompositeApp) (past : List Exchange) (m : Moment) : Prop where
  /-- A replace that works finds what the pass has read, at the version that it has read. -/
  guarded : ∀ call reply r, m.exchange = .called call (.ok reply) → call.guarded? = some r →
    ∃ read, app.Seen past read ∧ m.before.get? r.key = some read ∧
      r.metadata.resourceVersion = read.metadata.resourceVersion
  /-- A call that does not work changes nothing. -/
  refused : ∀ call e, m.exchange = .called call (.error e) → m.after = m.before
  /-- The object of a target is replaced only if it is as it was looked up, and that was live. -/
  child : ∀ object reply, m.exchange = .called (.replace (.child object)) (.ok reply) →
    ∃ seen, .called (.get (Resource.child object).key) (.ok (some (.child seen))) ∈ past ∧
      m.before.get? (Resource.child object).key = some (.child seen) ∧
      seen.metadata.isTerminating = false
  /-- An object is made only where there is none. -/
  created : ∀ r reply, m.exchange = .called (.create r) (.ok reply) → m.before.get? r.key = none
  /-- Nothing that is for others to say about an app is changed, and no status but the one read. -/
  app : ∀ key a, m.before.get? key = some (.app a) →
    app.Leaves past m.before key a (m.after.get? key)

theorem Moment.Licensed.losesNothing {app : CompositeApp} {past : List Exchange} {m : Moment}
    (h : m.Licensed app past) (hm : m.before.Trusts app past) (happ : app.spec.isFinite = true) :
    m.LosesNothing app past := by
  cases h with
  | hooked before a result =>
    refine ⟨?_, ?_, ?_, ?_, ?_⟩
    · exact fun _ _ _ hcalled _ => absurd hcalled (by simp)
    · exact fun _ _ _ => rfl
    · exact fun _ _ hcalled => absurd hcalled (by simp)
    · exact fun _ _ hcalled => absurd hcalled (by simp)
    · intro key a ha
      rw [ha]
      exact .same app past before key a
  | @called before after call reply hlicensed hanswer =>
    refine ⟨?_, ?_, ?_, ?_, ?_⟩
    · intro call answer r hcalled hguarded
      obtain ⟨rfl, rfl⟩ := Exchange.called.inj hcalled
      exact hlicensed.exists_seen hm hanswer.effect hguarded
    · intro call e hcalled
      obtain ⟨rfl, rfl⟩ := Exchange.called.inj hcalled
      rcases hanswer.eq_or_unread with hsame | ⟨stored, -, heffect, hunread, -⟩
      · exact hsame
      · refine (hlicensed.isFinite hm happ heffect).resolve_left fun hfinite => ?_
        exact absurd hfinite (by simp [hunread])
    · intro object answer hcalled
      obtain ⟨rfl, rfl⟩ := Exchange.called.inj hcalled
      obtain ⟨stored, hstored, hcheck⟩ := hanswer.effect.exists_checked rfl
      cases hlicensed with
      | update kind target seen _ _ hkey hseen hlive hversion =>
        have hpast := List.mem_of_getLast? hseen
        have hread : app.Seen past (.child seen) := Or.inr ⟨_, hpast, rfl⟩
        have hseenKey := hm.found _ _ hpast
        rw [hkey] at hstored ⊢
        have hsame : stored = .child seen :=
          (hm.recalls _ hread).eq_of_checkVersion (by rw [hseenKey, hstored]) hversion hcheck
        exact ⟨seen, hpast, by rw [hstored, hsame], hlive⟩
    · intro r answer hcalled
      obtain ⟨rfl, rfl⟩ := Exchange.called.inj hcalled
      cases hanswer.effect with
      | created _ hfree => exact hfree
    · intro key a ha
      rcases hanswer.effect_or_eq with ⟨stored, heffect⟩ | hsame
      · exact hlicensed.leaves hm heffect ha
      · change app.Leaves past before key a (after.get? key)
        rw [hsame, ha]
        exact .same app past before key a

/-- No update of others is lost to a pass that starts with a copy of the app as it is stored,
however its calls are interleaved with the writes of others. -/
theorem Pass.reconcile_loses_nothing {c last : Cluster} {app : CompositeApp}
    {moments earlier later : List Moment} {m : Moment} (hc : c.Reachable)
    (hread : c.get app.storeKey = .ok (some (.app app)))
    (hrun : (reconcile app).Interleaved c moments last) (hm : moments = earlier ++ m :: later) :
    m.LosesNothing app (earlier.map (·.exchange)) := by
  obtain ⟨hstored, hfinite⟩ := Reply.ofStored_eq_ok.1 hread
  have happ : app.spec.isFinite = true := by rwa [hstored] at hfinite
  obtain ⟨htrusts, hlicensed⟩ :=
    (reconcile_obeys app).interleaved hrun (.start hc.versioned hstored) hm
  exact hlicensed.losesNothing htrusts happ

namespace Example

def misnamed : CompositeApp :=
  { metadata := {
      name := some "Shop", namespaceName := some "default", uid := some "shop-uid"
      resourceVersion := some "1" }
    spec := {} }

def registered : CompositeApp :=
  { misnamed with
    metadata := { misnamed.metadata with
      finalizers := some [finalizer], resourceVersion := some "2" } }

def reported : CompositeApp :=
  { registered with
    status := some (registered.rejectedStatus
      ⟨"metadata.name", Text.quoted "Shop" ++ " is not a valid DNS-1123 label"⟩) }

def opening : Cluster :=
  (({} : Cluster).seed (.app misnamed)).2

def overtaken : Cluster :=
  ((opening.put (.app registered)).seed
    (.app { registered with spec := { role := some .worker } })).2

def registering : Moment :=
  ⟨opening, .called (.replace (.app misnamed.withFinalizer)) (.ok (some (.app registered))),
    opening.put (.app registered)⟩

def reporting : Moment :=
  ⟨overtaken, .called (.replaceStatus (.app reported))
    (.error (.conflict "resourceVersion 2 is stale (current 3)")), overtaken⟩

theorem raced : (Pass.reconcile misnamed).Interleaved opening [registering, reporting] overtaken :=
  .call (.of_perform rfl) (.others (.seeded _) (.publish (.call (.failed _) (.stop _ _))))

end Example

theorem Pass.reconcile_loses_nothing_example :
    Example.opening.Reachable ∧
    Example.opening.get Example.misnamed.storeKey = .ok (some (.app Example.misnamed)) ∧
    (reconcile Example.misnamed).Interleaved Example.opening
      [Example.registering, Example.reporting] Example.overtaken ∧
    Example.reporting.LosesNothing Example.misnamed [Example.registering.exchange] := by
  have hreachable : Example.opening.Reachable := .write .empty (.seeded _)
  have hread : Example.opening.get Example.misnamed.storeKey =
      .ok (some (.app Example.misnamed)) := by
    decide +kernel
  have hsteps : [Example.registering, Example.reporting] =
      [Example.registering] ++ Example.reporting :: [] := rfl
  exact ⟨hreachable, hread, Example.raced,
    Pass.reconcile_loses_nothing hreachable hread Example.raced hsteps⟩

end CompositeApps
