import CompositeApps.Proofs.App.Labels
import CompositeApps.Proofs.Reconcile.Isolation
import CompositeApps.Proofs.Reconcile.Survey

/-!
The log of changes that a pass keeps, against the calls that it makes. Between a write that has
worked and the note of it nothing can go wrong, so the log is complete wherever a pass may stop, be
it at a call that does not come back. Its entries come in the order of the targets.
-/

namespace CompositeApps

def Verb.outcome? : Verb → Option ChangeOutcome
  | create => some .created
  | replace => some .updated
  | delete => some .deleted
  | get | replaceStatus => none

theorem Verb.isWrite_of_outcome? {verb : Verb} {outcome : ChangeOutcome}
    (h : verb.outcome? = some outcome) : verb.isWrite = true ∧ outcome.isWrite = true := by
  cases verb with
  | get | replaceStatus => exact absurd h (by simp [outcome?])
  | create | replace | delete =>
    obtain rfl := Option.some.inj h
    decide

/-- Different writes do different things. -/
theorem Verb.eq_iff_of_outcome? {verb other : Verb} {outcome made : ChangeOutcome}
    (h : verb.outcome? = some outcome) (h' : other.outcome? = some made) :
    verb = other ↔ outcome = made := by
  cases verb <;> cases h <;> cases other <;> cases h' <;> decide

/-- What is noted of an action is what its write does. -/
theorem Action.outcome?_of_write? {key : ObjectKey} {action : Action} {write : Call}
    (h : action.write? key = some write) : write.verb.outcome? = some action.outcome := by
  cases action with
  | keep => exact absurd h (by simp [write?])
  | create | update | delete =>
    obtain rfl := Option.some.inj h
    rfl

theorem ChangeOutcome.name_inj {a b : ChangeOutcome} : a.name = b.name ↔ a = b := by
  cases a <;> cases b <;> decide

theorem ChildKind.name_inj {a b : ChildKind} : a.name = b.name ↔ a = b :=
  ⟨fun h => Kind.child.inj (Kind.name_injective (a := .child a) (b := .child b) h),
    congrArg ChildKind.name⟩

def Change.isOf (kind : ChildKind) (outcome : ChangeOutcome) (c : Change) : Bool :=
  c.kind = kind.name && c.outcome = outcome

section Places

def Change.place (c : Change) : String × String :=
  (c.kind, c.name)

def ChildKind.place (kind : ChildKind) (target : Target) : String × String :=
  (kind.name, target.name)

def CompositeApp.places (app : CompositeApp) : List (String × String) :=
  ChildKind.all.flatMap fun kind => (app.targets kind.scope).map kind.place

theorem CompositeApp.CopyOf.places_eq {app copy : CompositeApp} (h : copy.CopyOf app) :
    copy.places = app.places := by
  simp only [CompositeApp.places, h.targets_eq]

/-- The targets of a valid app are told apart by their places. -/
theorem CompositeApp.places_nodup {app : CompositeApp} (hvalid : app.validate = .ok ()) :
    app.places.Nodup := by
  refine List.nodup_flatMap.2 ⟨fun kind _ => ?_, ?_⟩
  · have hnames := targets_nodup hvalid kind.scope
    have hplaces : (app.targets kind.scope).map kind.place =
        ((app.targets kind.scope).map (·.name)).map (Prod.mk kind.name) := by
      rw [List.map_map]
      rfl
    rw [hplaces]
    exact hnames.map (Prod.mk_right_injective kind.name)
  · have hkinds : ChildKind.all.Pairwise fun kind other => kind.name ≠ other.name := by decide
    refine hkinds.imp fun {kind other} hne place hplace hother => ?_
    obtain ⟨target, -, rfl⟩ := List.mem_map.1 hplace
    obtain ⟨twin, -, htwin⟩ := List.mem_map.1 hother
    exact hne (Prod.mk.inj htwin).1.symm

end Places

namespace Exchange

def worked (verb : Verb) (kind : ChildKind) : Exchange → Bool
  | .called c (.ok _) => c.verb = verb && c.key.kind = .child kind
  | .called _ (.error _) | .hooked _ _ => false

def change? : Exchange → Option Change
  | .called c (.ok _) =>
    match c.verb.outcome?, c.key.kind with
    | some outcome, .child kind => some ⟨kind.name, c.key.name, outcome⟩
    | _, _ => none
  | .called _ (.error _) | .hooked _ _ => none

variable {c : Call} {stored : Option Resource} {kind : ChildKind} {outcome : ChangeOutcome}

theorem change?_called (houtcome : c.verb.outcome? = some outcome)
    (hkind : c.key.kind = .child kind) :
    (called c (.ok stored)).change? = some ⟨kind.name, c.key.name, outcome⟩ := by
  simp only [change?, houtcome, hkind]

theorem isChildWrite_called (houtcome : c.verb.outcome? = some outcome)
    (hkind : c.key.kind = .child kind) : (called c (.ok stored)).isChildWrite = true := by
  simp [isChildWrite, (Verb.isWrite_of_outcome? houtcome).1, hkind]

/-- The calls of a verb that have worked on objects of a kind are those that have made a change of
its sort there. -/
theorem worked_eq_any_change? {verb : Verb} (houtcome : verb.outcome? = some outcome)
    (e : Exchange) : e.worked verb kind = e.change?.any (Change.isOf kind outcome) := by
  rcases e with ⟨c, _ | stored⟩ | _
  · rfl
  · cases hmade : c.verb.outcome? with
    | none =>
      have hverb : c.verb ≠ verb := by
        rintro rfl
        exact absurd (hmade.symm.trans houtcome) (by simp)
      simp [worked, change?, hmade, hverb]
    | some made =>
      cases hkind : c.key.kind with
      | app => simp [worked, change?, hmade, hkind]
      | child other =>
        rw [change?_called hmade hkind]
        simp only [worked, hkind, Option.any_some, Change.isOf, Kind.child.injEq,
          ChildKind.name_inj, Verb.eq_iff_of_outcome? hmade houtcome]
        exact Bool.and_comm _ _
  · rfl

end Exchange

/-- What was noted accounts for what was exchanged, and it is about these places in this order. -/
structure Accounted (places : List (String × String)) (past : List Exchange)
    (noted : List Change) : Prop where
  written : noted.filter Change.isWrite = past.filterMap Exchange.change?
  counted : childWrites past = (past.filterMap Exchange.change?).length
  order : (noted.map Change.place).Sublist places

namespace Accounted

variable {places others : List (String × String)} {past : List Exchange} {noted : List Change}
  {change : Change} {e : Exchange}

theorem nil : Accounted [] [] [] :=
  ⟨rfl, rfl, .refl []⟩

theorem mono (h : Accounted places past noted) (hplaces : places.Sublist others) :
    Accounted others past noted :=
  ⟨h.written, h.counted, h.order.trans hplaces⟩

/-- An exchange that changes nothing needs no note. -/
theorem exchanged (h : Accounted places past noted) (hchange : e.change? = none)
    (hwrite : e.isChildWrite = false) : Accounted places (past ++ [e]) noted where
  written := by simp [h.written, hchange]
  counted := by simp [childWrites_snoc, h.counted, hchange, hwrite]
  order := h.order

/-- A note that an object was left as it was. -/
theorem left (h : Accounted places past noted) (hleft : change.isWrite = false) :
    Accounted (places ++ [change.place]) past (noted ++ [change]) where
  written := by simp [h.written, hleft]
  counted := h.counted
  order := by simpa using h.order.append (.refl [change.place])

/-- A change and the note of it. -/
theorem changed (h : Accounted places past noted) (hchange : e.change? = some change)
    (hwrite : e.isChildWrite = true) (hnote : change.isWrite = true) :
    Accounted (places ++ [change.place]) (past ++ [e]) (noted ++ [change]) where
  written := by simp [h.written, hchange, hnote]
  counted := by simp [childWrites_snoc, h.counted, hchange, hwrite]
  order := by simpa using h.order.append (.refl [change.place])

/-- There are as many notes of changes to a kind as calls that have worked on it. -/
theorem countP_eq (h : Accounted places past noted) (kind : ChildKind) {verb : Verb}
    {outcome : ChangeOutcome} (houtcome : verb.outcome? = some outcome) :
    noted.countP (Change.isOf kind outcome) = past.countP (Exchange.worked verb kind) := by
  have hwrites : ∀ change : Change, change.isOf kind outcome = true → change.isWrite = true := by
    intro change hchange
    have hsame : change.outcome = outcome := by
      simpa using (Bool.and_eq_true_iff.1 hchange).2
    rw [Change.isWrite, hsame]
    exact (Verb.isWrite_of_outcome? houtcome).2
  calc noted.countP (Change.isOf kind outcome)
    _ = (noted.filter Change.isWrite).countP (Change.isOf kind outcome) := by
      rw [List.countP_filter]
      exact List.countP_congr fun change _ => by simpa using hwrites change
    _ = (past.filterMap Exchange.change?).countP (Change.isOf kind outcome) := by rw [h.written]
    _ = past.countP (Exchange.worked verb kind) := by
      rw [List.countP_filterMap]
      refine List.countP_congr fun e _ => ?_
      rw [Exchange.worked_eq_any_change? houtcome]
      cases e.change? <;> rfl

end Accounted

namespace Pass

variable {σ α β : Type}

/-- What was exchanged and what was noted are in a certain relation wherever the pass may stop, and
its result is as said; only the answers that are possible for a call are looked at. -/
def Upholds (possible : Call → Reply → Prop) (I : List Exchange → List Change → Prop) :
    Pass α → List Exchange → List Change → (α → List Exchange → List Change → Prop) → Prop
  | done a, past, noted, post => post a past noted
  | abort _, past, noted, _ => I past noted
  -- The call may not come back.
  | call c next, past, noted, post =>
    I past noted ∧ ∀ reply, possible c reply →
      Upholds possible I (next reply) (past ++ [.called c reply]) noted post
  | preDelete app next, past, noted, post =>
    I past noted ∧ ∀ result,
      Upholds possible I (next result) (past ++ [.hooked app result]) noted post
  | publish _ _ next, past, noted, post => Upholds possible I next past noted post
  | record change next, past, noted, post =>
    Upholds possible I next past (noted ++ [change]) post

def notes (h : Handler σ) : Pass α → σ → List Change
  | done _, _ | abort _, _ => []
  | call c next, s =>
    match h.call c s with
    | (.ok reply, s) => (next reply).notes h s
    | (.error _, _) => []
  | preDelete app next, s =>
    match h.preDelete app s with
    | (.ok result, s) => (next result).notes h s
    | (.error _, _) => []
  | publish app event next, s => next.notes h (h.publish app event s)
  | record change next, s => change :: next.notes h (h.record change s)

section Upholds

variable {possible : Call → Reply → Prop} {I : List Exchange → List Change → Prop}
  {past : List Exchange} {noted : List Change}

theorem Upholds.bind {p : Pass α} {f : α → Pass β} {mid : α → List Exchange → List Change → Prop}
    {post : β → List Exchange → List Change → Prop} (hp : p.Upholds possible I past noted mid)
    (hf : ∀ a later noted', mid a later noted' → (f a).Upholds possible I later noted' post) :
    (p >>= f).Upholds possible I past noted post := by
  change (p.bind f).Upholds possible I past noted post
  induction p generalizing past noted with
  | done a => exact hf a past noted hp
  | abort cause => exact hp
  | call c next ih => exact ⟨hp.1, fun reply hreply => ih reply (hp.2 reply hreply)⟩
  | preDelete app next ih => exact ⟨hp.1, fun result => ih result (hp.2 result)⟩
  | publish app event next ih => exact ih hp
  | record change next ih => exact ih hp

/-- What is known of the results by the calls of the pass is known of them besides. -/
theorem Upholds.and_obeys {rule : List Exchange → Call → Prop} {p : Pass α}
    {post : α → List Exchange → List Change → Prop} {post' : α → List Exchange → Prop}
    (hp : p.Upholds possible I past noted post) (hp' : p.Obeys possible rule past post') :
    p.Upholds possible I past noted fun a later noted' => post a later noted' ∧ post' a later := by
  induction p generalizing past noted with
  | done a => exact ⟨hp, hp'⟩
  | abort cause => exact hp
  | call c next ih =>
    exact ⟨hp.1, fun reply hreply => ih reply (hp.2 reply hreply) (hp'.2 reply hreply)⟩
  | preDelete app next ih => exact ⟨hp.1, fun result => ih result (hp.2 result) (hp' result)⟩
  | publish app event next ih => exact ih hp hp'
  | record change next ih => exact ih hp hp'

/-- Wherever a run stops, be it at a call that does not come back, the relation holds. -/
theorem Upholds.run {h : Handler σ} {p : Pass α} {post : α → List Exchange → List Change → Prop}
    {s : σ} (hpossible : ∀ c s reply after, h.call c s = (.ok reply, after) → possible c reply)
    (hp : p.Upholds possible I past noted post)
    (hpost : ∀ a later noted', post a later noted' → I later noted') :
    I (past ++ p.exchanges h s) (noted ++ p.notes h s) := by
  induction p generalizing past noted s with
  | done a =>
    simp only [exchanges, notes, List.append_nil]
    exact hpost a past noted hp
  | abort cause =>
    simp only [exchanges, notes, List.append_nil]
    exact hp
  | call c next ih =>
    rw [exchanges, notes]
    rcases hcall : h.call c s with ⟨_ | reply, after⟩
    · simp only [List.append_nil]
      exact hp.1
    · rw [List.append_cons]
      exact ih reply (hp.2 reply (hpossible c s reply after hcall))
  | preDelete app next ih =>
    rw [exchanges, notes]
    rcases hhook : h.preDelete app s with ⟨_ | result, after⟩
    · simp only [List.append_nil]
      exact hp.1
    · rw [List.append_cons]
      exact ih result (hp.2 result)
  | publish app event next ih => exact ih hp
  | record change next ih =>
    rw [exchanges, notes, List.append_cons]
    exact ih hp

end Upholds

section Log

variable {app : CompositeApp} {kind : ChildKind} {target : Target}
  {places all : List (String × String)} {past : List Exchange} {noted : List Change}
  {possible : Call → Reply → Prop}

theorem lookup_accounts (h : Accounted places past noted) (hall : places.Sublist all)
    (key : ObjectKey) :
    (lookup key).Upholds possible (Accounted all) past noted fun _ => Accounted places := by
  refine ⟨h.mono hall, fun reply _ => h.exchanged ?_ ?_⟩
  · cases reply <;> rfl
  · cases reply <;> rfl

/-- Once its write has worked, an action is noted at its place. -/
theorem carryOut_accounts (h : Accounted places past noted)
    (hall : (places ++ [kind.place target]).Sublist all) {action : Action}
    (hkey : ∀ write, action.write? (app.targetKey kind target) = some write →
      write.key = app.targetKey kind target) :
    (carryOut (app.targetKey kind target) action).Upholds possible (Accounted all) past noted
      fun _ => Accounted (places ++ [kind.place target]) := by
  have hnow : places.Sublist (places ++ [kind.place target]) := List.sublist_append_left _ _
  unfold carryOut
  dsimp only
  cases hwrite : action.write? (app.targetKey kind target) with
  | none =>
    obtain rfl := Action.write?_eq_none hwrite
    have hleft : Change.isWrite ⟨kind.name, target.name, .unchanged⟩ = false := rfl
    exact h.left hleft
  | some write =>
    have houtcome := Action.outcome?_of_write? hwrite
    have hkind : write.key.kind = .child kind := congrArg ObjectKey.kind (hkey write hwrite)
    have hname : write.key.name = target.name := congrArg ObjectKey.name (hkey write hwrite)
    refine ⟨h.mono (hnow.trans hall), fun reply _ => ?_⟩
    cases reply with
    | error e => exact (h.exchanged rfl rfl).mono hnow
    | ok stored =>
      -- Only here the notes are behind, and the pass does nothing before it has noted the change.
      have hchange : (Exchange.called write (.ok stored)).change? =
          some ⟨kind.name, target.name, action.outcome⟩ := by
        rw [Exchange.change?_called houtcome hkind, hname]
      exact h.changed hchange (Exchange.isChildWrite_called houtcome hkind)
        (Verb.isWrite_of_outcome? houtcome).2

theorem converge_accounts (hvalid : app.validate = .ok ())
    (htarget : target ∈ app.targets kind.scope) (h : Accounted places past noted)
    (hall : (places ++ [kind.place target]).Sublist all) :
    (converge app kind target).Upholds possible (Accounted all) past noted
      fun _ => Accounted (places ++ [kind.place target]) := by
  have hnow : places.Sublist (places ++ [kind.place target]) := List.sublist_append_left _ _
  unfold converge
  rw [← CompositeApp.targetKey]
  refine (lookup_accounts h (hnow.trans hall) _).bind fun found later noted' hlater => ?_
  rcases found with e | observed
  · exact hlater.mono hnow
  -- Whatever was found, what is done about it is what is chosen for it.
  have hchosen : Action.decide app target.name (kind.wanted app target.entry observed) observed =
      app.choice kind target (observed.map .child) := by
    have hseen : (observed.map Resource.child).bind (·.child?) = observed := by
      cases observed <;> rfl
    rw [CompositeApp.choice, hseen]
  dsimp only
  rw [kind.desired_eq_wanted hvalid]
  have hread : ofAborting (.ok (kind.wanted app target.entry observed)) =
      pure (kind.wanted app target.entry observed) := rfl
  rw [hread, pure_bind, hchosen]
  cases haction : app.choice kind target (observed.map .child) with
  | error e => exact hlater.mono hnow
  | ok action =>
    exact carryOut_accounts hlater hall fun write hwrite =>
      CompositeApp.key_of_choice hvalid htarget haction hwrite

theorem convergeAll_accounts (hvalid : app.validate = .ok ()) {targets : List Target}
    (htargets : ∀ target ∈ targets, target ∈ app.targets kind.scope)
    (h : Accounted places past noted) (hall : (places ++ targets.map kind.place).Sublist all) :
    (convergeAll app kind targets).Upholds possible (Accounted all) past noted
      fun _ => Accounted (places ++ targets.map kind.place) := by
  induction targets generalizing places past noted with
  | nil =>
    rw [List.map_nil, List.append_nil]
    exact h
  | cons target rest ih =>
    rw [List.map_cons, List.append_cons] at hall ⊢
    have hfirst : (places ++ [kind.place target]).Sublist all :=
      (List.sublist_append_left _ _).trans hall
    refine (converge_accounts hvalid (htargets target List.mem_cons_self) h hfirst).bind
      fun result later noted' hlater => ?_
    have hrest := ih (fun t ht => htargets t (List.mem_cons_of_mem target ht)) hlater hall
    exact hrest.bind fun _ _ _ hlast => hlast

/-- The users are told of what goes wrong, which changes nothing. -/
theorem settleKind_accounts (h : Accounted places past noted) (p : Progress)
    (results : List (Except ApplyError Change)) :
    (settleKind app p results).Upholds possible (Accounted all) past noted
      fun _ => Accounted places := by
  unfold settleKind
  dsimp only
  split
  · exact h
  · split <;> exact h

theorem settleStatus_accounts (h : Accounted places past noted) (p : Progress) (status : AppStatus)
    (error : Option ApplyError) :
    (settleStatus app p status error).Upholds possible (Accounted all) past noted
      fun _ => Accounted places := by
  cases error <;> exact h

theorem observeAll_accounts (h : Accounted places past noted) (hall : places.Sublist all)
    (status : AppStatus) (targets : List Target) :
    (observeAll app kind status targets).Upholds possible (Accounted all) past noted
      fun _ => Accounted places := by
  induction targets generalizing past noted status with
  | nil => exact h
  | cons target rest ih =>
    refine (lookup_accounts h hall _).bind fun found later noted' hlater => ?_
    cases found with
    | error e => exact hlater
    | ok observed => exact ih hlater _

theorem lookAfter_accounts (hvalid : app.validate = .ok ()) (h : Accounted places past noted)
    (hall : (places ++ (app.targets kind.scope).map kind.place).Sublist all) (p : Progress) :
    (lookAfter app p kind).Upholds possible (Accounted all) past noted
      fun _ => Accounted (places ++ (app.targets kind.scope).map kind.place) := by
  refine (convergeAll_accounts hvalid (fun _ ht => ht) h hall).bind
    fun results later noted' hlater => ?_
  refine (settleKind_accounts hlater p results).bind fun settled told noted' htold => ?_
  rw [updateStatus_eq]
  refine (observeAll_accounts htold hall _ _).bind fun reported last noted' hlast => ?_
  exact settleStatus_accounts hlast settled reported.1 reported.2

theorem lookAfterAll_accounts (hvalid : app.validate = .ok ()) (kinds : List ChildKind)
    (h : Accounted places past noted)
    (hall : (places ++ kinds.flatMap fun kind => (app.targets kind.scope).map kind.place).Sublist
      all) (p : Progress) :
    (lookAfterAll app p kinds).Upholds possible (Accounted all) past noted fun _ =>
      Accounted (places ++ kinds.flatMap fun kind => (app.targets kind.scope).map kind.place) := by
  induction kinds generalizing places past noted p with
  | nil =>
    rw [List.flatMap_nil, List.append_nil]
    exact h
  | cons kind rest ih =>
    rw [List.flatMap_cons, ← List.append_assoc] at hall ⊢
    refine (lookAfter_accounts hvalid h ((List.sublist_append_left _ _).trans hall) p).bind
      fun p' later noted' hlater => ?_
    exact ih hlater hall p'

theorem writeStatus_accounts (h : Accounted all past noted) (status : AppStatus) :
    (writeStatus app status).Upholds possible (Accounted all) past noted
      fun _ => Accounted all := by
  unfold writeStatus
  split
  · exact h
  · refine ⟨h, fun reply _ => ?_⟩
    rcases reply with ⟨_ | _⟩ | _ <;> exact h.exchanged rfl rfl

theorem bringInLine_accounts (hvalid : app.validate = .ok ()) (h : Accounted [] past noted)
    (hall : app.places.Sublist all) :
    (bringInLine app).Upholds possible (Accounted all) past noted fun _ => Accounted all := by
  have hreport : ∀ (p : Progress) (outcome : PassOutcome) later noted',
      Accounted all later noted' →
        (writeStatus app (p.finalStatus app) >>= fun write =>
          pure (conclude write outcome)).Upholds possible (Accounted all) later noted'
            fun _ => Accounted all := by
    intro p outcome later noted' hlater
    exact (writeStatus_accounts hlater _).bind fun _ _ _ hlast => hlast
  unfold bringInLine
  refine (lookAfterAll_accounts hvalid ChildKind.all h hall {}).bind
    fun p later noted' hlater => ?_
  dsimp only
  split
  · exact hreport p _ later noted' (hlater.mono hall)
  · exact hreport p _ later noted' (hlater.mono hall)

/-- Nothing is noted for an app whose spec is not valid. -/
theorem work_accounts (h : Accounted [] past noted)
    (hall : app.validate = .ok () → app.places.Sublist all) :
    (work app).Upholds possible (Accounted all) past noted fun _ => Accounted all := by
  have hnow : Accounted all past noted := h.mono (List.nil_sublist all)
  unfold work
  split
  · rename_i hvalid
    exact bringInLine_accounts hvalid h (hall hvalid)
  · exact (writeStatus_accounts hnow _).bind fun _ _ _ hlast => hlast
  · exact hnow

theorem persist_accounts (h : Accounted places past noted) (hall : places.Sublist all)
    (written : CompositeApp) :
    (persist written).Upholds possible (Accounted all) past noted fun _ => Accounted places := by
  refine ⟨h.mono hall, fun reply _ => ?_⟩
  rcases reply with ⟨_ | _⟩ | _ <;> exact h.exchanged rfl rfl

theorem gate_accounts (h : Accounted places past noted) (hall : places.Sublist all) :
    (gate app).Upholds possible (Accounted all) past noted fun _ => Accounted places := by
  unfold gate
  split
  · exact (persist_accounts h hall _).bind fun _ _ _ hlater => hlater
  · exact h
  · refine ⟨h.mono hall, fun result => ?_⟩
    have hhooked := h.exchanged (e := .hooked app result) rfl rfl
    cases result with
    | error reason => exact hhooked
    | ok _ => exact (persist_accounts hhooked hall _).bind fun _ _ _ hlater => hlater
  · exact h

/-- Wherever a pass may stop, its notes account for what it has exchanged. -/
theorem reconcile_accounts (app : CompositeApp) {all : List (String × String)}
    (hall : app.validate = .ok () → app.places.Sublist all) :
    (reconcile app).Upholds Call.Admits (Accounted all) [] [] fun _ => Accounted all := by
  have hgate : (gate app).Upholds Call.Admits (Accounted all) [] [] fun _ => Accounted [] :=
    gate_accounts .nil (List.nil_sublist all)
  refine (hgate.and_obeys (gate_obeys app)).bind fun result later noted hpost => ?_
  obtain ⟨hlater, hproceed⟩ := hpost
  have hstop : Accounted all later noted := hlater.mono (List.nil_sublist all)
  rcases result with e | copy | _ | _ | _
  · exact hstop
  · have hcopy := (hproceed copy rfl).copyOf
    refine work_accounts hlater fun hvalid => ?_
    rw [hcopy.places_eq]
    exact hall (hcopy.validate_eq ▸ hvalid)
  all_goals exact hstop

end Log

end Pass

theorem PassError.ofAbort_eq_ok {α : Type} {ended : Aborting (Except PassError α)} {result : α} :
    ofAbort ended = .ok result ↔ ended = .ok (.ok result) := by
  cases ended <;> simp [ofAbort]

/-- A counter of changes goes up by one for each change of its kind and outcome. -/
theorem Metrics.changeCount_recordChange (m : Metrics) (kind outcome kind' outcome' : String) :
    (m.recordChange kind outcome).changeCount kind' outcome' =
      m.changeCount kind' outcome' + if kind = kind' ∧ outcome = outcome' then 1 else 0 := by
  simp only [changeCount, recordChange, setChangeCount, Dict.getElem?_insert]
  by_cases hkind : kind = kind'
  · subst hkind
    by_cases houtcome : outcome = outcome'
    · simp [houtcome]
    · simp [Dict.getElem?_insert, houtcome]
  · simp [hkind]

namespace World

theorem call_admits (c : Call) (w : World) (reply : Reply) (after : World)
    (hcall : handler.call c w = (.ok reply, after)) : c.Admits reply := by
  rcases handler_serves.call c w with ⟨reply', after', hcall', hanswer⟩ | ⟨cause, _, hcall', -⟩
  · obtain ⟨hreply, -⟩ := Prod.mk.inj (hcall.symm.trans hcall')
    obtain rfl := Except.ok.inj hreply
    exact hanswer.admits
  · exact absurd (Prod.mk.inj (hcall.symm.trans hcall')).1 (by simp)

structure Noted (w : World) (notes : List Change) (after : World) : Prop where
  changes : after.changes = w.changes ++ notes
  counters : ∀ (kind : ChildKind) (outcome : ChangeOutcome),
    after.metrics.changeCount kind.name outcome.name =
      w.metrics.changeCount kind.name outcome.name + notes.countP (Change.isOf kind outcome)

namespace Noted

variable {w mid after : World} {notes : List Change}

theorem nil (hchanges : after.changes = w.changes) (hmetrics : after.metrics = w.metrics) :
    w.Noted [] after :=
  ⟨by rw [hchanges, List.append_nil], fun kind outcome => by rw [hmetrics]; rfl⟩

theorem later (hchanges : mid.changes = w.changes) (hmetrics : mid.metrics = w.metrics)
    (h : mid.Noted notes after) : w.Noted notes after :=
  ⟨hchanges ▸ h.changes, hmetrics ▸ h.counters⟩

theorem recorded {change : Change} (h : (w.record change).Noted notes after) :
    w.Noted (change :: notes) after where
  changes := by
    rw [h.changes, World.record, List.append_assoc]
    rfl
  counters kind outcome := by
    have hone := w.metrics.changeCount_recordChange change.kind change.outcome.name kind.name
      outcome.name
    rw [h.counters, World.record, hone, List.countP_cons, Change.isOf]
    simp only [ChangeOutcome.name_inj, Bool.and_eq_true, decide_eq_true_eq]
    omega

end Noted

/-- Nothing but the notes of a pass touches the log and the counters of changes. -/
theorem run_noted {α : Type} (p : Pass α) (w : World) :
    w.Noted (p.notes handler w) (p.run handler w).2 := by
  induction p generalizing w with
  | done | abort => exact .nil rfl rfl
  | call c next ih =>
    rcases hcall : handler.call c w with ⟨_ | reply, after⟩
    · simp only [Pass.run, Pass.notes, hcall]
      exact .nil (congrArg (·.2.changes) hcall).symm (congrArg (·.2.metrics) hcall).symm
    · simp only [Pass.run, Pass.notes, hcall]
      exact (ih reply after).later (congrArg (·.2.changes) hcall).symm
        (congrArg (·.2.metrics) hcall).symm
  | preDelete app next ih =>
    rcases hhook : handler.preDelete app w with ⟨_ | result, after⟩
    · exact absurd (congrArg (·.1) hhook) (by simp [handler, World.preDelete])
    · simp only [Pass.run, Pass.notes, hhook]
      exact (ih result after).later (congrArg (·.2.changes) hhook).symm
        (congrArg (·.2.metrics) hhook).symm
  | publish app event next ih =>
    have hrest := ih (w.publish app event)
    exact ⟨hrest.changes, hrest.counters⟩
  | record change next ih => exact (ih (w.record change)).recorded

end World

/-- A pass has kept its books: what it has logged and counted are the calls that have worked, its
entries are at the targets of the app in their order, none at the same place as another, and what it
says to have written is what it has written. -/
structure CompositeApp.Logged (app : CompositeApp) (before : Metrics) (trace : List Exchange)
    (result : Except PassError PassOutcome) (after : World) : Prop where
  writes : after.changes.filter Change.isWrite = trace.filterMap Exchange.change?
  entries : ∀ (kind : ChildKind) (verb : Verb) (outcome : ChangeOutcome),
    verb.outcome? = some outcome →
      after.changes.countP (Change.isOf kind outcome) = trace.countP (Exchange.worked verb kind)
  counters : ∀ (kind : ChildKind) (verb : Verb) (outcome : ChangeOutcome),
    verb.outcome? = some outcome →
      after.metrics.changeCount kind.name outcome.name =
        before.changeCount kind.name outcome.name + trace.countP (Exchange.worked verb kind)
  order : (after.changes.map Change.place).Sublist app.places
  once : (after.changes.map Change.place).Nodup
  total : ∀ success writes, result = .ok (.converged success writes) →
    writes = (trace.filterMap Exchange.change?).length

namespace World

def exchanges (w : World) (app : CompositeApp) : List Exchange :=
  (Pass.reconcile app).exchanges handler { w with changes := [] }

/-- The change log accounts for every write. -/
theorem reconcile_logged (app : CompositeApp) (elapsed : Duration) (w : World) :
    app.Logged w.metrics (w.exchanges app) (w.reconcile app elapsed).1
      (w.reconcile app elapsed).2 := by
  let start : World := { w with changes := [] }
  have hnoted : start.Noted ((Pass.reconcile app).notes handler start)
      ((Pass.reconcile app).run handler start).2 := run_noted _ _
  have haccounted : ∀ all, (app.validate = .ok () → app.places.Sublist all) →
      Accounted all (w.exchanges app) ((Pass.reconcile app).notes handler start) :=
    fun all hall => (Pass.reconcile_accounts app hall).run call_admits fun _ _ _ h => h
  have hbooks := haccounted app.places fun _ => .refl _
  have hlog : (w.reconcile app elapsed).2.changes = (Pass.reconcile app).notes handler start :=
    hnoted.changes
  constructor
  case writes =>
    rw [hlog]
    exact hbooks.written
  case entries =>
    intro kind verb outcome houtcome
    rw [hlog]
    exact hbooks.countP_eq kind houtcome
  case counters =>
    intro kind verb outcome houtcome
    rw [← hbooks.countP_eq kind houtcome]
    exact hnoted.counters kind outcome
  case order =>
    rw [hlog]
    exact hbooks.order
  case once =>
    rw [hlog]
    by_cases hvalid : app.validate = .ok ()
    · exact (CompositeApp.places_nodup hvalid).sublist hbooks.order
    · have hnone := (haccounted [] fun h => absurd h hvalid).order
      exact List.nodup_nil.sublist hnone
  case total =>
    intro success writes hresult
    have hended : (Pass.reconcile app).run handler start =
        (.ok (.ok (.converged success writes)), ((Pass.reconcile app).run handler start).2) := by
      refine Prod.ext ?_ rfl
      exact PassError.ofAbort_eq_ok.1 hresult
    exact (Pass.writes_eq_of_converged hended).trans hbooks.counted

end World

def Example.brokenWorld : World :=
  { heldWorld with store := heldWorld.store.inject ⟨.create, .child .virtualService, .abort⟩ }

/-- A pass that converges, and one that is cut short once it has made a deployment and deleted
another. -/
theorem World.reconcile_logged_example :
    (Example.heldWorld.reconcile Example.heldShop default).1 = .ok (.converged true 6) ∧
    ((Example.heldWorld.exchanges Example.heldShop).filterMap Exchange.change?).length = 6 ∧
    (Example.brokenWorld.reconcile Example.heldShop default).1 =
      .error (.aborted "injected Create panic on VirtualService") ∧
    Verb.outcome? .create = some .created ∧ Verb.outcome? .delete = some .deleted ∧
    (Example.brokenWorld.exchanges Example.heldShop).countP (Exchange.worked .create .deployment) =
      1 ∧
    (Example.brokenWorld.exchanges Example.heldShop).countP (Exchange.worked .delete .deployment) =
      1 := by
  have hheld := reconcile_logged Example.heldShop default Example.heldWorld
  have hbroken := reconcile_logged Example.heldShop default Example.brokenWorld
  refine ⟨rfl, (hheld.total true 6 rfl).symm, rfl, rfl, rfl, ?_, ?_⟩
  · rw [← hbroken.entries .deployment .create .created rfl]
    decide +kernel
  · rw [← hbroken.entries .deployment .delete .deleted rfl]
    decide +kernel

end CompositeApps
