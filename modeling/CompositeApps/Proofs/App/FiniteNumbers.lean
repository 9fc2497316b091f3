import CompositeApps.Cluster.Resource
import CompositeApps.Proofs.App.WellFormed
import CompositeApps.Proofs.Desired.PolicySettings
import CompositeApps.Proofs.Desired.Stability
import CompositeApps.Proofs.Json.RoundTrip

/-!
Where all numbers are finite: in everything that was read, in an app that passes its checks, and in
the objects that are made for such an app. What has another number is not read from its written
form.
-/

namespace CompositeApps

namespace Decoder

variable {α : Type} {d : Decoder α} {write : α → Json} {P : α → Prop}

/-- What is read has a property, and what lacks it is not read from its written form. -/
structure Judges (d : Decoder α) (write : α → Json) (P : α → Prop) : Prop where
  read : ∀ {v a}, d v = .ok a → P a
  written : ∀ {a b}, d (write a) = .ok b → P a

namespace Judges

theorem binary64 : Decoder.binary64.Judges .ofBinary64 (·.isFinite = true) :=
  ⟨isFinite_of_binary64, fun h => (binary64_ofBinary64_eq_ok.1 h).2⟩

theorem forall_of_mapM (hd : d.Judges write P) {read : List Json} {items : List α}
    (h : read.mapM d = .ok items) : ∀ a ∈ items, P a := by
  induction read generalizing items with
  | nil =>
    obtain rfl := Except.ok.inj h
    simp
  | cons v rest ih =>
    rw [List.mapM_cons, bind_eq_ok] at h
    obtain ⟨a, ha, hrest⟩ := h
    obtain ⟨as, has, hitems⟩ := bind_eq_ok.1 hrest
    obtain rfl := Except.ok.inj hitems
    exact List.forall_mem_cons.2 ⟨hd.read ha, ih has⟩

theorem forall_of_mapM_map (hd : d.Judges write P) {items read : List α}
    (h : (items.map write).mapM d = .ok read) : ∀ a ∈ items, P a := by
  induction items generalizing read with
  | nil => simp
  | cons a rest ih =>
    rw [List.map_cons, List.mapM_cons, bind_eq_ok] at h
    obtain ⟨b, hb, hrest⟩ := h
    obtain ⟨bs, hbs, -⟩ := bind_eq_ok.1 hrest
    exact List.forall_mem_cons.2 ⟨hd.written hb, ih hbs⟩

theorem list (hd : d.Judges write P) :
    (Decoder.list d).Judges (Json.ofList write) fun items => ∀ a ∈ items, P a := by
  refine ⟨fun {v items} h => ?_, fun {items read} h => hd.forall_of_mapM_map h⟩
  cases v with
  | arr read => exact hd.forall_of_mapM h
  | null | bool | int | float | str | obj => exact absurd h (by simp [Decoder.list])

variable {name : String} {l : Layout} {i : Nat} {get : String → Option Json}

theorem required (hd : d.Judges write P) {a : α}
    (h : (Fields.required name d).read l i = .ok a) : P a := by
  obtain ⟨v, hv⟩ := Fields.exists_of_required h
  exact hd.read hv

theorem optional (hd : d.Judges write P) {found : Option α}
    (h : (Fields.optional name d).read l i = .ok found) : ∀ a, found = some a → P a := by
  rintro a rfl
  obtain ⟨v, hv⟩ := Fields.exists_of_optional h
  exact hd.read hv

theorem items (hd : d.Judges write P) {items : List α}
    (h : (Fields.withDefault name [] (Decoder.list d)).read l i = .ok items) :
    ∀ a ∈ items, P a := by
  rcases Fields.field_eq_ok.1 h with ⟨v, -, hv⟩ | ⟨-, habsent⟩
  · exact hd.list.read hv
  · obtain rfl := Option.some.inj habsent
    simp

theorem written_required (hd : d.Judges write P) (hl : l.Shows get) {a b : α}
    (h : (Fields.required name d).read l i = .ok b) (hget : get name = some (write a)) : P a := by
  rcases Fields.field_eq_ok.1 h with ⟨v, hfound, hv⟩ | ⟨-, habsent⟩
  · obtain rfl := Option.some.inj (hfound.symm.trans ((hl name i).trans hget))
    exact hd.written hv
  · exact absurd habsent (by simp)

theorem written_optional (hd : d.Judges write P) (hl : l.Shows get)
    {shown : α → String → Option Json} (hshows : ∀ a, (write a).Shows (shown a))
    {given read : Option α} (h : (Fields.optional name d).read l i = .ok read)
    (hget : get name = given.map write) : ∀ a, given = some a → P a := by
  rintro a rfl
  rcases Fields.field_eq_ok.1 h with ⟨v, hfound, hv⟩ | ⟨hfound, -⟩
  · obtain rfl := Option.some.inj (hfound.symm.trans ((hl name i).trans hget))
    unfold Decoder.nullable at hv
    split at hv
    · obtain ⟨entries, hobject, -⟩ := hshows a
      rename_i hnull
      exact absurd (hobject.symm.trans hnull) (by simp)
    · obtain ⟨b, hb, -⟩ := map_eq_ok.1 hv
      exact hd.written hb
  · exact absurd (hfound.symm.trans ((hl name i).trans hget)) (by simp)

theorem written_items (hd : d.Judges write P) (hl : l.Shows get) {items read : List α}
    (h : (Fields.withDefault name [] (Decoder.list d)).read l i = .ok read)
    (hget : get name = if items.isEmpty then none else some (Json.ofList write items)) :
    ∀ a ∈ items, P a := by
  cases items with
  | nil => simp
  | cons a rest =>
    rcases Fields.field_eq_ok.1 h with ⟨v, hfound, hv⟩ | ⟨hfound, -⟩
    · obtain rfl := Option.some.inj (hfound.symm.trans ((hl name i).trans hget))
      exact hd.list.written hv
    · exact absurd (hfound.symm.trans ((hl name i).trans hget)) (by simp)

end Judges

end Decoder

theorem Fields.record_judges {α : Type} {name : String} {fields : Fields α} {write : α → Json}
    {get : α → String → Option Json} {P : α → Prop} (hshows : ∀ a, (write a).Shows (get a))
    (hread : ∀ {l a}, fields.Gets l 0 (· = a) → P a)
    (hwritten : ∀ {l a b}, Layout.Shows l (get a) → fields.Gets l 0 (· = b) → P a) :
    (record name fields).Judges write P := by
  refine ⟨fun {v a} h => ?_, fun {a b} h => ?_⟩
  · obtain ⟨l, ha⟩ := exists_read_of_record h
    exact hread ⟨a, ha, rfl⟩
  · obtain ⟨entries, hwrite, hget⟩ := hshows a
    rw [hwrite] at h
    have hlayout : Layout.Shows (.named entries) (get a) := fun name _ => hget name
    exact hwritten hlayout ⟨b, mapError_eq_ok.1 h, rfl⟩

open Fields

section Policies

theorem FaultSpec.isFinite_iff {f : FaultSpec} : f.isFinite = true ↔
    (∀ d, f.delay = some d → d.percent.isFinite = true) ∧
      ∀ a, f.abort = some a → a.percent.isFinite = true := by
  rw [isFinite, Bool.and_eq_true, Option.all_eq_true, Option.all_eq_true]

theorem TrafficPolicySpec.isFinite_iff {p : TrafficPolicySpec} :
    p.isFinite = true ↔ ∀ f, p.fault = some f → f.isFinite = true := by
  rw [isFinite, Option.all_eq_true]

theorem AppSpec.isFinite_iff {s : AppSpec} :
    s.isFinite = true ↔ ∀ p, s.policy = some p → p.isFinite = true := by
  rw [isFinite, Option.all_eq_true]

theorem DelaySpec.judges :
    DelaySpec.decode.Judges DelaySpec.toJson (·.percent.isFinite = true) := by
  refine record_judges (fun _ => Json.shows_obj _) (fun h => ?_) (fun hl h => ?_) <;>
    simp only [gets_seq, gets_map] at h
  · obtain ⟨_, hpercent, _, -, rfl⟩ := h
    exact Decoder.Judges.binary64.required hpercent
  · obtain ⟨_, hpercent, -⟩ := h
    exact Decoder.Judges.binary64.written_required hl hpercent rfl

theorem AbortSpec.judges :
    AbortSpec.decode.Judges AbortSpec.toJson (·.percent.isFinite = true) := by
  refine record_judges (fun _ => Json.shows_obj _) (fun h => ?_) (fun hl h => ?_) <;>
    simp only [gets_seq, gets_map] at h
  · obtain ⟨_, hpercent, _, -, rfl⟩ := h
    exact Decoder.Judges.binary64.required hpercent
  · obtain ⟨_, hpercent, -⟩ := h
    exact Decoder.Judges.binary64.written_required hl hpercent rfl

theorem FaultSpec.judges : FaultSpec.decode.Judges FaultSpec.toJson (·.isFinite = true) := by
  refine record_judges (fun _ => Json.shows_ofOptionalFields _) (fun h => ?_) (fun hl h => ?_) <;>
    simp only [gets_seq, gets_map] at h
  · obtain ⟨_, hdelay, _, habort, rfl⟩ := h
    exact isFinite_iff.2 ⟨DelaySpec.judges.optional hdelay, AbortSpec.judges.optional habort⟩
  · obtain ⟨_, hdelay, _, habort, -⟩ := h
    exact isFinite_iff.2
      ⟨DelaySpec.judges.written_optional hl (fun _ => Json.shows_obj _) hdelay rfl,
      AbortSpec.judges.written_optional hl (fun _ => Json.shows_obj _) habort rfl⟩

theorem TrafficPolicySpec.judges :
    TrafficPolicySpec.decode.Judges TrafficPolicySpec.toJson (·.isFinite = true) := by
  refine record_judges (fun _ => Json.shows_ofOptionalFields _) (fun h => ?_) (fun hl h => ?_) <;>
    simp only [gets_seq, gets_map] at h
  · obtain ⟨_, -, _, -, _, -, _, hfault, _, -, rfl⟩ := h
    exact isFinite_iff.2 (FaultSpec.judges.optional hfault)
  · obtain ⟨_, -, _, -, _, -, _, hfault, -⟩ := h
    exact isFinite_iff.2 (FaultSpec.judges.written_optional hl
      (fun _ => Json.shows_ofOptionalFields _) hfault rfl)

theorem AppSpec.judges : AppSpec.decode.Judges AppSpec.toJson (·.isFinite = true) := by
  refine record_judges (fun _ => Json.shows_ofOptionalFields _) (fun h => ?_) (fun hl h => ?_) <;>
    simp only [gets_seq, gets_map] at h
  · obtain ⟨_, -, _, -, _, -, _, hpolicy, rfl⟩ := h
    exact isFinite_iff.2 (TrafficPolicySpec.judges.optional hpolicy)
  · obtain ⟨_, -, _, -, _, -, _, hpolicy, -⟩ := h
    exact isFinite_iff.2 (TrafficPolicySpec.judges.written_optional hl
      (fun _ => Json.shows_ofOptionalFields _) hpolicy rfl)

theorem CompositeApp.judges :
    CompositeApp.decode.Judges CompositeApp.toJson (·.spec.isFinite = true) := by
  refine record_judges (fun _ => Json.shows_ofOptionalFields _) (fun h => ?_) (fun hl h => ?_) <;>
    simp only [gets_seq, gets_map] at h
  · obtain ⟨_, -, _, hspec, _, -, rfl⟩ := h
    exact AppSpec.judges.required hspec
  · obtain ⟨_, -, _, hspec, -⟩ := h
    exact AppSpec.judges.written_required hl hspec rfl

end Policies

section VirtualServices

theorem HttpFault.isFinite_iff {f : HttpFault} : f.isFinite = true ↔
    (∀ a, f.abort = some a → ∀ p, a.percentage = some p → p.value.isFinite = true) ∧
      ∀ d, f.delay = some d → ∀ p, d.percentage = some p → p.value.isFinite = true := by
  simp only [isFinite, Bool.and_eq_true, Option.all_eq_true]

theorem VirtualServiceSpec.isFinite_iff {s : VirtualServiceSpec} : s.isFinite = true ↔
    ∀ r ∈ s.http, ∀ f, r.fault = some f → f.isFinite = true := by
  simp only [isFinite, List.all_eq_true, Option.all_eq_true]

theorem Percent.judges : Percent.decode.Judges Percent.toJson (·.value.isFinite = true) := by
  refine record_judges (fun _ => Json.shows_obj _) (fun h => ?_) (fun hl h => ?_) <;>
    simp only [gets_map] at h
  · obtain ⟨_, hvalue, rfl⟩ := h
    exact Decoder.Judges.binary64.required hvalue
  · obtain ⟨_, hvalue, -⟩ := h
    exact Decoder.Judges.binary64.written_required hl hvalue rfl

theorem FaultDelay.judges : FaultDelay.decode.Judges FaultDelay.toJson
    fun d => ∀ p, d.percentage = some p → p.value.isFinite = true := by
  refine record_judges (fun _ => Json.shows_ofOptionalFields _) (fun h => ?_) (fun hl h => ?_) <;>
    simp only [gets_seq, gets_map] at h
  · obtain ⟨_, hpercentage, _, -, rfl⟩ := h
    exact Percent.judges.optional hpercentage
  · obtain ⟨_, hpercentage, -⟩ := h
    exact Percent.judges.written_optional hl (fun _ => Json.shows_obj _) hpercentage rfl

theorem FaultAbort.judges : FaultAbort.decode.Judges FaultAbort.toJson
    fun a => ∀ p, a.percentage = some p → p.value.isFinite = true := by
  refine record_judges (fun _ => Json.shows_ofOptionalFields _) (fun h => ?_) (fun hl h => ?_) <;>
    simp only [gets_seq, gets_map] at h
  · obtain ⟨_, hpercentage, _, -, rfl⟩ := h
    exact Percent.judges.optional hpercentage
  · obtain ⟨_, hpercentage, -⟩ := h
    exact Percent.judges.written_optional hl (fun _ => Json.shows_obj _) hpercentage rfl

theorem HttpFault.judges : HttpFault.decode.Judges HttpFault.toJson (·.isFinite = true) := by
  refine record_judges (fun _ => Json.shows_ofOptionalFields _) (fun h => ?_) (fun hl h => ?_) <;>
    simp only [gets_seq, gets_map] at h
  · obtain ⟨_, hdelay, _, habort, rfl⟩ := h
    exact isFinite_iff.2 ⟨FaultAbort.judges.optional habort, FaultDelay.judges.optional hdelay⟩
  · obtain ⟨_, hdelay, _, habort, -⟩ := h
    exact isFinite_iff.2 ⟨FaultAbort.judges.written_optional hl
        (fun _ => Json.shows_ofOptionalFields _) habort rfl,
      FaultDelay.judges.written_optional hl (fun _ => Json.shows_ofOptionalFields _) hdelay rfl⟩

theorem HttpRoute.judges : HttpRoute.decode.Judges HttpRoute.toJson
    fun r => ∀ f, r.fault = some f → f.isFinite = true := by
  refine record_judges (fun _ => Json.shows_ofOptionalFields _) (fun h => ?_) (fun hl h => ?_) <;>
    simp only [gets_seq, gets_map] at h
  · obtain ⟨_, -, _, -, _, -, _, -, _, -, _, hfault, _, -, rfl⟩ := h
    exact HttpFault.judges.optional hfault
  · obtain ⟨_, -, _, -, _, -, _, -, _, -, _, hfault, -⟩ := h
    exact HttpFault.judges.written_optional hl (fun _ => Json.shows_ofOptionalFields _) hfault rfl

theorem VirtualServiceSpec.judges :
    VirtualServiceSpec.decode.Judges VirtualServiceSpec.toJson (·.isFinite = true) := by
  refine record_judges (fun _ => Json.shows_ofOptionalFields _) (fun h => ?_) (fun hl h => ?_) <;>
    simp only [gets_seq, gets_map] at h
  · obtain ⟨_, -, _, -, _, hhttp, rfl⟩ := h
    exact isFinite_iff.2 (HttpRoute.judges.items hhttp)
  · obtain ⟨_, -, _, -, _, hhttp, -⟩ := h
    exact isFinite_iff.2 (HttpRoute.judges.written_items hl hhttp rfl)

theorem VirtualService.judges :
    VirtualService.decode.Judges VirtualService.toJson (·.spec.isFinite = true) := by
  refine record_judges (fun _ => Json.shows_obj _) (fun h => ?_) (fun hl h => ?_) <;>
    simp only [gets_seq, gets_map] at h
  · obtain ⟨_, -, _, hspec, rfl⟩ := h
    exact VirtualServiceSpec.judges.required hspec
  · obtain ⟨_, -, _, hspec, -⟩ := h
    exact VirtualServiceSpec.judges.written_required hl hspec rfl

end VirtualServices

/-- All numbers of an object that was read are finite. -/
theorem Resource.isFinite_of_decode {kind : Kind} {v : Json} {r : Resource}
    (h : decode kind v = .ok r) : r.isFinite = true := by
  cases kind with
  | app =>
    obtain ⟨a, ha, rfl⟩ := map_eq_ok.1 h
    exact CompositeApp.judges.read ha
  | child kind =>
    obtain ⟨c, hc, rfl⟩ := map_eq_ok.1 h
    cases kind with
    | virtualService =>
      obtain ⟨s, hs, rfl⟩ := map_eq_ok.1 hc
      exact VirtualService.judges.read hs
    | deployment | service | autoscaler | destinationRule =>
      obtain ⟨s, -, rfl⟩ := map_eq_ok.1 hc
      rfl

/-- An object with a number that is not finite is not read from its written form. -/
theorem Resource.exists_decode_error {r : Resource} {e : DecodeError} (h : r.reread = .error e) :
    ∃ cause, decode r.kind r.toJson = .error cause := by
  have hfinite : ¬ r.isFinite = true := by
    intro hfinite
    rw [reread, if_pos hfinite] at h
    exact absurd h (by simp)
  cases hread : decode r.kind r.toJson with
  | error cause => exact ⟨cause, rfl⟩
  | ok s =>
    refine absurd ?_ hfinite
    cases r with
    | app a =>
      obtain ⟨b, hb, -⟩ := map_eq_ok.1 hread
      exact CompositeApp.judges.written hb
    | child c =>
      cases c with
      | virtualService v =>
        obtain ⟨made, hmade, -⟩ := map_eq_ok.1 hread
        obtain ⟨s, hs, -⟩ := map_eq_ok.1 hmade
        exact VirtualService.judges.written hs
      | deployment | service | autoscaler | destinationRule => rfl

/-- An app that passes its checks has finite numbers only. -/
theorem CompositeApp.isFinite_of_validate {app : CompositeApp} (h : app.validate = .ok ()) :
    app.spec.isFinite = true := by
  refine AppSpec.isFinite_iff.2 fun p hp => TrafficPolicySpec.isFinite_iff.2 fun f hf => ?_
  have hpolicy := (wellFormed_of_validate h).policy p hp
  exact FaultSpec.isFinite_iff.2 ⟨fun d hd => (hpolicy.delay f d hf hd).2.1,
    fun a ha => (hpolicy.abort f a hf ha).1.1⟩

/-- A fault that is made of a policy has no numbers but those that are given. -/
theorem Desired.CarriesFault.isFinite {given : Option FaultSpec} {made : HttpFault}
    (h : CarriesFault given (some made)) (hgiven : ∀ f, given = some f → f.isFinite = true) :
    made.isFinite = true := by
  refine HttpFault.isFinite_iff.2 ⟨fun a ha p hp => ?_, fun d hd p hp => ?_⟩
  · have habort := h.abort
    rw [Option.bind_some, ha] at habort
    generalize hsource : given.bind (·.abort) = source at habort
    cases habort with
    | some hcarries =>
      obtain ⟨f, hf, hfabort⟩ := Option.bind_eq_some_iff.1 hsource
      obtain rfl := Option.some.inj (hcarries.percent.symm.trans hp)
      exact (FaultSpec.isFinite_iff.1 (hgiven f hf)).2 _ hfabort
  · have hdelay := h.delay
    rw [Option.bind_some, hd] at hdelay
    generalize hsource : given.bind (·.delay) = source at hdelay
    cases hdelay with
    | some hcarries =>
      obtain ⟨f, hf, hfdelay⟩ := Option.bind_eq_some_iff.1 hsource
      obtain rfl := Option.some.inj (hcarries.percent.symm.trans hp)
      exact (FaultSpec.isFinite_iff.1 (hgiven f hf)).1 _ hfdelay

theorem Desired.isFinite_of_virtualService {app : CompositeApp} (hvalid : app.validate = .ok ())
    {v : VirtualService} (h : virtualService app = .ok (.present v)) : v.spec.isFinite = true := by
  unfold virtualService at h
  split at h
  · exact absurd (Except.ok.inj h) (by simp)
  · obtain ⟨settings, hsettings, hmade⟩ := bind_eq_ok.1 h
    obtain rfl := Desired.present.inj (Except.ok.inj hmade)
    have hcarries := carries_of_ofPolicy (CompositeApp.validate_eq_ok hvalid).1 hsettings
    refine VirtualServiceSpec.isFinite_iff.2 fun r hr f hf => ?_
    have hfault : settings.fault = some f := by rw [← settingsOf_of_mem_routes hr, ← hf]; rfl
    refine CarriesFault.isFinite (hfault ▸ hcarries.fault) fun given hgiven => ?_
    obtain ⟨p, hp, hpfault⟩ := Option.bind_eq_some_iff.1 hgiven
    have hpolicy := AppSpec.isFinite_iff.1 (CompositeApp.isFinite_of_validate hvalid) p hp
    exact TrafficPolicySpec.isFinite_iff.1 hpolicy given hpfault

/-- What an app that passes its checks wants of an object has finite numbers only. -/
theorem ChildKind.isFinite_of_desired {app : CompositeApp} {kind : ChildKind} {target : Target}
    {observed : Option Child} {wanted : Child} (hvalid : app.validate = .ok ())
    (htarget : target ∈ app.targets kind.scope)
    (h : kind.desired app target.entry observed = .ok (.present wanted)) :
    wanted.isFinite = true := by
  obtain ⟨rfl, -⟩ := desired_present htarget h
  cases wanted with
  | virtualService v =>
    obtain ⟨desired, hdesired, hmap⟩ := map_eq_ok.1 h
    obtain ⟨made, rfl, hmade⟩ := Desired.map_eq_present.1 hmap
    obtain rfl := Child.virtualService.inj hmade
    exact Desired.isFinite_of_virtualService hvalid hdesired
  | deployment | service | autoscaler | destinationRule => rfl

end CompositeApps
