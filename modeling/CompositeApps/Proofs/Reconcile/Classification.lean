import CompositeApps.Proofs.Reconcile.Isolation
import CompositeApps.Proofs.Reconcile.Survey

/-!
How a pass is classified. The errors at the targets of a kind come down to one, which is a lost race
only if all of them are; the errors of the kinds come down to the status, the outcome and what users
are told. This holds for whatever the store answers to the work on each single target.
-/

namespace CompositeApps

namespace ApplyError

/-- The error that stands for the results at the targets of a kind: the first that is no lost race,
or the first of all where all are lost races. -/
inductive IsChief (results : List (Except ApplyError Change)) : Option ApplyError → Prop where
  | hard (before after : List (Except ApplyError Change)) (e : ApplyError)
      (hsplit : results = before ++ .error e :: after) (hhard : e.isRetryable = false)
      (hbefore : ∀ earlier, .error earlier ∈ before → earlier.isRetryable = true) :
      IsChief results (some e)
  | raced (before after : List (Except ApplyError Change)) (e : ApplyError)
      (hsplit : results = before ++ .error e :: after)
      (hbefore : ∀ earlier, .error earlier ∉ before)
      (hall : ∀ other, .error other ∈ results → other.isRetryable = true) :
      IsChief results (some e)
  | none (hnone : ∀ e, .error e ∉ results) : IsChief results none

/-- A split of the errors comes from a split of the results. -/
theorem exists_split_of_failures {results : List (Except ApplyError Change)} {e : ApplyError}
    {earlier later : List ApplyError} (h : failures results = earlier ++ e :: later) :
    ∃ before after, results = before ++ .error e :: after ∧ failures before = earlier := by
  obtain ⟨before, rest, rfl, hbefore, hrest⟩ := List.filterMap_eq_append_iff.1 h
  obtain ⟨passed, result, after, rfl, hpassed, hresult, -⟩ := List.filterMap_eq_cons_iff.1 hrest
  have herror : result = .error e := by
    rcases result with e' | change
    · exact congrArg Except.error (Option.some.inj hresult)
    · exact absurd hresult (by simp)
  refine ⟨before ++ passed, after, ?_, ?_⟩
  · rw [herror, List.append_assoc]
  · have hnone : failures passed = [] := List.filterMap_eq_nil_iff.2 hpassed
    change (before ++ passed).filterMap _ = earlier
    rw [List.filterMap_append, hbefore]
    exact (congrArg (earlier ++ ·) hnone).trans (List.append_nil earlier)

theorem failures_split {before after : List (Except ApplyError Change)} {e : ApplyError} :
    failures (before ++ .error e :: after) = failures before ++ e :: failures after :=
  List.filterMap_append

theorem isChief_chief? (results : List (Except ApplyError Change)) :
    IsChief results (chief? results) := by
  cases hchief : chief? results with
  | none => exact .none (chief?_eq_none.1 hchief)
  | some e =>
    rcases Option.or_eq_some_iff.1 hchief with hfind | ⟨hnone, hhead⟩
    · obtain ⟨hhard, earlier, later, hsplit, hearlier⟩ := List.find?_eq_some_iff_append.1 hfind
      obtain ⟨before, after, hresults, hbefore⟩ := exists_split_of_failures hsplit
      refine .hard before after e hresults (by simpa using hhard) fun other hother => ?_
      have hmem : other ∈ earlier := hbefore ▸ mem_failures.2 hother
      simpa using hearlier other hmem
    · obtain ⟨later, hfirst⟩ := List.head?_eq_some_iff.1 hhead
      have hsplit : failures results = [] ++ e :: later := hfirst
      obtain ⟨before, after, hresults, hbefore⟩ := exists_split_of_failures hsplit
      refine .raced before after e hresults (fun other hother => ?_) fun other hother => ?_
      · have hmem := mem_failures.2 hother
        rw [hbefore] at hmem
        exact absurd hmem (by simp)
      · simpa using List.find?_eq_none.1 hnone other (mem_failures.2 hother)

/-- There is one such error at most. -/
theorem chief?_eq_of_isChief {results : List (Except ApplyError Change)}
    {chief : Option ApplyError} (h : IsChief results chief) : chief? results = chief := by
  cases h with
  | hard before after e hsplit hhard hbefore =>
    have hfind : (failures results).find? (!·.isRetryable) = some e := by
      refine List.find?_eq_some_iff_append.2 ⟨by simp [hhard], failures before, failures after, ?_,
        fun other hother => ?_⟩
      · rw [hsplit, failures_split]
      · simp [hbefore other (mem_failures.1 hother)]
    rw [chief?, hfind, Option.some_or]
  | raced before after e hsplit hbefore hall =>
    have hfind : (failures results).find? (!·.isRetryable) = none := by
      refine List.find?_eq_none.2 fun other hother => ?_
      simp [hall other (mem_failures.1 hother)]
    have hnone : failures before = [] :=
      List.eq_nil_iff_forall_not_mem.2 fun other hother => hbefore other (mem_failures.1 hother)
    rw [chief?, hfind, hsplit, failures_split, hnone]
    rfl
  | none hnone => exact chief?_eq_none.2 hnone

end ApplyError

namespace Pass

variable {σ : Type} {h : Handler σ}

theorem conclude_eq_retry {w : StatusWrite} {p : Progress} :
    conclude (.ok w) p.outcome = .ok .retry ↔ w = .conflict ∨ p.raced = true := by
  by_cases hraced : p.raced = true
  · cases w <;> simp [conclude, Progress.outcome, hraced]
  · cases w <;> simp [conclude, Progress.outcome, hraced]

theorem conclude_of_ne_retry {w : StatusWrite} {p : Progress}
    (hended : conclude (.ok w) p.outcome ≠ .ok .retry) :
    conclude (.ok w) p.outcome = .ok (.converged p.success p.writes) := by
  obtain ⟨hwrite, hraced⟩ := not_or.1 (mt conclude_eq_retry.2 hended)
  have houtcome : p.outcome = .converged p.success p.writes := if_neg hraced
  rw [houtcome]
  cases w with
  | conflict => exact absurd rfl hwrite
  | unchanged | written => rfl

/-- How a pass ends that has met what the reports say, from the state behind the gate. The status
that it writes is the final one, and the write comes out as said. -/
structure Classified (h : Handler σ) (copy : CompositeApp) (start : σ)
    (reports : List KindReport) (final : AppStatus) (write : Except StoreError StatusWrite)
    (result : Except PassError PassOutcome) (writes : Nat) (after : σ) : Prop where
  kinds : reports.map KindReport.kind = ChildKind.all
  chief : ∀ r ∈ reports, ∀ e, ApplyError.chief? r.results = e ↔ ApplyError.IsChief r.results e
  /-- The kinds were looked after; then news was told, and the status was written. -/
  steps : ∃ status surveyed, Surveys h copy ChildKind.all {} start reports status surveyed ∧
    (writeStatus copy final).run h
      (h.announce copy (.ofSurvey reports status) surveyed) = (.ok write, after)
  success : final.success = true ↔ ∀ r ∈ reports,
    (∀ e, ApplyError.chief? r.results = some e → e.isRetryable = true) ∧ r.unseen = none
  message : final.message = if final.success then none else
    some ("; ".intercalate ((reports.flatMap KindReport.failures).map ApplyError.message))
  refused : ∀ e, write = .error e → result = .error (.store e)
  retry : ∀ w, write = .ok w → (result = .ok .retry ↔ w = .conflict ∨
    ∃ r ∈ reports, ∃ e, ApplyError.chief? r.results = some e ∧ e.isRetryable = true)
  converged : ∀ w, write = .ok w → result ≠ .ok .retry →
    result = .ok (.converged final.success writes)

/-- What a pass has met on its way says how it ends. -/
theorem classified_of_surveys {copy : CompositeApp} {start surveyed after : σ}
    {reports : List KindReport} {status : AppStatus} {p : Progress}
    {write : Except StoreError StatusWrite} {writes : Nat}
    (hsurveys : Surveys h copy ChildKind.all {} start reports status surveyed)
    (hp : p = .ofSurvey reports status)
    (hwrite : (writeStatus copy (p.finalStatus copy)).run h (h.announce copy p surveyed) =
      (.ok write, after))
    (hwrites : ∀ success n, conclude write p.outcome = .ok (.converged success n) → n = writes) :
    Classified h copy start reports (p.finalStatus copy) write (conclude write p.outcome) writes
      after where
  kinds := hsurveys.kinds_eq
  chief r _ e :=
    ⟨fun he => he ▸ ApplyError.isChief_chief? r.results, ApplyError.chief?_eq_of_isChief⟩
  steps := ⟨status, surveyed, hsurveys, hp ▸ hwrite⟩
  success := by
    rw [hp]
    exact Progress.success_ofSurvey
  message := by
    change p.message? = if p.success then none else _
    rw [Progress.message?, ← Progress.failures_ofSurvey, ← hp]
  refused := by
    rintro e rfl
    rfl
  retry := by
    rintro w rfl
    rw [conclude_eq_retry, hp, Progress.raced_ofSurvey, List.any_eq_true]
    exact or_congr_right (exists_congr fun r => and_congr_right fun _ => KindReport.raced_iff)
  converged := by
    rintro w rfl hended
    have hconverged := conclude_of_ne_retry hended
    rw [hconverged, hwrites _ _ hconverged]
    rfl

/-- A pass behind the gate over a copy of the app that is valid, where calls and hook come back: it
ends with a result, whatever the results at the targets and the answers to the lookups are. The copy
that the gate lets through is the one whose spec is checked. -/
theorem reconcile_classified {I : σ → Prop} (hsteady : h.Steady I) {app copy : CompositeApp}
    {s start : σ} (hs : I s) (hgate : (gate app).run h s = (.ok (.ok (.proceed copy)), start))
    (hvalid : copy.validate = .ok ()) :
    ∃ reports final write result after, (reconcile app).run h s = (.ok result, after) ∧
      Classified h copy start reports final write result
        (childWrites ((reconcile app).exchanges h s)) after := by
  have hstart : I start := by
    obtain ⟨opened, _, hrun, -, hopened⟩ := (gate_returns app).ends hsteady hs
    rw [hgate] at hrun
    exact (Prod.mk.inj hrun).2 ▸ hopened
  obtain ⟨reports, status, surveyed, hsurveys, hsurveyed⟩ :=
    exists_surveys hsteady hvalid ChildKind.all {} hstart
  let p := Progress.ofSurvey reports status
  have htold : I (h.announce copy p surveyed) := by
    unfold Handler.announce
    split
    · exact hsteady.publish copy _ surveyed hsurveyed
    · exact hsurveyed
  have hresponds : (writeStatus copy (p.finalStatus copy)).Responds := writeStatus_responds _
  obtain ⟨write, after, hwrite, -, -⟩ := hresponds.ends hsteady htold
  have hrun : (reconcile app).run h s = (.ok (conclude write p.outcome), after) := by
    rw [reconcile, run_bind, hgate]
    dsimp only
    rw [work, hvalid]
    exact bringInLine_run_of_look (lookAfterAll_run hsurveys) hwrite
  refine ⟨reports, p.finalStatus copy, write, _, after, hrun,
    classified_of_surveys hsurveys rfl hwrite fun success n hconverged => ?_⟩
  rw [hconverged] at hrun
  exact writes_eq_of_converged hrun

/-- A pass that meets a failure, a lost race and successes: the failure is reported, and the app is
read again. -/
theorem reconcile_classified_example :
    World.handler.Steady World.Answering ∧ Example.stormyWorld.Answering ∧
    (gate Example.heldShop).run World.handler Example.stormyWorld =
      (.ok (.ok (.proceed Example.heldShop)), Example.stormyWorld) ∧
    Example.heldShop.validate = .ok () ∧
    ∃ reports final write result after,
      (reconcile Example.heldShop).run World.handler Example.stormyWorld = (.ok result, after) ∧
      Classified World.handler Example.heldShop Example.stormyWorld reports final write result
        (childWrites ((reconcile Example.heldShop).exchanges World.handler Example.stormyWorld))
        after := by
  have hanswering : Example.stormyWorld.Answering := by
    change Example.stormyWorld.store.Answering
    decide
  have hgate : (gate Example.heldShop).run World.handler Example.stormyWorld =
      (.ok (.ok (.proceed Example.heldShop)), Example.stormyWorld) := by rfl
  have hvalid : Example.heldShop.validate = .ok () := by rfl
  exact ⟨World.handler_steady, hanswering, hgate, hvalid,
    reconcile_classified World.handler_steady hanswering hgate hvalid⟩

end Pass

end CompositeApps
