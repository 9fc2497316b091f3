import CompositeApps.Api.Client
import CompositeApps.Api.Server
import CompositeApps.Proofs.Cluster.Confined
import CompositeApps.Proofs.Cluster.Faults

/-!
The store in memory beside the one behind an API, where calls fail. A call that is made to fail with
a status in memory comes to what it comes to when the API answers it with that status, but for the
text; a lookup and a deletion that are answered with 404 are the exception, and so is the creation
of an object that is there already.
-/

namespace CompositeApps

/-- Two calls come to the same, but for the texts of their errors. -/
def Reply.Alike (a b : Reply) : Prop :=
  a.mapError StoreError.bare = b.mapError StoreError.bare

theorem Reply.alike_error_iff {e e' : StoreError} :
    Reply.Alike (.error e) (.error e') ↔ e.bare = e'.bare :=
  ⟨fun h => Except.error.inj h, fun h => congrArg Except.error h⟩

theorem Reply.not_alike_of_ok (e : StoreError) (r : Option Resource) :
    ¬ Reply.Alike (.error e) (.ok r) := by
  intro h
  change Except.error e.bare = Except.ok r at h
  exact absurd h (by simp)

def Call.AllowsAbsence (c : Call) : Prop :=
  c.verb = .get ∨ c.verb = .delete

/-- An answer that tells a failure as an API does: with its status as the code, and with the reason
that an object was not found just if that is 404. -/
structure HttpResponse.Refuses (r : HttpResponse) : Prop where
  failed : r.isFailure = true
  code : (ApiFailure.ofResponse r).code = r.status
  reason : (ApiFailure.ofResponse r).reason = "NotFound" ↔ r.status = 404

theorem ApiFailure.bare_toStoreError (f : ApiFailure) :
    f.toStoreError.bare = StoreError.ofCode f.code := by
  unfold toStoreError StoreError.ofCode
  split
  · rfl
  · split
    · rfl
    · rfl

namespace ApiClient

/-- What an answer that tells a failure means for a call. -/
theorem reply_of_refuses {r : HttpResponse} (h : r.Refuses) (c : Call) :
    (r.status = 404 ∧ c.AllowsAbsence → reply c r = .ok none) ∧
      (¬ (r.status = 404 ∧ c.AllowsAbsence) →
        ∃ e, reply c r = .error e ∧ e.bare = StoreError.ofCode r.status) := by
  have hreply : reply c r = replyOfFailure c (.ofResponse r) := by
    unfold reply
    rw [if_pos h.failed]
  have hbare := (ApiFailure.ofResponse r).bare_toStoreError
  rw [h.code] at hbare
  rw [hreply]
  unfold replyOfFailure Call.AllowsAbsence
  cases c with
  | get key =>
    dsimp only
    simp only [h.reason]
    by_cases hmissing : r.status = 404
    · simp [hmissing, Call.verb]
    · simp [hmissing, hbare]
  | delete key =>
    dsimp only
    rw [h.code]
    by_cases hmissing : r.status = 404
    · simp [hmissing, Call.verb]
    · simp [hmissing, hbare]
  | create r' => simp [Call.verb, hbare]
  | replace r' => simp [Call.verb, hbare]
  | replaceStatus r' => simp [Call.verb, hbare]

/-- A call that is answered comes to what the answer means for it. -/
theorem perform_of_answer {σ : Type} {t : Transport σ} {c : Call} {s after : σ}
    {sent : HttpRequest} {response : HttpResponse} (hsent : request c = .ok sent)
    (hanswer : t sent s = (.ok response, after)) : perform t c s = (reply c response, after) := by
  simp only [perform, hsent, hanswer]

end ApiClient

namespace FaultyCluster

variable {σ : Type} {store : FaultyCluster} {t : Transport σ} {s after : σ} {c : Call}
  {sent : HttpRequest} {response : HttpResponse}

/-- Where the store in memory fails like the one behind an API. A call that is made to fail with the
status that the API answers it with comes to the same in both, but for the text, just if it is not a
lookup or a deletion that is answered with 404: in memory these fail, and behind the API nothing is
found, and all is done. An object that is there already and is created anew fails as a conflict
behind the API, and in memory as any other refusal. -/
theorem fails_alike_iff (hsent : ApiClient.request c = .ok sent)
    (hanswer : t sent s = (.ok response, after)) (hrefuses : response.Refuses) :
    (store.faultOf? c.verb c.key.kind = some (.status response.status) →
      ∃ reply, (store.perform c).1 = .ok reply ∧
        (Reply.Alike reply (ApiClient.perform t c s).1 ↔
          ¬ (response.status = 404 ∧ c.AllowsAbsence)) ∧
        (response.status = 404 ∧ c.AllowsAbsence →
          reply = .error .notFound ∧ (ApiClient.perform t c s).1 = .ok none)) ∧
    ∀ r stored, c = .create r → store.cluster.get? r.key = some stored →
      store.faultOf? .create r.kind = none → response.status = 409 →
        ∃ text reason, (store.perform c).1 = .ok (.error (.api 409 text)) ∧
          (ApiClient.perform t c s).1 = .error (.conflict reason) := by
  obtain ⟨habsent, hfails⟩ := ApiClient.reply_of_refuses hrefuses c
  rw [ApiClient.perform_of_answer hsent hanswer]
  refine ⟨fun hfault => ?_, fun r stored hcreate hstored hfree hconflict => ?_⟩
  · obtain ⟨e, houtcome, hbare⟩ := Fault.exists_outcome response.status c.verb c.key.kind
    refine ⟨.error e, ?_, ?_, fun hmissing => ⟨?_, habsent hmissing⟩⟩
    · rw [perform_of_fault hfault, houtcome]
    · by_cases hmissing : response.status = 404 ∧ c.AllowsAbsence
      · rw [habsent hmissing]
        simp [Reply.not_alike_of_ok, hmissing]
      · obtain ⟨e', hreply, hbare'⟩ := hfails hmissing
        rw [hreply]
        simp [Reply.alike_error_iff, hmissing, hbare, hbare']
    · rw [hmissing.1, StoreError.ofCode, if_pos rfl] at hbare
      cases e with
      | notFound => rfl
      | conflict | api | malformed | client => exact absurd hbare (by simp [StoreError.bare])
  · subst hcreate
    have hpresent : ¬ (response.status = 404 ∧ (Call.create r).AllowsAbsence) := by
      rw [hconflict]
      simp
    obtain ⟨e, hreply, hbare⟩ := hfails hpresent
    rw [hconflict] at hbare
    rw [hreply, perform_of_faultless hfree, Cluster.perform_create_of_some hstored]
    cases e with
    | conflict reason => exact ⟨_, reason, rfl, rfl⟩
    | notFound | api | malformed | client =>
      exact absurd hbare (by simp [StoreError.bare, StoreError.ofCode])

end FaultyCluster

theorem ApiServer.notFound_refuses : notFound.Refuses := by
  have htold : ApiFailure.ofResponse notFound = ⟨404, "NotFound", "not found"⟩ := by
    decide +kernel
  exact ⟨rfl, by rw [htold]; rfl, by rw [htold]; exact ⟨fun _ => rfl, fun _ => rfl⟩⟩

/-- Every failing status can be told in the way of the API. -/
theorem HttpResponse.exists_refuses {code : Nat} (hlow : 400 ≤ code) (hhigh : code < 600) :
    ∃ r : HttpResponse, r.Refuses ∧ r.status = code := by
  by_cases hmissing : code = 404
  · exact ⟨ApiServer.notFound, ApiServer.notFound_refuses, hmissing.symm⟩
  · have htold : ApiFailure.ofResponse ⟨code, ""⟩ =
        ⟨code, "Failed to parse error data", Text.quoted ""⟩ := rfl
    refine ⟨⟨code, ""⟩, ⟨by simp [isFailure, hlow, hhigh], by rw [htold], ?_⟩, rfl⟩
    rw [htold]
    simp [hmissing]

namespace Example

def archiveKey : ObjectKey :=
  ⟨.child .deployment, "default", "archive-v1"⟩

def archive : Resource :=
  .child (.deployment { metadata := {
    name := some "archive-v1", namespaceName := some "default" } })

def withoutDeployments : FaultyCluster :=
  { rules := [⟨.get, .child .deployment, .status 404⟩, ⟨.delete, .child .deployment, .status 404⟩] }

def withArchive : FaultyCluster :=
  { cluster := (({} : Cluster).seed archive).2 }

def bareApi : Transport Unit :=
  fun _ s => (.ok ApiServer.notFound, s)

def fullApi : Transport Unit :=
  fun _ s =>
    (.ok ⟨409, (RequestFault.statusBody 409 "it is there" "AlreadyExists").render⟩, s)

theorem request_archive : ApiClient.request (.get archiveKey) =
    .ok ⟨.get, ⟨"/apis/apps/v1/namespaces/default/deployments/archive-v1", none⟩, none, none⟩ := by
  rfl

end Example

namespace FaultyCluster

/-- A deployment that is not there is looked up. -/
theorem fails_alike_iff_example :
    (∃ sent, ApiClient.request (.get Example.archiveKey) = .ok sent ∧
      Example.bareApi sent () = (.ok ApiServer.notFound, ())) ∧
    ApiServer.notFound.Refuses ∧
    Example.withoutDeployments.faultOf? .get (.child .deployment) = some (.status 404) ∧
    (Example.withoutDeployments.perform (.get Example.archiveKey)).1 = .ok (.error .notFound) ∧
    (ApiClient.perform Example.bareApi (.get Example.archiveKey) ()).1 = .ok none := by
  have hfault : Example.withoutDeployments.faultOf? .get (.child .deployment) =
      some (.status 404) := by decide
  obtain ⟨reply, hreply, -, habsent⟩ := (fails_alike_iff (t := Example.bareApi) (s := ())
    Example.request_archive rfl ApiServer.notFound_refuses).1 hfault
  obtain ⟨rfl, hanswer⟩ := habsent ⟨rfl, .inl rfl⟩
  exact ⟨⟨_, Example.request_archive, rfl⟩, ApiServer.notFound_refuses, hfault, hreply, hanswer⟩

/-- What is told apart by the two stores: a lookup and a deletion of what is not there, and the
creation of what is. -/
theorem absence_told_apart :
    ((Example.withoutDeployments.perform (.get Example.archiveKey)).1 = .ok (.error .notFound) ∧
      (ApiClient.perform Example.bareApi (.get Example.archiveKey) ()).1 = .ok none) ∧
    ((Example.withoutDeployments.perform (.delete Example.archiveKey)).1 = .ok (.error .notFound) ∧
      (ApiClient.perform Example.bareApi (.delete Example.archiveKey) ()).1 = .ok none) ∧
    ¬ Reply.Alike (.error .notFound) (.ok none) ∧
    ((Example.withArchive.perform (.create Example.archive)).1 =
        .ok (.error (.api 409 "Deployment archive-v1 already exists")) ∧
      (ApiClient.perform Example.fullApi (.create Example.archive) ()).1 =
        .error (.conflict "it is there")) ∧
    ∀ text reason, ¬ Reply.Alike (.error (.api 409 text)) (.error (.conflict reason)) := by
  have habsent : ∀ c sent, ApiClient.request c = .ok sent → c.AllowsAbsence →
      (ApiClient.perform Example.bareApi c ()).1 = .ok none := by
    intro c sent hsent hallows
    rw [ApiClient.perform_of_answer (t := Example.bareApi) hsent rfl]
    exact (ApiClient.reply_of_refuses ApiServer.notFound_refuses c).1 ⟨rfl, hallows⟩
  have hrefused : (ApiClient.perform Example.fullApi (.create Example.archive) ()).1 =
      .error (.conflict "it is there") := by
    have hsent : ∃ sent, ApiClient.request (.create Example.archive) = .ok sent := ⟨_, rfl⟩
    have htold : ApiFailure.ofResponse
        ⟨409, (RequestFault.statusBody 409 "it is there" "AlreadyExists").render⟩ =
          ⟨409, "AlreadyExists", "it is there"⟩ := by decide +kernel
    obtain ⟨sent, hsent⟩ := hsent
    rw [ApiClient.perform_of_answer (t := Example.fullApi) hsent rfl]
    simp only [ApiClient.reply, HttpResponse.isFailure, ApiClient.replyOfFailure, htold]
    rfl
  refine ⟨⟨rfl, habsent _ _ Example.request_archive (.inl rfl)⟩,
    ⟨rfl, habsent _ _ rfl (.inr rfl)⟩, Reply.not_alike_of_ok _ _, ⟨?_, hrefused⟩,
    fun text reason => ?_⟩
  · have hthere : (Example.withArchive.cluster.get? Example.archive.key).isSome = true := by
      decide +kernel
    obtain ⟨stored, hstored⟩ := Option.isSome_iff_exists.1 hthere
    rw [perform_of_faultless rfl, Cluster.perform_create_of_some hstored]
    rfl
  · simp [Reply.alike_error_iff, StoreError.bare]

end FaultyCluster

end CompositeApps
