import CompositeApps.App.Basic
import CompositeApps.Proofs.Manifest.RoundTrip

/-!
Round trips of an app as it is written by its users and of its status: what was read is written so
that it is read as the same, and writing it again changes nothing.
-/

namespace CompositeApps

open Decoder Fields

section Policies

theorem RetrySpec.roundTrips : RetrySpec.decode.RoundTrips RetrySpec.toJson := by
  refine record_roundTrips (fun _ => Json.shows_ofOptionalFields _) fun hl h => ?_
  simp only [gets_seq, gets_map] at h ⊢
  obtain ⟨_, hattempts, _, hperTryTimeout, _, hretryOn, rfl⟩ := h
  exact ⟨_, hl.required .int32 hattempts rfl,
    _, hl.optional .text hperTryTimeout rfl,
    _, hl.optional .text hretryOn rfl, rfl⟩

theorem DelaySpec.roundTrips : DelaySpec.decode.RoundTrips DelaySpec.toJson := by
  refine record_roundTrips (fun _ => Json.shows_obj _) fun hl h => ?_
  simp only [gets_seq, gets_map] at h ⊢
  obtain ⟨_, hpercent, _, hdelay, rfl⟩ := h
  exact ⟨_, hl.required .binary64 hpercent rfl, _, hl.required .text hdelay rfl, rfl⟩

theorem AbortSpec.roundTrips : AbortSpec.decode.RoundTrips AbortSpec.toJson := by
  refine record_roundTrips (fun _ => Json.shows_obj _) fun hl h => ?_
  simp only [gets_seq, gets_map] at h ⊢
  obtain ⟨_, hpercent, _, hhttpStatus, rfl⟩ := h
  exact ⟨_, hl.required .binary64 hpercent rfl, _, hl.required .int32 hhttpStatus rfl, rfl⟩

theorem FaultSpec.roundTrips : FaultSpec.decode.RoundTrips FaultSpec.toJson := by
  refine record_roundTrips (fun _ => Json.shows_ofOptionalFields _) fun hl h => ?_
  simp only [gets_seq, gets_map] at h ⊢
  obtain ⟨_, hdelay, _, habort, rfl⟩ := h
  exact ⟨_, hl.optional DelaySpec.roundTrips hdelay rfl,
    _, hl.optional AbortSpec.roundTrips habort rfl, rfl⟩

theorem OutlierSpec.roundTrips : OutlierSpec.decode.RoundTrips OutlierSpec.toJson := by
  refine record_roundTrips (fun _ => Json.shows_ofOptionalFields _) fun hl h => ?_
  simp only [gets_seq, gets_map] at h ⊢
  obtain ⟨_, herrors, _, hinterval, _, hejection, _, hmaxEjection, _, hminHealth, rfl⟩ := h
  exact ⟨_, hl.required .uint32 herrors rfl,
    _, hl.optional .text hinterval rfl,
    _, hl.optional .text hejection rfl,
    _, hl.withDefault .int32 rfl hmaxEjection rfl,
    _, hl.withDefault .int32 rfl hminHealth rfl, rfl⟩

theorem TrafficPolicySpec.roundTrips :
    TrafficPolicySpec.decode.RoundTrips TrafficPolicySpec.toJson := by
  refine record_roundTrips (fun _ => Json.shows_ofOptionalFields _) fun hl h => ?_
  simp only [gets_seq, gets_map] at h ⊢
  obtain ⟨_, hmaxRequests, _, htimeout, _, hretries, _, hfault, _, houtliers, rfl⟩ := h
  exact ⟨_, hl.optional .int32 hmaxRequests rfl,
    _, hl.optional .text htimeout rfl,
    _, hl.optional RetrySpec.roundTrips hretries rfl,
    _, hl.optional FaultSpec.roundTrips hfault rfl,
    _, hl.optional OutlierSpec.roundTrips houtliers rfl, rfl⟩

end Policies

section Gateways

theorem CorsSpec.roundTrips : CorsSpec.decode.RoundTrips CorsSpec.toJson := by
  refine record_roundTrips (fun _ => Json.shows_obj _) fun hl h => ?_
  simp only [gets_seq, gets_map] at h ⊢
  obtain ⟨_, horigins, _, hmethods, _, hheaders, _, hexposed, rfl⟩ := h
  exact ⟨_, hl.withDefault (.list .text) rfl horigins rfl,
    _, hl.withDefault (.list .text) rfl hmethods rfl,
    _, hl.withDefault (.list .text) rfl hheaders rfl,
    _, hl.withDefault (.list .text) rfl hexposed rfl, rfl⟩

theorem VersionRoute.roundTrips : VersionRoute.decode.RoundTrips VersionRoute.toJson := by
  refine record_roundTrips (fun _ => Json.shows_obj _) fun hl h => ?_
  simp only [gets_map] at h ⊢
  obtain ⟨_, hheadersMatch, rfl⟩ := h
  exact ⟨_, hl.withDefault (.list (.dict .text)) rfl hheadersMatch rfl, rfl⟩

theorem GatewaySpec.roundTrips : GatewaySpec.decode.RoundTrips GatewaySpec.toJson := by
  refine record_roundTrips (fun _ => Json.shows_ofOptionalFields _) fun hl h => ?_
  simp only [gets_seq, gets_map] at h ⊢
  obtain ⟨_, hhosts, _, hpathPrefix, _, hweights, _, hcors, _, hroutes, _, hgateway, rfl⟩ := h
  exact ⟨_, hl.required (.list .text) hhosts rfl,
    _, hl.optional .text hpathPrefix rfl,
    _, hl.withDefault (.dict .int32) rfl hweights rfl,
    _, hl.optional CorsSpec.roundTrips hcors rfl,
    _, hl.dict VersionRoute.roundTrips hroutes rfl,
    _, hl.optional .text hgateway rfl, rfl⟩

end Gateways

section Versions

theorem AppRole.roundTrips : AppRole.decode.RoundTrips fun r => .str r.name :=
  .of_forall (fun r => by cases r <;> rfl) nofun

theorem Protocol.roundTrips : Protocol.decode.RoundTrips fun p => .str p.name :=
  .of_forall (fun p => by cases p <;> rfl) nofun

theorem ScalingEngine.roundTrips : ScalingEngine.decode.RoundTrips fun e => .str e.name :=
  .of_forall (fun e => by cases e <;> rfl) nofun

theorem Rollout.roundTrips : Rollout.decode.RoundTrips fun r => .str r.name :=
  .of_forall (fun r => by cases r <;> rfl) nofun

theorem ProbeSpec.roundTrips : ProbeSpec.decode.RoundTrips ProbeSpec.toJson := by
  refine record_roundTrips (fun _ => Json.shows_ofOptionalFields _) fun hl h => ?_
  simp only [gets_seq, gets_map] at h ⊢
  obtain ⟨_, hcommand, _, hpath, _, htimeout, _, hdelay, rfl⟩ := h
  exact ⟨_, hl.list .text hcommand rfl,
    _, hl.optional .text hpath rfl,
    _, hl.withDefault .int32 rfl htimeout rfl,
    _, hl.withDefault .int32 rfl hdelay rfl, rfl⟩

theorem VersionEntry.roundTrips : VersionEntry.decode.RoundTrips VersionEntry.toJson := by
  refine record_roundTrips (fun _ => Json.shows_ofOptionalFields _) fun hl h => ?_
  simp only [gets_seq, gets_map] at h ⊢
  obtain ⟨_, hversion, _, himage, _, hresources, _, hminReplicas, _, hmaxReplicas, _, hport,
    _, hprotocol, _, hrestartMark, _, hreadiness, _, hliveness, _, hscaling, _, hrollout,
    _, henv, _, hlabels, _, hannotations, _, hpullSecret, _, hlogPath, _, hgracePeriod,
    _, hnodeSelector, _, hhostAliases, _, haffinity, _, htolerations, _, hproxy, rfl⟩ := h
  exact ⟨_, hl.required .text hversion rfl,
    _, hl.required .text himage rfl,
    _, hl.withDefault ResourceRequirements.roundTrips rfl hresources rfl,
    _, hl.required .int32 hminReplicas rfl,
    _, hl.required .int32 hmaxReplicas rfl,
    _, hl.required .int32 hport rfl,
    _, hl.withDefault Protocol.roundTrips rfl hprotocol rfl,
    _, hl.unlessEmpty .text (fun _ => String.isEmpty_iff) hrestartMark rfl,
    _, hl.optional ProbeSpec.roundTrips hreadiness rfl,
    _, hl.optional ProbeSpec.roundTrips hliveness rfl,
    _, hl.withDefault ScalingEngine.roundTrips rfl hscaling rfl,
    _, hl.withDefault Rollout.roundTrips rfl hrollout rfl,
    _, hl.list EnvVar.roundTrips henv rfl,
    _, hl.dict .text hlabels rfl,
    _, hl.dict .text hannotations rfl,
    _, hl.optional .text hpullSecret rfl,
    _, hl.optional .text hlogPath rfl,
    _, hl.optional .int64 hgracePeriod rfl,
    _, hl.dict .text hnodeSelector rfl,
    _, hl.unlessEmpty (.shapes rfl) (fun _ => List.isEmpty_iff) hhostAliases rfl,
    _, hl.shape rfl haffinity rfl,
    _, hl.unlessEmpty (.shapes rfl) (fun _ => List.isEmpty_iff) htolerations rfl,
    _, hl.optional ResourceRequirements.roundTrips hproxy rfl, rfl⟩

end Versions

section Apps

theorem AppSpec.roundTrips : AppSpec.decode.RoundTrips AppSpec.toJson := by
  refine record_roundTrips (fun _ => Json.shows_ofOptionalFields _) fun hl h => ?_
  simp only [gets_seq, gets_map] at h ⊢
  obtain ⟨_, hrole, _, happs, _, hgateway, _, hpolicy, rfl⟩ := h
  exact ⟨_, hl.optional AppRole.roundTrips hrole rfl,
    _, hl.withDefault (.list VersionEntry.roundTrips) rfl happs rfl,
    _, hl.optional GatewaySpec.roundTrips hgateway rfl,
    _, hl.optional TrafficPolicySpec.roundTrips hpolicy rfl, rfl⟩

theorem StatusSummary.roundTrips : StatusSummary.decode.RoundTrips StatusSummary.toJson := by
  refine record_roundTrips (fun _ => Json.shows_obj _) fun hl h => ?_
  simp only [gets_seq, gets_map] at h ⊢
  obtain ⟨_, hreplicas, _, himages, _, hweights, _, hprefixPath, rfl⟩ := h
  exact ⟨_, hl.withDefault .text rfl hreplicas rfl,
    _, hl.withDefault .text rfl himages rfl,
    _, hl.withDefault .text rfl hweights rfl,
    _, hl.withDefault .text rfl hprefixPath rfl, rfl⟩

theorem AppStatus.roundTrips : AppStatus.decode.RoundTrips AppStatus.toJson := by
  refine record_roundTrips (fun _ => Json.shows_ofOptionalFields _) fun hl h => ?_
  simp only [gets_seq, gets_map] at h ⊢
  obtain ⟨_, havailable, _, hsuccess, _, hsummary, _, hmessage, _, hgeneration, rfl⟩ := h
  exact ⟨_, hl.dict .int32 havailable rfl,
    _, hl.withDefault .boolean rfl hsuccess rfl,
    _, hl.withDefault StatusSummary.roundTrips rfl hsummary rfl,
    _, hl.optional .text hmessage rfl,
    _, hl.optional .int64 hgeneration rfl, rfl⟩

end Apps

/-- Nothing that an app, its status or the objects of the mesh say is lost when it is read, written
and read again, whichever of the accepted forms it was given in; and the written form stays as it
is. -/
theorem written_forms_survive :
    AppSpec.decode.Survives AppSpec.toJson ∧ AppStatus.decode.Survives AppStatus.toJson ∧
      VersionEntry.decode.Survives VersionEntry.toJson ∧
      GatewaySpec.decode.Survives GatewaySpec.toJson ∧
      TrafficPolicySpec.decode.Survives TrafficPolicySpec.toJson ∧
      VirtualServiceSpec.decode.Survives VirtualServiceSpec.toJson ∧
      DestinationRuleSpec.decode.Survives DestinationRuleSpec.toJson :=
  ⟨AppSpec.roundTrips.survives, AppStatus.roundTrips.survives, VersionEntry.roundTrips.survives,
    GatewaySpec.roundTrips.survives, TrafficPolicySpec.roundTrips.survives,
    VirtualServiceSpec.roundTrips.survives, DestinationRuleSpec.roundTrips.survives⟩

/-- A policy that is given as an array, with a null and an integer for a share in percent, is
written as an object without the null and with the share as a binary64. -/
example : FaultSpec.toJson <$> FaultSpec.decode (.arr [.null, .arr [.int 5, .int 503]]) =
    .ok (.obj [("abort", .obj [("httpStatus", .int 503), ("percent", .float (.ofInt 5))])]) :=
  rfl

end CompositeApps
