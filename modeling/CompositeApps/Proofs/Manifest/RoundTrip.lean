import CompositeApps.Manifest.Container
import CompositeApps.Manifest.DestinationRule
import CompositeApps.Proofs.Manifest.Shapes

/-!
Round trips of the parts of a manifest that an app decides on, and of the objects of the mesh. Each
field is read by the law of its type, under the name that it is written under.
-/

namespace CompositeApps

open Decoder Fields

/-- A natural number that may be missing is written as an integer. -/
theorem map_cast {α : Type} (a : Option Nat) (write : Int → α) :
    (a >>= fun n : Nat => pure (n : Int)).map write = a.map fun n : Nat => write n := by
  cases a <;> rfl

section Containers

theorem ResourceRequirements.roundTrips :
    ResourceRequirements.decode.RoundTrips ResourceRequirements.toJson := by
  refine object_roundTrips (fun _ => Json.shows_ofOptionalFields _) fun hl h => ?_
  simp only [gets_seq, gets_map] at h ⊢
  obtain ⟨_, hclaims, _, hlimits, _, hrequests, rfl⟩ := h
  exact ⟨_, hl.optional (.shapes rfl) hclaims rfl,
    _, hl.optional (.dict .text) hlimits rfl,
    _, hl.optional (.dict .text) hrequests rfl, rfl⟩

theorem FieldSelector.roundTrips : FieldSelector.decode.RoundTrips FieldSelector.toJson := by
  refine object_roundTrips (fun _ => Json.shows_ofOptionalFields _) fun hl h => ?_
  simp only [gets_seq, gets_map] at h ⊢
  obtain ⟨_, hapiVersion, _, hfieldPath, rfl⟩ := h
  exact ⟨_, hl.optional .text hapiVersion rfl, _, hl.orDefault .text rfl hfieldPath rfl, rfl⟩

theorem EnvSource.roundTrips : EnvSource.decode.RoundTrips EnvSource.toJson := by
  refine object_roundTrips (fun _ => Json.shows_ofOptionalFields _) fun hl h => ?_
  simp only [gets_seq, gets_map] at h ⊢
  obtain ⟨_, hconfigMap, _, hfield, _, hresource, _, hsecret, rfl⟩ := h
  exact ⟨_, hl.shape rfl hconfigMap rfl,
    _, hl.optional FieldSelector.roundTrips hfield rfl,
    _, hl.shape rfl hresource rfl,
    _, hl.shape rfl hsecret rfl, rfl⟩

theorem EnvVar.roundTrips : EnvVar.decode.RoundTrips EnvVar.toJson := by
  refine object_roundTrips (fun _ => Json.shows_ofOptionalFields _) fun hl h => ?_
  simp only [gets_seq, gets_map] at h ⊢
  obtain ⟨_, hname, _, hvalue, _, hvalueFrom, rfl⟩ := h
  exact ⟨_, hl.orDefault .text rfl hname rfl,
    _, hl.optional .text hvalue rfl,
    _, hl.optional EnvSource.roundTrips hvalueFrom rfl, rfl⟩

end Containers

section VirtualServices

theorem TextMatch.roundTrips : TextMatch.decode.RoundTrips TextMatch.toJson :=
  .of_forall (fun m => by cases m <;> rfl) (fun m => by cases m <;> exact nofun)

theorem HttpMatch.roundTrips : HttpMatch.decode.RoundTrips HttpMatch.toJson := by
  refine record_roundTrips (fun _ => Json.shows_ofOptionalFields _) fun hl h => ?_
  simp only [gets_seq, gets_map] at h ⊢
  obtain ⟨_, huri, _, hheaders, _, hlabels, _, hnamespace, rfl⟩ := h
  exact ⟨_, hl.optional TextMatch.roundTrips huri rfl,
    _, hl.dict TextMatch.roundTrips hheaders rfl,
    _, hl.dict .text hlabels rfl,
    _, hl.optional .text hnamespace rfl, rfl⟩

theorem HttpRewrite.roundTrips : HttpRewrite.decode.RoundTrips HttpRewrite.toJson := by
  refine record_roundTrips (fun _ => Json.shows_obj _) fun hl h => ?_
  simp only [gets_map] at h ⊢
  obtain ⟨_, huri, rfl⟩ := h
  exact ⟨_, hl.required .text huri rfl, rfl⟩

theorem Destination.portNumber_roundTrips :
    Destination.portNumber.RoundTrips fun n => .obj [("number", .int n)] := by
  refine record_roundTrips (fun _ => Json.shows_obj _) fun hl h => ?_
  simp only [gets_map] at h ⊢
  obtain ⟨_, hnumber, rfl⟩ := h
  exact ⟨_, hl.required .uint32 hnumber rfl, rfl⟩

theorem Destination.roundTrips : Destination.decode.RoundTrips Destination.toJson := by
  refine record_roundTrips (fun _ => Json.shows_ofOptionalFields _) fun hl h => ?_
  simp only [gets_seq, gets_map] at h ⊢
  obtain ⟨_, hhost, _, hsubset, _, hport, rfl⟩ := h
  exact ⟨_, hl.required .text hhost rfl,
    _, hl.optional .text hsubset rfl,
    _, hl.optional Destination.portNumber_roundTrips hport (map_cast _ _), rfl⟩

theorem WeightedDestination.roundTrips :
    WeightedDestination.decode.RoundTrips WeightedDestination.toJson := by
  refine record_roundTrips (fun _ => Json.shows_obj _) fun hl h => ?_
  simp only [gets_seq, gets_map] at h ⊢
  obtain ⟨_, hdestination, _, hweight, rfl⟩ := h
  exact ⟨_, hl.required Destination.roundTrips hdestination rfl,
    _, hl.withDefault .int32 rfl hweight rfl, rfl⟩

theorem HttpRetry.roundTrips : HttpRetry.decode.RoundTrips HttpRetry.toJson := by
  refine record_roundTrips (fun _ => Json.shows_ofOptionalFields _) fun hl h => ?_
  simp only [gets_seq, gets_map] at h ⊢
  obtain ⟨_, hattempts, _, hperTryTimeout, _, hretryOn, rfl⟩ := h
  exact ⟨_, hl.required .int32 hattempts rfl,
    _, hl.optional .text hperTryTimeout rfl,
    _, hl.optional .text hretryOn rfl, rfl⟩

theorem Percent.roundTrips : Percent.decode.RoundTrips Percent.toJson := by
  refine record_roundTrips (fun _ => Json.shows_obj _) fun hl h => ?_
  simp only [gets_map] at h ⊢
  obtain ⟨_, hvalue, rfl⟩ := h
  exact ⟨_, hl.required .binary64 hvalue rfl, rfl⟩

theorem FaultDelay.roundTrips : FaultDelay.decode.RoundTrips FaultDelay.toJson := by
  refine record_roundTrips (fun _ => Json.shows_ofOptionalFields _) fun hl h => ?_
  simp only [gets_seq, gets_map] at h ⊢
  obtain ⟨_, hpercentage, _, hfixedDelay, rfl⟩ := h
  exact ⟨_, hl.optional Percent.roundTrips hpercentage rfl,
    _, hl.required .text hfixedDelay rfl, rfl⟩

theorem FaultAbort.roundTrips : FaultAbort.decode.RoundTrips FaultAbort.toJson := by
  refine record_roundTrips (fun _ => Json.shows_ofOptionalFields _) fun hl h => ?_
  simp only [gets_seq, gets_map] at h ⊢
  obtain ⟨_, hpercentage, _, hhttpStatus, rfl⟩ := h
  exact ⟨_, hl.optional Percent.roundTrips hpercentage rfl,
    _, hl.required .int32 hhttpStatus rfl, rfl⟩

theorem HttpFault.roundTrips : HttpFault.decode.RoundTrips HttpFault.toJson := by
  refine record_roundTrips (fun _ => Json.shows_ofOptionalFields _) fun hl h => ?_
  simp only [gets_seq, gets_map] at h ⊢
  obtain ⟨_, hdelay, _, habort, rfl⟩ := h
  exact ⟨_, hl.optional FaultDelay.roundTrips hdelay rfl,
    _, hl.optional FaultAbort.roundTrips habort rfl, rfl⟩

theorem CorsPolicy.roundTrips : CorsPolicy.decode.RoundTrips CorsPolicy.toJson := by
  refine record_roundTrips (fun _ => Json.shows_ofOptionalFields _) fun hl h => ?_
  simp only [gets_seq, gets_map] at h ⊢
  obtain ⟨_, horigins, _, hmethods, _, hheaders, _, hexposed, _, hmaxAge, _, hcredentials, rfl⟩ := h
  exact ⟨_, hl.list TextMatch.roundTrips horigins rfl,
    _, hl.list .text hmethods rfl,
    _, hl.list .text hheaders rfl,
    _, hl.list .text hexposed rfl,
    _, hl.optional .text hmaxAge rfl,
    _, hl.optional .boolean hcredentials rfl, rfl⟩

theorem HttpRoute.roundTrips : HttpRoute.decode.RoundTrips HttpRoute.toJson := by
  refine record_roundTrips (fun _ => Json.shows_ofOptionalFields _) fun hl h => ?_
  simp only [gets_seq, gets_map] at h ⊢
  obtain ⟨_, hblocks, _, hrewrite, _, hroute, _, htimeout, _, hretries, _, hfault, _, hcors,
    rfl⟩ := h
  exact ⟨_, hl.list HttpMatch.roundTrips hblocks rfl,
    _, hl.optional HttpRewrite.roundTrips hrewrite rfl,
    _, hl.list WeightedDestination.roundTrips hroute rfl,
    _, hl.optional .text htimeout rfl,
    _, hl.optional HttpRetry.roundTrips hretries rfl,
    _, hl.optional HttpFault.roundTrips hfault rfl,
    _, hl.optional CorsPolicy.roundTrips hcors rfl, rfl⟩

theorem VirtualServiceSpec.roundTrips :
    VirtualServiceSpec.decode.RoundTrips VirtualServiceSpec.toJson := by
  refine record_roundTrips (fun _ => Json.shows_ofOptionalFields _) fun hl h => ?_
  simp only [gets_seq, gets_map] at h ⊢
  obtain ⟨_, hhosts, _, hgateways, _, hhttp, rfl⟩ := h
  exact ⟨_, hl.list .text hhosts rfl,
    _, hl.list .text hgateways rfl,
    _, hl.list HttpRoute.roundTrips hhttp rfl, rfl⟩

end VirtualServices

section DestinationRules

theorem HttpPool.roundTrips : HttpPool.decode.RoundTrips HttpPool.toJson := by
  refine record_roundTrips (fun _ => Json.shows_ofOptionalFields _) fun hl h => ?_
  simp only [gets_seq, gets_map] at h ⊢
  obtain ⟨_, hpending, _, hrequests, rfl⟩ := h
  exact ⟨_, hl.optional .int32 hpending rfl, _, hl.optional .int32 hrequests rfl, rfl⟩

theorem ConnectionPool.roundTrips : ConnectionPool.decode.RoundTrips ConnectionPool.toJson := by
  refine record_roundTrips (fun _ => Json.shows_ofOptionalFields _) fun hl h => ?_
  simp only [gets_map] at h ⊢
  obtain ⟨_, hhttp, rfl⟩ := h
  exact ⟨_, hl.optional HttpPool.roundTrips hhttp rfl, rfl⟩

theorem LoadBalancer.roundTrips : LoadBalancer.decode.RoundTrips LoadBalancer.toJson := by
  refine record_roundTrips (fun _ => Json.shows_ofOptionalFields _) fun hl h => ?_
  simp only [gets_map] at h ⊢
  obtain ⟨_, hsimple, rfl⟩ := h
  exact ⟨_, hl.optional .text hsimple rfl, rfl⟩

theorem OutlierDetection.roundTrips :
    OutlierDetection.decode.RoundTrips OutlierDetection.toJson := by
  refine record_roundTrips (fun _ => Json.shows_ofOptionalFields _) fun hl h => ?_
  simp only [gets_seq, gets_map] at h ⊢
  obtain ⟨_, herrors, _, hinterval, _, hejection, _, hmaxEjection, _, hminHealth, rfl⟩ := h
  exact ⟨_, hl.optional .uint32 herrors (map_cast _ _),
    _, hl.optional .text hinterval rfl,
    _, hl.optional .text hejection rfl,
    _, hl.optional .int32 hmaxEjection rfl,
    _, hl.optional .int32 hminHealth rfl, rfl⟩

theorem TrafficPolicy.roundTrips : TrafficPolicy.decode.RoundTrips TrafficPolicy.toJson := by
  refine record_roundTrips (fun _ => Json.shows_ofOptionalFields _) fun hl h => ?_
  simp only [gets_seq, gets_map] at h ⊢
  obtain ⟨_, hbalancer, _, hpool, _, houtliers, rfl⟩ := h
  exact ⟨_, hl.optional LoadBalancer.roundTrips hbalancer rfl,
    _, hl.optional ConnectionPool.roundTrips hpool rfl,
    _, hl.optional OutlierDetection.roundTrips houtliers rfl, rfl⟩

theorem Subset.roundTrips : Subset.decode.RoundTrips Subset.toJson := by
  refine record_roundTrips (fun _ => Json.shows_obj _) fun hl h => ?_
  simp only [gets_seq, gets_map] at h ⊢
  obtain ⟨_, hname, _, hlabels, rfl⟩ := h
  exact ⟨_, hl.required .text hname rfl, _, hl.withDefault (.dict .text) rfl hlabels rfl, rfl⟩

theorem DestinationRuleSpec.roundTrips :
    DestinationRuleSpec.decode.RoundTrips DestinationRuleSpec.toJson := by
  refine record_roundTrips (fun _ => Json.shows_ofOptionalFields _) fun hl h => ?_
  simp only [gets_seq, gets_map] at h ⊢
  obtain ⟨_, hhost, _, hpolicy, _, hsubsets, rfl⟩ := h
  exact ⟨_, hl.required .text hhost rfl,
    _, hl.optional TrafficPolicy.roundTrips hpolicy rfl,
    _, hl.list Subset.roundTrips hsubsets rfl, rfl⟩

end DestinationRules

end CompositeApps
