import CompositeApps.Desired.VirtualService
import CompositeApps.Proofs.App.Validation
import Mathlib.Algebra.BigOperators.Group.Finset.Basic
import Mathlib.Algebra.Ring.Int.Defs

/-!
The shares of its requests that an app gives its versions. The check adds up the weights by the
names that the gateway lists, and the routing goes through the versions of the app. Both come to the
same hundred, since every weight is for a version of the app and no version stands there twice.
-/

namespace CompositeApps

/-- The weights of some names that are all different, and among which are all that have a weight. -/
theorem Dict.sum_getD {weights : Dict Int} {names : List String} (hnodup : names.Nodup)
    (hnames : ∀ name weight, weights[name]? = some weight → name ∈ names) :
    (names.map fun name => weights[name]?.getD 0).sum =
      (weights.toList.map (·.2)).foldr (· + ·) 0 := by
  have hlisted : weights.toList.map (·.2) = weights.keys.map fun name => weights[name]?.getD 0 := by
    rw [← Std.ExtTreeMap.map_fst_toList_eq_keys, List.map_map]
    refine List.map_congr_left fun entry hentry => ?_
    have hfound := Std.ExtTreeMap.mem_toList_iff_getElem?_eq_some.1 hentry
    simp only [Function.comp_apply, hfound, Option.getD_some]
  have hsubset : weights.keys.toFinset ⊆ names.toFinset := by
    intro name hname
    have hmem : name ∈ weights := Std.ExtTreeMap.mem_keys.1 (List.mem_toFinset.1 hname)
    have hfound := Std.ExtTreeMap.getElem?_eq_some_getElem hmem
    exact List.mem_toFinset.2 (hnames name _ hfound)
  -- A name that the gateway does not list has no share.
  have hzero : ∀ name ∈ names.toFinset, name ∉ weights.keys.toFinset →
      weights[name]?.getD 0 = 0 := by
    intro name _ hname
    have hmem : name ∉ weights := fun hmem =>
      hname (List.mem_toFinset.2 (Std.ExtTreeMap.mem_keys.2 hmem))
    rw [Std.ExtTreeMap.getElem?_eq_none hmem, Option.getD_none]
  calc (names.map fun name => weights[name]?.getD 0).sum
      = ∑ name ∈ names.toFinset, weights[name]?.getD 0 := (List.sum_toFinset _ hnodup).symm
    _ = ∑ name ∈ weights.keys.toFinset, weights[name]?.getD 0 :=
        (Finset.sum_subset hsubset hzero).symm
    _ = (weights.keys.map fun name => weights[name]?.getD 0).sum :=
        List.sum_toFinset _ Std.ExtTreeMap.nodup_keys
    _ = (weights.toList.map (·.2)).foldr (· + ·) 0 := by rw [hlisted, List.sum_eq_foldr]

/-- A rule that sends every request somewhere: no share is negative, and they make a hundred. -/
structure HttpRoute.SharesAll (r : HttpRoute) : Prop where
  nonneg : ∀ d ∈ r.route, 0 ≤ d.weight
  sum_eq : (r.route.map (·.weight)).sum = 100

namespace Desired

variable {app : CompositeApp} {gateway : GatewaySpec} {settings : RuleSettings}

/-- A rule for one version sends all of its requests there. -/
theorem sharesAll_of_single {blocks : List HttpMatch} {rewrite : Option HttpRewrite}
    {cors : Option CorsPolicy} (e : VersionEntry) :
    (rule settings blocks rewrite [destination app e 100] cors).SharesAll where
  nonneg d hd := by
    obtain rfl := List.mem_singleton.1 hd
    exact (by decide : (0 : Int) ≤ 100)
  sum_eq := by simp [rule, destination]

theorem weightOf_nonneg (h : gateway.validate app = .ok ()) (e : VersionEntry) :
    0 ≤ weightOf gateway e := by
  unfold weightOf
  cases hweight : gateway.weights[e.version]? with
  | none => exact Int.le_refl 0
  | some weight => exact ((GatewaySpec.weights_of_validate h).1 e.version weight hweight).2

theorem sum_weightOf (hvalid : app.validate = .ok ()) (hgateway : gateway.validate app = .ok ()) :
    (app.spec.apps.map (weightOf gateway)).sum = 100 := by
  obtain ⟨hweights, htotal⟩ := GatewaySpec.weights_of_validate hgateway
  have hnames : ∀ name weight, gateway.weights[name]? = some weight →
      name ∈ app.spec.apps.map (·.version) := by
    intro name weight hweight
    exact CompositeApp.declares_iff.1 (hweights name weight hweight).1
  calc (app.spec.apps.map (weightOf gateway)).sum
      = ((app.spec.apps.map (·.version)).map fun name => gateway.weights[name]?.getD 0).sum := by
        rw [List.map_map]
        rfl
    _ = (gateway.weights.toList.map (·.2)).foldr (· + ·) 0 :=
        Dict.sum_getD (CompositeApp.versions_nodup hvalid) hnames
    _ = 100 := htotal

theorem weightedRule_sharesAll (hvalid : app.validate = .ok ())
    (hgateway : gateway.validate app = .ok ()) :
    (weightedRule app gateway settings).SharesAll where
  nonneg d hd := by
    obtain ⟨e, -, rfl⟩ := List.mem_map.1 hd
    exact weightOf_nonneg hgateway e
  sum_eq := by
    rw [← sum_weightOf hvalid hgateway]
    simp only [weightedRule, rule, List.map_map]
    rfl

theorem routes_sharesAll (hvalid : app.validate = .ok ()) {r : HttpRoute}
    (hr : r ∈ (routes app settings).http) : r.SharesAll := by
  unfold routes at hr
  split at hr
  · obtain ⟨e, -, rfl⟩ := List.mem_map.1 hr
    exact sharesAll_of_single e
  · rename_i gateway hsome
    have hgateway := (CompositeApp.validate_eq_ok hvalid).2.1 gateway hsome
    rcases List.mem_append.1 hr with hpinned | hlast
    · obtain ⟨e, -, rfl⟩ := List.mem_map.1 hpinned
      exact sharesAll_of_single e
    · obtain rfl := List.mem_singleton.1 hlast
      exact weightedRule_sharesAll hvalid hgateway

/-- The subsets to which a rule can send a request that is shared out among all versions. -/
theorem subsets_nodup (hvalid : app.validate = .ok ()) :
    (app.spec.apps.map fun e => some (app.versionName e)).Nodup := by
  have hversions := List.pairwise_map.1 (CompositeApp.versions_nodup hvalid)
  refine List.pairwise_map.2 (hversions.imp fun hne hsame => hne ?_)
  exact CompositeApp.versionName_inj.1 (Option.some.inj hsame)

/-- An app that passes its checks and has a version gets rules that send every request somewhere,
and behind a gateway the last of them gives each version, in the order of the spec, the weight that
the gateway has for it. -/
theorem virtualService_shares (hvalid : app.validate = .ok ()) (hsome : app.spec.apps ≠ []) :
    ∃ made, virtualService app = .ok (.present made) ∧ (∀ r ∈ made.spec.http, r.SharesAll) ∧
      ∀ gateway, app.spec.gateway = some gateway → ∃ last, made.spec.http.getLast? = some last ∧
        last.route.map (·.destination.subset) =
          app.spec.apps.map (fun e => some (app.versionName e)) ∧
        (last.route.map (·.destination.subset)).Nodup ∧
        last.route.map (·.weight) =
          app.spec.apps.map fun e => gateway.weights[e.version]?.getD 0 := by
  obtain ⟨settings, hsettings⟩ := exists_ok_ofPolicy (CompositeApp.validate_eq_ok hvalid).1
  have hmade : virtualService app =
      .ok (.present { metadata := app.childMetadata, spec := routes app settings }) := by
    have hnonempty : app.spec.apps.isEmpty = false := by simpa using hsome
    rw [virtualService, hnonempty, hsettings]
    rfl
  refine ⟨_, hmade, fun r hr => routes_sharesAll hvalid hr, ?_⟩
  intro gateway hgateway
  have hsubsets : (weightedRule app gateway settings).route.map (·.destination.subset) =
      app.spec.apps.map fun e => some (app.versionName e) := by
    simp only [weightedRule, rule, List.map_map]
    rfl
  refine ⟨weightedRule app gateway settings, ?_, hsubsets, ?_, ?_⟩
  · simp only [routes, hgateway, gatewayRoutes, List.getLast?_concat]
  · rw [hsubsets]
    exact subsets_nodup hvalid
  · simp only [weightedRule, rule, List.map_map]
    rfl

end Desired

def Example.storefront : CompositeApp :=
  { metadata := { name := some "shop", namespaceName := some "default" }
    spec := {
      apps := [
        { version := "blue", image := "shop:1", minReplicas := 1, maxReplicas := 3, port := 8080 },
        { version := "grey", image := "shop:3", minReplicas := 1, maxReplicas := 1, port := 8080 },
        { version := "green", image := "shop:2", minReplicas := 1, maxReplicas := 3, port := 8080 }]
      gateway := some {
        hosts := ["shop.example.com"]
        weights := ((∅ : Dict Int).insert "green" 20).insert "blue" 80 } } }

theorem Desired.virtualService_shares_example :
    Example.storefront.validate = .ok () ∧ Example.storefront.spec.apps ≠ [] ∧
    ∃ made, virtualService Example.storefront = .ok (.present made) ∧
      (∀ r ∈ made.spec.http, r.SharesAll) ∧
      ∃ last, made.spec.http.getLast? = some last ∧ last.route.map (·.weight) = [80, 0, 20] := by
  have hvalid : Example.storefront.validate = .ok () := by rfl
  have hsome : Example.storefront.spec.apps ≠ [] := by decide
  obtain ⟨made, hmade, hshares, hlast⟩ := virtualService_shares hvalid hsome
  obtain ⟨last, hlast, -, -, hweights⟩ := hlast _ rfl
  exact ⟨hvalid, hsome, made, hmade, hshares, last, hlast, hweights.trans (by rfl)⟩

end CompositeApps
