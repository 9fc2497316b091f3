import CompositeApps.Proofs.App.WellFormed
import CompositeApps.Proofs.Desired.GatewayRules

/-!
Requests without headers. Nothing pins them to a version but a route with a set of headers that has
none in it. Such a set is met by every request: the first version that has one gets all the requests
for which an earlier rule does not hold, whatever the weights say.
-/

namespace CompositeApps

namespace GatewaySpec

variable {gateway : GatewaySpec} {app : CompositeApp}

/-- The route of a version has a set of headers with none in it. -/
def CatchesAll (gateway : GatewaySpec) (e : VersionEntry) : Prop :=
  ∅ ∈ (gateway.routes[e.version]?.map (·.headersMatch)).getD []

instance (gateway : GatewaySpec) (e : VersionEntry) : Decidable (gateway.CatchesAll e) :=
  inferInstanceAs (Decidable (_ ∈ _))

theorem pins_empty_iff {e : VersionEntry} : gateway.Pins e ∅ ↔ gateway.CatchesAll e := by
  have hunmet : ∀ required : Dict String, required.Within ∅ ↔ required = ∅ := by
    intro required
    refine ⟨fun h => Std.ExtTreeMap.ext_getElem? fun name => ?_, fun h => h ▸ .refl _⟩
    rw [Dict.getElem?_empty]
    refine Option.eq_none_iff_forall_ne_some.2 fun value hvalue => ?_
    exact absurd ((Dict.getElem?_empty name).symm.trans (h name value hvalue)) (by simp)
  rw [Pins, Dict.getElem?_empty, CatchesAll]
  simp [hunmet]

/-- No version catches all requests just if no set of headers is empty. -/
theorem forall_not_catchesAll_iff (h : gateway.WellFormed (app.spec.apps.map (·.version))) :
    (∀ e ∈ app.spec.apps, ¬ gateway.CatchesAll e) ↔
      ∀ (version : String) (route : VersionRoute), gateway.routes[version]? = some route →
        ∅ ∉ route.headersMatch := by
  constructor
  · intro hnone version route hroute
    -- Every route is for a declared version.
    have hdeclared := h.routes version (Std.ExtTreeMap.mem_iff_isSome_getElem?.2 (by simp [hroute]))
    obtain ⟨e, he, rfl⟩ := List.mem_map.1 hdeclared
    have hcatches := hnone e he
    rwa [CatchesAll, hroute] at hcatches
  · intro hnone e _
    cases hroute : gateway.routes[e.version]? with
    | none => simp [CatchesAll, hroute]
    | some route => simpa [CatchesAll, hroute] using hnone e.version route hroute

end GatewaySpec

namespace Desired

variable {app : CompositeApp} {gateway : GatewaySpec} {settings : RuleSettings}

theorem exists_mem_pathBlocks (path : String) (headers : Dict TextMatch) :
    ∃ block, block ∈ pathBlocks path headers := by
  rw [pathBlocks_eq]
  exact ⟨_, List.mem_cons_self⟩

theorem headers_of_mem_pathBlocks {path : String} {headers : Dict TextMatch} {block : HttpMatch}
    (h : block ∈ pathBlocks path headers) : block.headers = headers := by
  rw [pathBlocks_eq] at h
  obtain ⟨_, -, rfl⟩ := List.mem_map.1 h
  rfl

/-- The rule of a version asks for its name in one of its blocks, and the last rule for nothing. -/
theorem pinnedRule_ne_weightedRule (e : VersionEntry) :
    pinnedRule app gateway settings e ≠ weightedRule app gateway settings := by
  intro hsame
  have hblocks : (pinningHeaders gateway e).flatMap (pathBlocks app.prefixPath) =
      pathBlocks app.prefixPath ∅ := congrArg HttpRoute.blocks hsame
  have hnamed : (∅ : Dict TextMatch).insert versionHeader (.exact e.version) ∈
      pinningHeaders gateway e := List.mem_append_right _ (List.mem_singleton_self _)
  obtain ⟨block, hblock⟩ := exists_mem_pathBlocks app.prefixPath
    ((∅ : Dict TextMatch).insert versionHeader (.exact e.version))
  have hlast := hblocks ▸ List.mem_flatMap.2 ⟨_, hnamed, hblock⟩
  have hheaders := (headers_of_mem_pathBlocks hblock).symm.trans (headers_of_mem_pathBlocks hlast)
  have hfound := congrArg (fun d : Dict TextMatch => d[versionHeader]?) hheaders
  simp only [Dict.getElem?_empty, Dict.getElem?_insert, if_true, reduceCtorEq] at hfound

/-- The rule for the requests without headers. -/
theorem ruleFor_empty_eq_weightedRule_iff :
    ruleFor app gateway settings ∅ = weightedRule app gateway settings ↔
      ∀ e ∈ app.spec.apps, ¬ gateway.CatchesAll e := by
  have hfirst : (∀ e ∈ app.spec.apps, ¬ gateway.CatchesAll e) ↔
      app.spec.apps.find? (gateway.Pins · ∅) = none := by
    simp only [List.find?_eq_none, decide_eq_true_eq, GatewaySpec.pins_empty_iff]
  rw [hfirst, ruleFor]
  cases app.spec.apps.find? (gateway.Pins · ∅) with
  | none => simp
  | some e => simpa using pinnedRule_ne_weightedRule e

/-- A valid app behind a gateway gets the rules for it. -/
theorem exists_gatewayRoutes (hvalid : app.validate = .ok ())
    (hgateway : app.spec.gateway = some gateway) :
    ∃ settings, virtualService app = .ok (.present
      { metadata := app.childMetadata, spec := gatewayRoutes app gateway settings }) := by
  have hchecked := (CompositeApp.validate_eq_ok hvalid).2.1 gateway hgateway
  obtain ⟨settings, hmade⟩ := exists_virtualService hvalid (apps_ne_nil_of_gateway hchecked)
  have hroutes : routes app settings = gatewayRoutes app gateway settings := by
    rw [routes, hgateway]
  exact ⟨settings, hroutes ▸ hmade⟩

/-- Where a request without headers goes that leads to the app. -/
theorem exists_route?_of_plain {q : Request} {rest : String}
    (hpath : q.path = app.entrance ++ rest) (hplain : q.headers = ∅) (describes : Patterns) :
    ∃ path, (gatewayRoutes app gateway settings).route? describes q =
      some ⟨ruleFor app gateway settings ∅, path⟩ := by
  have hleads : continued? describes app.prefixPath q.path ≠ none := fun hnone =>
    continued?_eq_none.1 hnone rest hpath
  obtain ⟨path, hcontinued⟩ := Option.ne_none_iff_exists'.1 hleads
  exact ⟨path, by rw [route?_gatewayRoutes, hcontinued, hplain, Option.map_some]⟩

/-- A valid app behind a gateway gets rules of which the last one shares the requests out by the
weights. A request without headers that leads to the app goes by the last rule just if no route has
a set of headers with none in it; else it goes as a whole to the first version whose route has
one. -/
theorem virtualService_plain (hvalid : app.validate = .ok ())
    (hgateway : app.spec.gateway = some gateway) :
    ∃ made last, virtualService app = .ok (.present made) ∧
      made.spec.http.getLast? = some last ∧
      (last.route.map fun d => (d.destination.subset, d.weight)) =
        (app.spec.apps.map fun e =>
          (some (app.versionName e), gateway.weights[e.version]?.getD 0)) ∧
      ∀ (describes : Patterns) (q : Request) (rest : String), q.path = app.entrance ++ rest →
        q.headers = ∅ → ∃ served, made.spec.route? describes q = some served ∧
          (served.rule = last ↔ ∀ (version : String) (route : VersionRoute),
            gateway.routes[version]? = some route → ∅ ∉ route.headersMatch) ∧
          ∀ e, app.spec.apps.find? (gateway.CatchesAll ·) = some e →
            (served.rule.route.map fun d => (d.destination.subset, d.weight)) =
              [(some (app.versionName e), 100)] := by
  obtain ⟨settings, hmade⟩ := exists_gatewayRoutes hvalid hgateway
  refine ⟨_, weightedRule app gateway settings, hmade, List.getLast?_concat, ?_, ?_⟩
  · simp only [weightedRule, rule, List.map_map]
    rfl
  intro describes q rest hpath hplain
  obtain ⟨path, hserved⟩ := exists_route?_of_plain hpath hplain describes
  refine ⟨_, hserved, ?_, fun e hfirst => ?_⟩
  · have hformed := (CompositeApp.wellFormed_of_validate hvalid).gateway gateway hgateway
    rw [ruleFor_empty_eq_weightedRule_iff, GatewaySpec.forall_not_catchesAll_iff hformed]
  · have hpinned : app.spec.apps.find? (gateway.Pins · ∅) = some e := by
      rw [← hfirst]
      exact congrArg (List.find? · app.spec.apps)
        (funext fun e => decide_eq_decide.2 GatewaySpec.pins_empty_iff)
    rw [ruleFor, hpinned]
    rfl

end Desired

namespace Example

def plain : Request :=
  { path := "/arcade/games" }

def openHouse : CompositeApp :=
  { arcade with spec := { arcade.spec with gateway := some {
      hosts := ["arcade.example.com"]
      weights := (∅ : Dict Int).insert "blue" 100
      routes := (∅ : Dict VersionRoute).insert "green" ⟨[∅]⟩ } } }

end Example

namespace Desired

theorem virtualService_plain_example :
    Example.arcade.validate = .ok () ∧
    ∃ made last served, virtualService Example.arcade = .ok (.present made) ∧
      made.spec.http.getLast? = some last ∧
      made.spec.route? (fun _ _ => false) Example.plain = some served ∧ served.rule = last := by
  have hvalid : Example.arcade.validate = .ok () := by rfl
  obtain ⟨made, last, hmade, hlast, -, hplain⟩ := virtualService_plain hvalid rfl
  obtain ⟨served, hserved, hweighted, -⟩ :=
    hplain (fun _ _ => false) Example.plain "/games" (by decide) rfl
  refine ⟨hvalid, made, last, served, hmade, hlast, hserved, hweighted.2 ?_⟩
  rw [← GatewaySpec.forall_not_catchesAll_iff
    ((CompositeApp.wellFormed_of_validate hvalid).gateway _ rfl)]
  decide +kernel

/-- A valid app sends all requests without headers to a version that has no weight. -/
theorem plain_to_version_without_weight :
    Example.openHouse.validate = .ok () ∧
    ∃ made last served, virtualService Example.openHouse = .ok (.present made) ∧
      made.spec.http.getLast? = some last ∧
      (last.route.map fun d => (d.destination.subset, d.weight)) =
        [(some "arcade-blue", 100), (some "arcade-green", 0)] ∧
      made.spec.route? (fun _ _ => false) Example.plain = some served ∧
      (served.rule.route.map fun d => (d.destination.subset, d.weight)) =
        [(some "arcade-green", 100)] := by
  have hvalid : Example.openHouse.validate = .ok () := by rfl
  refine ⟨hvalid, _, _, _, rfl, rfl, by decide +kernel, rfl, by decide +kernel⟩

end Desired

end CompositeApps
