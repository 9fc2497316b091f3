import CompositeApps.Desired.VirtualService
import CompositeApps.Proofs.App.Validation
import CompositeApps.Proofs.Mesh.FirstMatch

/-!
What the rules behind a gateway mean. A request to an app is one whose path begins with the path of
the app. It goes to the first version of the app that its headers pin it to, and is shared out by
the weights if there is none. In either case the path of the app is cut off, with one slash.
-/

namespace CompositeApps

def CompositeApp.entrance (app : CompositeApp) : String :=
  if app.prefixPath = "" then "/" else app.prefixPath

/-- The headers of a request pin it to a version, by its name or by one of the sets of its route. -/
def GatewaySpec.Pins (gateway : GatewaySpec) (e : VersionEntry) (headers : Dict String) : Prop :=
  headers["VERSION"]? = some e.version ∨
    ∃ required ∈ (gateway.routes[e.version]?.map (·.headersMatch)).getD [], required.Within headers

instance (gateway : GatewaySpec) (e : VersionEntry) (headers : Dict String) :
    Decidable (gateway.Pins e headers) :=
  inferInstanceAs (Decidable (_ ∨ _))

namespace TextMatch

variable {describes : Patterns} {given : Dict String}

theorem allHold_exactHeaders (required : Dict String) :
    allHold describes (Desired.exactHeaders required) given = true ↔ required.Within given := by
  rw [allHold_iff]
  constructor
  · intro h name value hvalue
    obtain ⟨found, hfound, hsame⟩ := h name (.exact value) (by
      rw [Desired.exactHeaders, Std.ExtTreeMap.getElem?_map, hvalue, Option.map_some])
    rw [hfound, of_decide_eq_true hsame]
  · intro h name condition hcondition
    rw [Desired.exactHeaders, Std.ExtTreeMap.getElem?_map, Option.map_eq_some_iff] at hcondition
    obtain ⟨value, hvalue, rfl⟩ := hcondition
    exact ⟨value, h name value hvalue, decide_eq_true rfl⟩

theorem allHold_single (name value : String) :
    allHold describes ((∅ : Dict TextMatch).insert name (.exact value)) given = true ↔
      given[name]? = some value := by
  have hsingle : (∅ : Dict TextMatch).insert name (.exact value) =
      Desired.exactHeaders ((∅ : Dict String).insert name value) := by
    refine Std.ExtTreeMap.ext_getElem? fun other => ?_
    rw [Desired.exactHeaders, Std.ExtTreeMap.getElem?_map, Dict.getElem?_insert,
      Dict.getElem?_insert, Dict.getElem?_empty, Dict.getElem?_empty]
    split <;> rfl
  rw [hsingle, allHold_exactHeaders]
  exact Dict.Within.single_iff

end TextMatch

namespace Desired

variable {app : CompositeApp} {gateway : GatewaySpec} {settings : RuleSettings} {e : VersionEntry}
  {describes : Patterns}

/-- A request is let through by one of the sets of headers of a version just if it is pinned. -/
theorem any_pinningHeaders {headers : Dict String} :
    (pinningHeaders gateway e).any (TextMatch.allHold describes · headers) = true ↔
      gateway.Pins e headers := by
  rw [pinningHeaders, List.any_append, Bool.or_eq_true, or_comm, GatewaySpec.Pins]
  refine or_congr ?_ ?_
  · simp only [List.any_cons, List.any_nil, Bool.or_false]
    exact TextMatch.allHold_single versionHeader e.version
  · cases gateway.routes[e.version]? with
    | none => simp
    | some route => simp [TextMatch.allHold_exactHeaders]

def beginnings (path : String) : List String :=
  (path ++ "/") :: if path = "" then [] else [path]

theorem pathBlocks_eq (path : String) (headers : Dict TextMatch) :
    pathBlocks path headers =
      (beginnings path).map fun u => { uri := some (.leading u), headers := headers } := by
  unfold pathBlocks beginnings
  split <;> rfl

/-- The path with which a request goes on that is let through to what stands at a path. -/
def continued? (describes : Patterns) (path requested : String) : Option String :=
  ((beginnings path).find? fun u => (TextMatch.leading u).holds describes requested).map
    fun u => "/" ++ (TextMatch.leading u).remainder requested

theorem holds_pathBlock {u : String} {conditions : Dict TextMatch} {q : Request} :
    HttpMatch.holds describes { uri := some (.leading u), headers := conditions } q =
      ((TextMatch.leading u).holds describes q.path &&
        TextMatch.allHold describes conditions q.headers) := by
  have hcaller : decide (Dict.Within ∅ q.callerLabels) = true :=
    decide_eq_true (Dict.Within.empty _)
  simp only [HttpMatch.holds, Option.all_some, Option.all_none, hcaller, Bool.and_true]

/-- What the match blocks for a path and some headers leave of the path of a request. -/
theorem find?_pathBlocks (path : String) (conditions : Dict TextMatch) (q : Request) :
    ((pathBlocks path conditions).find? (·.holds describes q)).map
        (fun block => "/" ++ block.remainder q.path) =
      if TextMatch.allHold describes conditions q.headers then continued? describes path q.path
      else none := by
  rw [pathBlocks_eq, List.find?_map, Option.map_map, continued?]
  simp only [Function.comp_def, holds_pathBlock, HttpMatch.remainder]
  split
  · rename_i hmet
    simp only [hmet, Bool.and_true]
  · rename_i hunmet
    have hnone : ∀ u ∈ beginnings path, ¬ ((TextMatch.leading u).holds describes q.path &&
        TextMatch.allHold describes conditions q.headers) = true := by
      simp [hunmet]
    rw [List.find?_eq_none.2 hnone, Option.map_none]

/-- The same for several sets of headers, of which one has to be met. -/
theorem find?_flatMap_pathBlocks (path : String) (sets : List (Dict TextMatch)) (q : Request) :
    ((sets.flatMap (pathBlocks path)).find? (·.holds describes q)).map
        (fun block => "/" ++ block.remainder q.path) =
      if sets.any (TextMatch.allHold describes · q.headers) then continued? describes path q.path
      else none := by
  induction sets with
  | nil => rfl
  | cons conditions rest ih =>
    rw [List.flatMap_cons, List.find?_append, Option.map_or, ih, find?_pathBlocks, List.any_cons]
    cases TextMatch.allHold describes conditions q.headers with
    | false => simp only [Bool.false_eq_true, if_false, Option.none_or, Bool.false_or]
    | true => cases continued? describes path q.path <;> simp

/-- The rule of a version takes the requests that are pinned to it and lead to the app. -/
theorem take?_pinnedRule (q : Request) :
    (pinnedRule app gateway settings e).take? describes q =
      if gateway.Pins e q.headers then
        (continued? describes app.prefixPath q.path).map (⟨pinnedRule app gateway settings e, ·⟩)
      else none := by
  have hblocks : (pinnedRule app gateway settings e).blocks =
      (pinningHeaders gateway e).flatMap (pathBlocks app.prefixPath) := rfl
  rw [HttpRoute.take?_of_rewrite rfl, hblocks, find?_flatMap_pathBlocks]
  simp only [any_pinningHeaders]
  split <;> rfl

/-- The last rule takes all requests that lead to the app. -/
theorem take?_weightedRule (q : Request) :
    (weightedRule app gateway settings).take? describes q =
      (continued? describes app.prefixPath q.path).map
        (⟨weightedRule app gateway settings, ·⟩) := by
  have hblocks : (weightedRule app gateway settings).blocks = pathBlocks app.prefixPath ∅ := rfl
  have hmet : TextMatch.allHold describes ∅ q.headers = true := rfl
  rw [HttpRoute.take?_of_rewrite rfl, hblocks, find?_pathBlocks, hmet, if_pos rfl]

/-- The rule for the requests with some headers: that of the first version they are pinned to. -/
def ruleFor (app : CompositeApp) (gateway : GatewaySpec) (settings : RuleSettings)
    (headers : Dict String) : HttpRoute :=
  ((app.spec.apps.find? (gateway.Pins · headers)).map (pinnedRule app gateway settings)).getD
    (weightedRule app gateway settings)

/-- A request that leads to the app goes by the rule for its headers, and no other is taken. -/
theorem route?_gatewayRoutes (q : Request) :
    (gatewayRoutes app gateway settings).route? describes q =
      (continued? describes app.prefixPath q.path).map
        (⟨ruleFor app gateway settings q.headers, ·⟩) := by
  have hpinned : ∀ entries : List VersionEntry,
      (entries.map (pinnedRule app gateway settings) ++
        [weightedRule app gateway settings]).findSome? (·.take? describes q) =
      (continued? describes app.prefixPath q.path).map
        (⟨((entries.find? (gateway.Pins · q.headers)).map
          (pinnedRule app gateway settings)).getD (weightedRule app gateway settings), ·⟩) := by
    intro entries
    induction entries with
    | nil =>
      simp only [List.map_nil, List.nil_append, List.findSome?_cons, List.findSome?_nil,
        take?_weightedRule, List.find?_nil, Option.map_none, Option.getD_none]
      cases continued? describes app.prefixPath q.path <;> rfl
    | cons e rest ih =>
      rw [List.map_cons, List.cons_append, List.findSome?_cons, take?_pinnedRule, ih,
        List.find?_cons]
      by_cases hpins : gateway.Pins e q.headers
      · simp only [hpins, if_true, decide_true, Option.map_some, Option.getD_some]
        cases continued? describes app.prefixPath q.path <;> rfl
      · simp only [hpins, if_false, decide_false]
  exact hpinned app.spec.apps

/-- What lies below the path is let through first, and goes on below the root. -/
theorem continued?_below (path rest : String) :
    continued? describes path (path ++ "/" ++ rest) = some ("/" ++ rest) := by
  have hbelow : (TextMatch.leading (path ++ "/")).holds describes (path ++ "/" ++ rest) = true :=
    (TextMatch.holds_leading describes).2 ⟨rest, rfl⟩
  simp only [continued?, beginnings, List.find?_cons, hbelow, Option.map_some,
    TextMatch.remainder_leading]

theorem continued?_eq_none {requested : String} :
    continued? describes app.prefixPath requested = none ↔
      ∀ rest, requested ≠ app.entrance ++ rest := by
  have hexcluded : ∀ u, ¬ (TextMatch.leading u).holds describes requested = true ↔
      ∀ rest, requested ≠ u ++ rest := fun u => by
    rw [TextMatch.holds_leading, not_exists]
  rw [continued?, Option.map_eq_none_iff, List.find?_eq_none, beginnings, CompositeApp.entrance]
  simp only [List.forall_mem_cons, hexcluded]
  split
  · rename_i hempty
    simp [hempty]
  · simp only [List.mem_singleton, forall_eq, and_iff_right_iff_imp]
    intro hapart rest
    rw [String.append_assoc]
    exact hapart _

/-- An app that passes its checks behind a gateway has a version. -/
theorem apps_ne_nil_of_gateway (hgateway : gateway.validate app = .ok ()) :
    app.spec.apps ≠ [] := by
  intro hnone
  obtain ⟨hweights, htotal⟩ := GatewaySpec.weights_of_validate hgateway
  have hempty : gateway.weights.toList = [] := by
    refine List.eq_nil_iff_forall_not_mem.2 fun entry hentry => ?_
    have hfound := Std.ExtTreeMap.mem_toList_iff_getElem?_eq_some.1 hentry
    have hdeclared := CompositeApp.declares_iff.1 (hweights _ _ hfound).1
    rw [hnone] at hdeclared
    exact List.not_mem_nil hdeclared
  rw [hempty] at htotal
  exact absurd htotal (by decide)

/-- An app that passes its checks behind a gateway gets rules under which a request that does not
lead to it is not taken. Any other goes as a whole to the first version that its headers pin it to,
and by the last rule, which shares the requests out by the weights, if there is none. What is
requested below the path of the app goes on below the root, with the slash written once. -/
theorem virtualService_routes (hvalid : app.validate = .ok ())
    (hgateway : app.spec.gateway = some gateway) :
    ∃ made last, virtualService app = .ok (.present made) ∧
      made.spec.http.getLast? = some last ∧
      (last.route.map fun d => (d.destination.subset, d.weight)) =
        (app.spec.apps.map fun e =>
          (some (app.versionName e), gateway.weights[e.version]?.getD 0)) ∧
      ∀ (describes : Patterns) (q : Request),
        ((∀ rest, q.path ≠ app.entrance ++ rest) → made.spec.route? describes q = none) ∧
        (∀ rest, q.path = app.entrance ++ rest →
          ∃ served, made.spec.route? describes q = some served ∧
            (∀ e, app.spec.apps.find? (gateway.Pins · q.headers) = some e →
              (served.rule.route.map fun d => (d.destination.subset, d.weight)) =
                [(some (app.versionName e), 100)]) ∧
            (app.spec.apps.find? (gateway.Pins · q.headers) = none → served.rule = last)) ∧
        ∀ rest, q.path = app.prefixPath ++ "/" ++ rest →
          ∃ served, made.spec.route? describes q = some served ∧ served.path = "/" ++ rest := by
  have hchecked := (CompositeApp.validate_eq_ok hvalid).2.1 gateway hgateway
  obtain ⟨settings, hmade⟩ := exists_virtualService hvalid (apps_ne_nil_of_gateway hchecked)
  have hroutes : routes app settings = gatewayRoutes app gateway settings := by
    rw [routes, hgateway]
  rw [hroutes] at hmade
  refine ⟨_, weightedRule app gateway settings, hmade, List.getLast?_concat, ?_, ?_⟩
  · simp only [weightedRule, rule, List.map_map]
    rfl
  intro describes q
  rw [route?_gatewayRoutes]
  refine ⟨fun houtside => ?_, fun rest hrest => ?_, fun rest hrest => ?_⟩
  · rw [continued?_eq_none.2 houtside, Option.map_none]
  · have hleads : continued? describes app.prefixPath q.path ≠ none := fun hnone =>
      continued?_eq_none.1 hnone rest hrest
    obtain ⟨path, hpath⟩ := Option.ne_none_iff_exists'.1 hleads
    refine ⟨_, by rw [hpath, Option.map_some], fun e hfirst => ?_, fun hnone => ?_⟩
    · rw [ruleFor, hfirst]
      rfl
    · rw [ruleFor, hnone]
      rfl
  · rw [hrest, continued?_below]
    exact ⟨_, rfl, rfl⟩

end Desired

def Example.trialVersion : VersionEntry :=
  { version := "green", image := "arcade:2", minReplicas := 1, maxReplicas := 3, port := 8080 }

def Example.arcade : CompositeApp :=
  { metadata := { name := some "arcade", namespaceName := some "default" }
    spec := {
      apps := [
        { version := "blue", image := "arcade:1", port := 8080, minReplicas := 1
          maxReplicas := 3 },
        trialVersion]
      gateway := some {
        hosts := ["arcade.example.com"]
        weights := (∅ : Dict Int).insert "blue" 100
        routes := (∅ : Dict VersionRoute).insert "green"
          ⟨[((∅ : Dict String).insert "x-canary" "yes").insert "x-team" "core",
            (∅ : Dict String).insert "x-trial" "1"]⟩ } } }

def Example.trial : Request :=
  { path := "/arcade/games"
    headers := ((∅ : Dict String).insert "x-trial" "1").insert "x-team" "core" }

theorem Desired.virtualService_routes_example :
    Example.arcade.validate = .ok () ∧
    ∃ made served, virtualService Example.arcade = .ok (.present made) ∧
      made.spec.route? (fun _ _ => false) Example.trial = some served ∧
      (served.rule.route.map fun d => (d.destination.subset, d.weight)) =
        [(some "arcade-green", 100)] ∧ served.path = "/games" := by
  have hvalid : Example.arcade.validate = .ok () := by rfl
  obtain ⟨made, last, hmade, -, -, hroutes⟩ := virtualService_routes hvalid rfl
  obtain ⟨-, htaken, hbelow⟩ := hroutes (fun _ _ => false) Example.trial
  obtain ⟨served, hserved, hfirst, -⟩ := htaken "/games" (by decide)
  obtain ⟨again, hagain, hpath⟩ := hbelow "games" (by decide)
  obtain rfl := Option.some.inj (hserved.symm.trans hagain)
  exact ⟨hvalid, made, served, hmade, hserved, hfirst Example.trialVersion (by rfl), hpath⟩

end CompositeApps
