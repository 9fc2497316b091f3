import CompositeApps.Proofs.Desired.References
import Mathlib.Data.List.Induction

/-!
The ports of the service in front of an app: one for each number that a version uses, in the order
in which the versions first use them, and the diagnostics port behind them. A port is named for the
first version that uses it, so versions that share a port are all taken to speak the protocol of the
first of them.
-/

namespace CompositeApps

namespace Text

theorem natural_injective {m n : Nat} (h : m.repr = n.repr) : m = n := by
  rw [Nat.repr_eq_ofList_toDigits, Nat.repr_eq_ofList_toDigits] at h
  rw [← Nat.ofDigitChars_ten_toDigits (n := m), String.ofList_injective h,
    Nat.ofDigitChars_ten_toDigits]

theorem natural_ne_negative (m : Nat) (s : String) : m.repr ≠ "-" ++ s := by
  intro h
  have hmem : '-' ∈ m.repr.toList := by
    rw [h, String.toList_append]
    exact List.mem_append_left _ (by decide)
  rw [Nat.repr_eq_ofList_toDigits, String.toList_ofList] at hmem
  exact absurd (Nat.isDigit_of_mem_toDigits (by decide) (by decide) hmem) (by decide)

/-- Different whole numbers are written differently. -/
theorem decimal_injective {m n : Int} (h : toString m = toString n) : m = n := by
  cases m with
  | ofNat m =>
    cases n with
    | ofNat n => exact congrArg Int.ofNat (natural_injective h)
    | negSucc n => exact absurd h (natural_ne_negative m _)
  | negSucc m =>
    cases n with
    | ofNat n => exact absurd h.symm (natural_ne_negative n _)
    | negSucc n =>
      have hnatural := (String.append_right_inj "-").1 h
      exact congrArg Int.negSucc (Nat.succ.inj (natural_injective hnatural))

end Text

def CompositeApp.portNumbers (app : CompositeApp) : List Int :=
  app.spec.apps.map (·.port)

def CompositeApp.NeedsDiagnostics (app : CompositeApp) : Prop :=
  (app.spec.role = some .gateway ∨ app.spec.role = some .service) ∧ 9000 ∉ app.portNumbers

/-- A service has a port for each number that a version uses. No two of its ports have the same
number or the same name, they lead to their own number, and they stand in the order in which the
numbers are first used. If diagnostics need a port it is the only one that no version uses, and the
last; otherwise there is none that no version uses. -/
structure Service.Exposes (s : Service) (app : CompositeApp) : Prop where
  numbers : (s.portList.map (·.port)).Nodup
  named : ∀ p ∈ s.portList, p.name ≠ none
  names : (s.portList.map (·.name)).Nodup
  targets : ∀ p ∈ s.portList, p.targetPort = some (.int p.port)
  versions : ∀ number ∈ app.portNumbers, ∃ p ∈ s.portList, p.port = number
  order : s.portList.Pairwise fun p q =>
    app.portNumbers.idxOf p.port < app.portNumbers.idxOf q.port
  others : ∀ p ∈ s.portList, p.port ∈ app.portNumbers ∨
    p.name = some "diagnostics" ∧ p.port = 9000 ∧ s.portList.getLast? = some p
  diagnostics : (∃ p ∈ s.portList, p.port ∉ app.portNumbers) ↔ app.NeedsDiagnostics

def ServicePort.Announces (p : ServicePort) (protocol : Protocol) : Prop :=
  ∃ name, p.name = some name ∧ protocol.portScheme.toList <+: name.toList

namespace Desired

variable {app : CompositeApp} {e other : VersionEntry} {entries : List VersionEntry}

theorem versionPorts_concat (entries : List VersionEntry) (e : VersionEntry) :
    versionPorts (entries ++ [e]) =
      if usesPort (versionPorts entries) e.port then versionPorts entries
      else versionPorts entries ++ [versionPort e] := by
  rw [versionPorts, List.foldl_append]
  rfl

theorem usesPort_versionPorts {number : Int} :
    usesPort (versionPorts entries) number = true ↔ number ∈ entries.map (·.port) := by
  rw [versionPorts, usesPort_foldl]
  simp [usesPort]

/-- A port for versions is the one of the first version that uses its number. -/
theorem exists_first_of_mem {p : ServicePort} (hp : p ∈ versionPorts entries) :
    ∃ e, entries.find? (·.port = p.port) = some e ∧ p = versionPort e := by
  induction entries using List.reverseRecOn with
  | nil => cases hp
  | append_singleton entries e ih =>
    have hearlier : p ∈ versionPorts entries →
        ∃ first, (entries ++ [e]).find? (·.port = p.port) = some first ∧ p = versionPort first := by
      intro hmem
      obtain ⟨first, hfirst, hport⟩ := ih hmem
      exact ⟨first, by rw [List.find?_append, hfirst]; rfl, hport⟩
    rw [versionPorts_concat] at hp
    split at hp
    · exact hearlier hp
    · rename_i hunused
      rcases List.mem_append.1 hp with hp | hp
      · exact hearlier hp
      · obtain rfl := List.mem_singleton.1 hp
        have hnone : entries.find? (·.port = e.port) = none := by
          rw [List.find?_eq_none]
          intro other hother hsame
          refine hunused (usesPort_versionPorts.2 (List.mem_map.2 ⟨other, hother, ?_⟩))
          simpa using hsame
        refine ⟨e, ?_, rfl⟩
        rw [List.find?_append]
        change (entries.find? (·.port = e.port)).or _ = _
        rw [hnone]
        simp [versionPort, servicePort]

/-- The ports for versions stand in the order in which their numbers are first used. -/
theorem versionPorts_pairwise (entries : List VersionEntry) :
    (versionPorts entries).Pairwise fun p q =>
      (entries.map (·.port)).idxOf p.port < (entries.map (·.port)).idxOf q.port := by
  induction entries using List.reverseRecOn with
  | nil => exact .nil
  | append_singleton entries e ih =>
    have hmem : ∀ p ∈ versionPorts entries, p.port ∈ entries.map (·.port) := fun p hp =>
      usesPort_versionPorts.1 (usesPort_eq_true.2 ⟨p, hp, rfl⟩)
    have hearlier : (versionPorts entries).Pairwise fun p q =>
        ((entries ++ [e]).map (·.port)).idxOf p.port <
          ((entries ++ [e]).map (·.port)).idxOf q.port := by
      refine ih.imp_of_mem fun {p q} hp hq hlt => ?_
      rwa [List.map_append, List.idxOf_append_of_mem (hmem p hp),
        List.idxOf_append_of_mem (hmem q hq)]
    rw [versionPorts_concat]
    split
    · exact hearlier
    · rename_i hunused
      have hnew : e.port ∉ entries.map (·.port) := fun h => hunused (usesPort_versionPorts.2 h)
      refine List.pairwise_append.2 ⟨hearlier, List.pairwise_singleton _ _, ?_⟩
      intro p hp q hq
      obtain rfl := List.mem_singleton.1 hq
      change ((entries ++ [e]).map (·.port)).idxOf p.port <
        ((entries ++ [e]).map (·.port)).idxOf e.port
      rw [List.map_append, List.idxOf_append_of_mem (hmem p hp),
        List.idxOf_append_of_notMem hnew]
      exact Nat.lt_add_right _ (List.idxOf_lt_length_of_mem (hmem p hp))

/-- The words for protocols tell them apart, whatever follows. -/
theorem portScheme_prefix_iff {protocol spoken : Protocol} {cs : List Char} :
    protocol.portScheme.toList <+: spoken.portScheme.toList ++ cs ↔ spoken = protocol := by
  cases protocol <;> cases spoken <;> simp [Protocol.portScheme]

theorem exists_name (e : VersionEntry) :
    ∃ name, (versionPort e).name = some name ∧
      name.toList = e.protocol.portScheme.toList ++ '-' :: (toString e.port).toList := by
  refine ⟨_, rfl, ?_⟩
  rw [String.toList_append, String.toList_append, List.append_assoc]
  rfl

/-- The name of a port tells its number. -/
theorem port_eq_of_name_eq (h : (versionPort e).name = (versionPort other).name) :
    e.port = other.port := by
  obtain ⟨name, hname, hchars⟩ := exists_name e
  obtain ⟨name', hname', hchars'⟩ := exists_name other
  obtain rfl : name = name' := Option.some.inj (hname.symm.trans (h.trans hname'))
  have hsame := hchars.symm.trans hchars'
  have hprotocol := portScheme_prefix_iff.1 (hsame ▸ List.prefix_append _ _)
  rw [hprotocol, List.append_cancel_left_eq, List.cons.injEq] at hsame
  exact Text.decimal_injective (String.toList_inj.1 hsame.2)

theorem name_ne_diagnostics (e : VersionEntry) : (versionPort e).name ≠ some "diagnostics" := by
  obtain ⟨name, hname, hchars⟩ := exists_name e
  rw [hname]
  rintro ⟨⟩
  cases hprotocol : e.protocol <;> simp [hprotocol, Protocol.portScheme] at hchars

/-- A port announces the protocol of the version that it is named for, and no other. -/
theorem announces_versionPort_iff {protocol : Protocol} :
    (versionPort e).Announces protocol ↔ e.protocol = protocol := by
  obtain ⟨name, hname, hchars⟩ := exists_name e
  rw [ServicePort.Announces, hname, ← portScheme_prefix_iff, ← hchars]
  simp

theorem needsDiagnostics_iff :
    (isServing app.spec.role && !usesPort (versionPorts app.spec.apps) diagnosticsPort) = true ↔
      app.NeedsDiagnostics := by
  rw [Bool.and_eq_true, Bool.not_eq_true', ← Bool.not_eq_true, usesPort_versionPorts]
  simp [CompositeApp.NeedsDiagnostics, CompositeApp.portNumbers, isServing, diagnosticsPort]

/-- The ports for versions, and one for diagnostics if it is needed. -/
theorem exists_servicePorts (app : CompositeApp) :
    ∃ extra, servicePorts app = versionPorts app.spec.apps ++ extra ∧
      (app.NeedsDiagnostics ∧ extra = [servicePort "diagnostics" 9000] ∨
        ¬app.NeedsDiagnostics ∧ extra = []) := by
  unfold servicePorts
  dsimp only
  split
  · rename_i hneeded
    exact ⟨_, rfl, .inl ⟨needsDiagnostics_iff.1 hneeded, rfl⟩⟩
  · rename_i hunneeded
    exact ⟨[], (List.append_nil _).symm, .inr ⟨fun h => hunneeded (needsDiagnostics_iff.2 h), rfl⟩⟩

theorem exists_version_of_mem {p : ServicePort} (hp : p ∈ versionPorts app.spec.apps) :
    ∃ e ∈ app.spec.apps, p = versionPort e := by
  obtain ⟨e, hfirst, hport⟩ := exists_first_of_mem hp
  exact ⟨e, List.mem_of_find?_eq_some hfirst, hport⟩

theorem mem_portNumbers_of_mem {p : ServicePort} (hp : p ∈ versionPorts app.spec.apps) :
    p.port ∈ app.portNumbers :=
  usesPort_versionPorts.1 (usesPort_eq_true.2 ⟨p, hp, rfl⟩)

/-- The ports of the service stand in the order in which their numbers are first used; one that no
version uses stands behind the others. -/
theorem servicePorts_pairwise (app : CompositeApp) :
    (servicePorts app).Pairwise fun p q =>
      app.portNumbers.idxOf p.port < app.portNumbers.idxOf q.port := by
  obtain ⟨extra, hports, ⟨hneeds, rfl⟩ | ⟨-, rfl⟩⟩ := exists_servicePorts app
  · rw [hports]
    refine List.pairwise_append.2 ⟨versionPorts_pairwise _, List.pairwise_singleton _ _, ?_⟩
    intro p hp q hq
    obtain rfl := List.mem_singleton.1 hq
    have hlast : app.portNumbers.idxOf (servicePort "diagnostics" 9000).port =
        app.portNumbers.length := List.idxOf_eq_length_iff.2 hneeds.2
    rw [hlast]
    exact List.idxOf_lt_length_of_mem (mem_portNumbers_of_mem hp)
  · rw [hports, List.append_nil]
    exact versionPorts_pairwise _

/-- A port of the service is one for versions, or the one for diagnostics. -/
theorem cases_of_mem_servicePorts {p : ServicePort} (hp : p ∈ servicePorts app) :
    (p ∈ versionPorts app.spec.apps ∧ ∃ e ∈ app.spec.apps, p = versionPort e) ∨
      (app.NeedsDiagnostics ∧ p = servicePort "diagnostics" 9000 ∧
        (servicePorts app).getLast? = some p) := by
  obtain ⟨extra, hports, hextra⟩ := exists_servicePorts app
  rw [hports] at hp
  rcases List.mem_append.1 hp with hp | hp
  · exact .inl ⟨hp, exists_version_of_mem hp⟩
  · rcases hextra with ⟨hneeds, rfl⟩ | ⟨-, rfl⟩
    · obtain rfl := List.mem_singleton.1 hp
      exact .inr ⟨hneeds, rfl, by rw [hports, List.getLast?_concat]⟩
    · cases hp

theorem name_inj_of_mem {p q : ServicePort} (hp : p ∈ servicePorts app) (hq : q ∈ servicePorts app)
    (h : p.name = q.name) : p.port = q.port := by
  rcases cases_of_mem_servicePorts hp with ⟨-, e, -, rfl⟩ | ⟨-, rfl, -⟩
  · rcases cases_of_mem_servicePorts hq with ⟨-, e', -, rfl⟩ | ⟨-, rfl, -⟩
    · exact port_eq_of_name_eq h
    · exact absurd h (name_ne_diagnostics e)
  · rcases cases_of_mem_servicePorts hq with ⟨-, e', -, rfl⟩ | ⟨-, rfl, -⟩
    · exact absurd h.symm (name_ne_diagnostics e')
    · rfl

/-- Ports of different places have different numbers. -/
theorem servicePorts_numbers_ne (app : CompositeApp) :
    (servicePorts app).Pairwise fun p q => p.port ≠ q.port := by
  refine (servicePorts_pairwise app).imp fun {p q} hlt hsame => ?_
  rw [hsame] at hlt
  exact absurd hlt (Nat.lt_irrefl _)

/-- There is a port that no version uses just if one is needed for diagnostics. -/
theorem exists_unused_iff :
    (∃ p ∈ servicePorts app, p.port ∉ app.portNumbers) ↔ app.NeedsDiagnostics := by
  constructor
  · rintro ⟨p, hp, hunused⟩
    rcases cases_of_mem_servicePorts hp with ⟨hversion, -⟩ | ⟨hneeds, -⟩
    · exact absurd (mem_portNumbers_of_mem hversion) hunused
    · exact hneeds
  · intro hneeds
    obtain ⟨extra, hports, ⟨-, rfl⟩ | ⟨hnot, -⟩⟩ := exists_servicePorts app
    · exact ⟨_, hports ▸ List.mem_append_right _ (List.mem_singleton_self _), hneeds.2⟩
    · exact absurd hneeds hnot

/-- A service with the ports of an app exposes it. -/
theorem exposes_of_portList {s : Service} (h : s.portList = servicePorts app) : s.Exposes app where
  numbers := by
    rw [h]
    exact List.pairwise_map.2 (servicePorts_numbers_ne app)
  named := by
    rw [h]
    intro p hp
    rcases cases_of_mem_servicePorts hp with ⟨-, e, -, rfl⟩ | ⟨-, rfl, -⟩ <;> exact nofun
  names := by
    rw [h]
    refine List.pairwise_map.2 ((servicePorts_numbers_ne app).imp_of_mem ?_)
    intro p q hp hq hne hsame
    exact hne (name_inj_of_mem hp hq hsame)
  targets := by
    rw [h]
    intro p hp
    rcases cases_of_mem_servicePorts hp with ⟨-, e, -, rfl⟩ | ⟨-, rfl, -⟩ <;> rfl
  versions := by
    rw [h]
    intro number hnumber
    obtain ⟨e, he, rfl⟩ := List.mem_map.1 hnumber
    exact usesPort_eq_true.1 (usesPort_servicePorts he)
  order := by
    rw [h]
    exact servicePorts_pairwise app
  others := by
    rw [h]
    intro p hp
    rcases cases_of_mem_servicePorts hp with ⟨hp, -⟩ | ⟨-, rfl, hlast⟩
    · exact .inl (mem_portNumbers_of_mem hp)
    · exact .inr ⟨rfl, rfl, hlast⟩
  diagnostics := by
    rw [h]
    exact exists_unused_iff

/-- An app without versions has no service. With versions it has one, whose ports have names and
numbers of their own; they are those of the versions in the order of their first use, and behind
them the one for diagnostics if that is needed. -/
theorem service_ports (app : CompositeApp) :
    (app.spec.apps = [] → service app = .absent) ∧
      (app.spec.apps ≠ [] →
        ∃ endpoint, service app = .present endpoint ∧ endpoint.Exposes app) := by
  constructor
  · intro hnone
    rw [service, hnone]
    rfl
  · intro hsome
    exact ⟨_, service_of_ne_nil hsome, exposes_of_portList rfl⟩

/-- The port with the number of a version is the only one of its number, and named for the first
version that uses it. -/
theorem exists_port (he : e ∈ app.spec.apps) :
    ∃ p ∈ servicePorts app, ∃ first, (∀ q ∈ servicePorts app, q.port = e.port ↔ q = p) ∧
      app.spec.apps.find? (·.port = e.port) = some first ∧ p = versionPort first := by
  obtain ⟨p, hp, hnumber⟩ := usesPort_eq_true.1 (usesPort_servicePorts he)
  have honly : ∀ q ∈ servicePorts app, q.port = e.port ↔ q = p := by
    intro q hq
    constructor
    · intro hsame
      exact List.inj_on_of_nodup_map (List.pairwise_map.2 (servicePorts_numbers_ne app)) hq hp
        (hsame.trans hnumber.symm)
    · rintro rfl
      exact hnumber
  rcases cases_of_mem_servicePorts hp with ⟨hversion, -⟩ | ⟨hneeds, rfl, -⟩
  · obtain ⟨first, hfirst, hport⟩ := exists_first_of_mem hversion
    rw [hnumber] at hfirst
    exact ⟨p, hp, first, honly, hfirst, hport⟩
  · have hused : e.port ∈ app.portNumbers := List.mem_map_of_mem he
    rw [← hnumber] at hused
    exact absurd hused hneeds.2

end Desired

def CompositeApp.Serves (app : CompositeApp) (e : VersionEntry) : Prop :=
  ∃ endpoint, Desired.service app = .present endpoint ∧
    ∃ p ∈ endpoint.portList, p.port = e.port ∧ p.Announces e.protocol

namespace Desired

variable {app : CompositeApp} {e : VersionEntry}

/-- A version is served under its own protocol just if the first version with its port speaks it. -/
theorem serves_iff (he : e ∈ app.spec.apps) {first : VersionEntry}
    (hfirst : app.spec.apps.find? (·.port = e.port) = some first) :
    app.Serves e ↔ first.protocol = e.protocol := by
  obtain ⟨p, hp, first', honly, hfirst', rfl⟩ := exists_port he
  obtain rfl := Option.some.inj (hfirst.symm.trans hfirst')
  have hservice := service_of_ne_nil (List.ne_nil_of_mem he)
  rw [← announces_versionPort_iff]
  constructor
  · rintro ⟨endpoint, hendpoint, q, hq, hnumber, hannounces⟩
    rw [hservice] at hendpoint
    obtain rfl := Desired.present.inj hendpoint
    exact (honly q hq).1 hnumber ▸ hannounces
  · intro hannounces
    exact ⟨_, hservice, _, hp, (honly _ hp).2 rfl, hannounces⟩

/-- Of versions that share a port the first decides under which protocol all of them are served. So
every version is served under its own just if versions that share a port speak the same. -/
theorem versions_served_iff (app : CompositeApp) :
    (∀ e ∈ app.spec.apps, ∃ endpoint p first, service app = .present endpoint ∧
      p ∈ endpoint.portList ∧ (∀ q ∈ endpoint.portList, q.port = e.port ↔ q = p) ∧
      app.spec.apps.find? (·.port = e.port) = some first ∧
      p.name = some (first.protocol.portScheme ++ "-" ++ toString e.port) ∧
      (app.Serves e ↔ first.protocol = e.protocol)) ∧
    ((∀ e ∈ app.spec.apps, app.Serves e) ↔
      ∀ e ∈ app.spec.apps, ∀ other ∈ app.spec.apps,
        e.port = other.port → e.protocol = other.protocol) := by
  refine ⟨?_, ?_, ?_⟩
  · intro e he
    obtain ⟨p, hp, first, honly, hfirst, rfl⟩ := exists_port he
    have hnumber : first.port = e.port := (honly _ hp).2 rfl
    refine ⟨_, _, first, service_of_ne_nil (List.ne_nil_of_mem he), hp, honly, hfirst, ?_,
      serves_iff he hfirst⟩
    rw [← hnumber]
    rfl
  · intro hserves e he other hother hsame
    obtain ⟨-, -, first, -, hfirst, -⟩ := exists_port he
    have hspoken := (serves_iff he hfirst).1 (hserves e he)
    rw [hsame] at hfirst
    exact hspoken.symm.trans ((serves_iff hother hfirst).1 (hserves other hother))
  · intro hagree e he
    obtain ⟨-, -, first, -, hfirst, -⟩ := exists_port he
    refine (serves_iff he hfirst).2 (hagree first (List.mem_of_find?_eq_some hfirst) e he ?_)
    simpa using List.find?_some hfirst

end Desired

namespace Example

def greeter (version : String) (port : Int) (protocol : Protocol) : VersionEntry :=
  { version, image := "greeter:1", minReplicas := 1, maxReplicas := 3, port, protocol }

def greeters (apps : List VersionEntry) : CompositeApp :=
  { metadata := { name := some "greeter", namespaceName := some "default" }
    spec := { role := some .gateway, apps } }

def agreed : CompositeApp :=
  greeters [greeter "v1" 8080 .http, greeter "v2" 9090 .grpc, greeter "v3" 8080 .http]

def mixed : CompositeApp :=
  greeters [greeter "v1" 8080 .http, greeter "v2" 8080 .grpc]

end Example

namespace Desired

theorem service_ports_example :
    service (Example.greeters []) = .absent ∧ Example.agreed.spec.apps ≠ [] ∧
      ∃ endpoint, service Example.agreed = .present endpoint ∧ endpoint.Exposes Example.agreed ∧
        ∃ p ∈ endpoint.portList, p.name = some "diagnostics" ∧ p.port = 9000 ∧
          endpoint.portList.getLast? = some p := by
  have hsome : Example.agreed.spec.apps ≠ [] := nofun
  obtain ⟨endpoint, hendpoint, hexposes⟩ := (service_ports Example.agreed).2 hsome
  refine ⟨(service_ports (Example.greeters [])).1 rfl, hsome, endpoint, hendpoint, hexposes, ?_⟩
  obtain ⟨p, hp, hunused⟩ := hexposes.diagnostics.2 ⟨.inl rfl, by decide⟩
  exact ⟨p, hp, (hexposes.others p hp).resolve_left hunused⟩

theorem versions_served_iff_example :
    Example.agreed.validate = .ok () ∧
      ∀ e ∈ Example.agreed.spec.apps, Example.agreed.Serves e :=
  ⟨by rfl, (versions_served_iff Example.agreed).2.2 (by decide)⟩

/-- An app passes its checks though one of its versions is not served under its own protocol. -/
theorem version_served_as_another :
    Example.mixed.validate = .ok () ∧ Example.greeter "v2" 8080 .grpc ∈ Example.mixed.spec.apps ∧
      ¬Example.mixed.Serves (Example.greeter "v2" 8080 .grpc) := by
  have he : Example.greeter "v2" 8080 .grpc ∈ Example.mixed.spec.apps :=
    List.mem_cons_of_mem _ List.mem_cons_self
  refine ⟨by rfl, he, fun hserves => ?_⟩
  have hfirst : Example.mixed.spec.apps.find? (·.port = 8080) =
      some (Example.greeter "v1" 8080 .http) := by decide
  have hspoken := (serves_iff he hfirst).1 hserves
  exact absurd hspoken (by decide)

end Desired

end CompositeApps
