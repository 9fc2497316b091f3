import CompositeApps.Proofs.App.WellFormed
import CompositeApps.Proofs.Desired.DriftDetection

/-!
The names within the pods of a version: of the container, the volumes and their mounts. They are put
together from names that are checked one by one, and nothing checks the whole: characters and ends
are always those of a label of a host name, but the name can be too long for one.
-/

namespace CompositeApps

namespace PodSpec

def volumeNames (p : PodSpec) : List String :=
  (p.volumes.getD []).map (·.name)

def mountNames (p : PodSpec) : List String :=
  p.containers.flatMap fun c => (c.volumeMounts.getD []).map (·.name)

def labelNames (p : PodSpec) : List String :=
  p.containers.map (·.name) ++ p.volumeNames ++ p.mountNames

end PodSpec

def Deployment.pod? (d : Deployment) : Option PodSpec :=
  d.spec.bind (·.template.spec)

/-- Two labels with a hyphen between them are a label unless they are too long together. -/
theorem IsDnsLabel.hyphenated_iff {a b : String} (ha : IsDnsLabel a) (hb : IsDnsLabel b) :
    IsDnsLabel (a ++ "-" ++ b) ↔ (a ++ "-" ++ b).utf8ByteSize ≤ 63 := by
  refine ⟨IsDnsLabel.le, fun hle => ?_⟩
  have htext : (a ++ "-" ++ b).toList = a.toList ++ '-' :: b.toList := by
    simp [String.toList_append]
  have hane : a.toList ≠ [] := fun h => ha.ne_empty (String.toList_eq_nil_iff.1 h)
  have hbne : b.toList ≠ [] := fun h => hb.ne_empty (String.toList_eq_nil_iff.1 h)
  refine ⟨?_, hle, ?_, ?_, ?_⟩
  · have hpos := ha.pos
    rw [String.utf8ByteSize_append, String.utf8ByteSize_append]
    omega
  · intro c hc
    rw [htext] at hc
    rcases List.mem_append.1 hc with hc | hc
    · exact ha.letters c hc
    · rcases List.mem_cons.1 hc with rfl | hc
      · exact Or.inr (Or.inr rfl)
      · exact hb.letters c hc
  · rw [htext, List.head?_append_of_ne_nil _ hane]
    exact ha.first
  · have hsplit : a.toList ++ '-' :: b.toList = (a.toList ++ ['-']) ++ b.toList := by
      rw [List.append_assoc, List.singleton_append]
    rw [htext, hsplit, List.getLast?_append_of_ne_nil _ hbne]
    exact hb.last

namespace Desired

variable {app : CompositeApp} {e : VersionEntry} {observed : Option Deployment}

/-- Whatever is running, the names are those that the app alone decides. -/
theorem exists_pod (app : CompositeApp) (hkept : e.isRemoved = false)
    (observed : Option Deployment) :
    ∃ made p, deployment app e observed = .present made ∧ made.pod? = some p ∧
      p.containers.map (·.name) = [app.versionName e] ∧
      p.volumeNames = [timezoneVolume, logsVolume app] ∧ p.mountNames = p.volumeNames := by
  obtain ⟨made, hmade⟩ := exists_present app hkept observed
  obtain ⟨k, -, rfl⟩ := exists_kept hmade
  exact ⟨_, _, hmade, rfl, rfl, rfl, rfl⟩

theorem timezoneVolume_ne_logsVolume (app : CompositeApp) : timezoneVolume ≠ logsVolume app := by
  intro hsame
  have hlast := congrArg (fun name : String => name.toList.getLast?) hsame
  simp [timezoneVolume, logsVolume, String.toList_append] at hlast

/-- Every name is a label but for its length. -/
theorem isDnsLabel_name_iff (hname : IsDnsLabel app.name) (hversion : IsDnsLabel e.version)
    {name : String} (h : name = app.versionName e ∨ name = timezoneVolume ∨ name = logsVolume app) :
    IsDnsLabel name ↔ name.utf8ByteSize ≤ 63 := by
  rcases h with rfl | rfl | rfl
  · exact hname.hyphenated_iff hversion
  · have htimezone : IsDnsLabel timezoneVolume := isDnsLabel_iff.1 (by decide)
    exact iff_of_true htimezone htimezone.le
  · have hlogs : IsDnsLabel "logs" := isDnsLabel_iff.1 (by decide)
    have hsplit : logsVolume app = app.name ++ "-" ++ "logs" := by
      rw [logsVolume, String.append_assoc]
      rfl
    rw [hsplit]
    exact hname.hyphenated_iff hlogs

theorem utf8ByteSize_versionName (app : CompositeApp) (e : VersionEntry) :
    (app.versionName e).utf8ByteSize = app.name.utf8ByteSize + 1 + e.version.utf8ByteSize := by
  rw [CompositeApp.versionName, String.utf8ByteSize_append, String.utf8ByteSize_append]
  rfl

theorem utf8ByteSize_logsVolume (app : CompositeApp) :
    (logsVolume app).utf8ByteSize = app.name.utf8ByteSize + 5 := by
  rw [logsVolume, String.utf8ByteSize_append]
  rfl

/-- The pods of a version that is not to be removed have one container, named for the version, and
two volumes with different names, both of which it mounts. A name is a label of a host name just if
it is not too long for one, and all of them are just if there is room beside the name of the app for
the version and for what is added. -/
theorem podNames_legal_iff (hvalid : app.validate = .ok ()) (he : e ∈ app.spec.apps)
    (hkept : e.isRemoved = false) (observed : Option Deployment) :
    ∃ made p, deployment app e observed = .present made ∧ made.pod? = some p ∧
      p.containers.map (·.name) = [app.versionName e] ∧
      p.volumeNames = [timezoneVolume, logsVolume app] ∧ p.volumeNames.Nodup ∧
      p.mountNames = p.volumeNames ∧
      (∀ name ∈ p.labelNames, isDnsLabel name = true ↔ name.utf8ByteSize ≤ 63) ∧
      ((∀ name ∈ p.labelNames, isDnsLabel name = true) ↔
        app.name.utf8ByteSize + e.version.utf8ByteSize ≤ 62 ∧ app.name.utf8ByteSize ≤ 58) := by
  have hformed := CompositeApp.wellFormed_of_validate hvalid
  obtain ⟨made, p, hmade, hp, hcontainers, hvolumes, hmounts⟩ := exists_pod app hkept observed
  have hmem : ∀ name, name ∈ p.labelNames ↔
      name = app.versionName e ∨ name = timezoneVolume ∨ name = logsVolume app := by
    intro name
    simp only [PodSpec.labelNames, hcontainers, hmounts, hvolumes, List.mem_append,
      List.mem_cons, List.not_mem_nil, or_false]
    tauto
  have hlegal : ∀ name ∈ p.labelNames, isDnsLabel name = true ↔ name.utf8ByteSize ≤ 63 := by
    intro name hname
    rw [isDnsLabel_iff]
    exact isDnsLabel_name_iff hformed.name (hformed.entries e he).version ((hmem name).1 hname)
  refine ⟨made, p, hmade, hp, hcontainers, hvolumes, ?_, hmounts, hlegal, ?_⟩
  · rw [hvolumes]
    simpa using timezoneVolume_ne_logsVolume app
  · have hcontainer := utf8ByteSize_versionName app e
    have hlogs := utf8ByteSize_logsVolume app
    constructor
    · intro h
      have hcontainer' := (hlegal _ ((hmem _).2 (.inl rfl))).1 (h _ ((hmem _).2 (.inl rfl)))
      have hlogs' := (hlegal _ ((hmem _).2 (.inr (.inr rfl)))).1
        (h _ ((hmem _).2 (.inr (.inr rfl))))
      omega
    · rintro ⟨hroom, hshort⟩ name hname
      apply (hlegal name hname).2
      rcases (hmem name).1 hname with rfl | rfl | rfl
      · omega
      · decide
      · omega

end Desired

namespace Example

def edition : VersionEntry :=
  { version := "2026", image := "museum:1", minReplicas := 1, maxReplicas := 3, port := 8080 }

def collection (name : String) : CompositeApp :=
  { metadata := { name := some name, namespaceName := some "default" }
    spec := { apps := [edition] } }

def longName : String := "national-museum-of-photography-and-moving-image-collection"

end Example

namespace Desired

theorem podNames_legal_iff_example :
    (Example.collection Example.longName).validate = .ok () ∧
    Example.edition ∈ (Example.collection Example.longName).spec.apps ∧
    Example.edition.isRemoved = false ∧
    ∃ made p, deployment (Example.collection Example.longName) Example.edition none =
        .present made ∧ made.pod? = some p ∧ p.volumeNames.Nodup ∧
      ∀ name ∈ p.labelNames, isDnsLabel name = true := by
  have hvalid : (Example.collection Example.longName).validate = .ok () := by rfl
  have he : Example.edition ∈ (Example.collection Example.longName).spec.apps :=
    List.mem_singleton_self _
  obtain ⟨made, p, hmade, hp, -, -, hnodup, -, -, hlegal⟩ :=
    podNames_legal_iff hvalid he rfl none
  exact ⟨hvalid, he, rfl, made, p, hmade, hp, hnodup, hlegal.2 (by decide +kernel)⟩

/-- One letter more in the name of the app, which passes its checks all the same, and neither the
container nor one of the volumes has a legal name. -/
theorem podNames_too_long :
    (Example.collection (Example.longName ++ "s")).validate = .ok () ∧
    Example.edition ∈ (Example.collection (Example.longName ++ "s")).spec.apps ∧
    Example.edition.isRemoved = false ∧
    ∃ made p, deployment (Example.collection (Example.longName ++ "s")) Example.edition none =
        .present made ∧ made.pod? = some p ∧
      p.containers.map (·.name) = [Example.longName ++ "s-2026"] ∧
      isDnsLabel (Example.longName ++ "s-2026") = false ∧
      p.volumeNames = ["tz-config", Example.longName ++ "s-logs"] ∧
      p.mountNames = p.volumeNames ∧ isDnsLabel (Example.longName ++ "s-logs") = false := by
  have hvalid : (Example.collection (Example.longName ++ "s")).validate = .ok () := by rfl
  obtain ⟨made, p, hmade, hp, hcontainers, hvolumes, hmounts⟩ :=
    exists_pod (Example.collection (Example.longName ++ "s")) (e := Example.edition) rfl none
  exact ⟨hvalid, List.mem_singleton_self _, rfl, made, p, hmade, hp, hcontainers,
    by decide +kernel, hvolumes, hmounts, by decide +kernel⟩

end Desired

end CompositeApps
