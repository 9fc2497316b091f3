import CompositeApps.App.Summary
import Mathlib.Data.List.TakeWhile

/-!
The tag of an image is read back from its parts. Before the tag there may be a colon for a port, and
behind it one in a digest. The slash before the last component tells the one apart, and the at sign
the other. So what the status shows is the tag that was given, or `latest`.
-/

namespace CompositeApps

namespace Image

def Avoids (separators : List Char) (s : String) : Prop :=
  ∀ c ∈ separators, c ∉ s.toList

instance (separators : List Char) (s : String) : Decidable (Avoids separators s) :=
  List.decidableBAll (fun c => c ∉ s.toList) separators

def announced (mark : String) : Option String → String
  | none => ""
  | some s => mark ++ s

structure Registry where
  host : String
  port : Option String := none

def Registry.text (r : Registry) : String :=
  r.host ++ announced ":" r.port

/-- An image by its parts. Only the name and what stands behind it must be free of separators, the
digest of slashes alone: what stands before the last slash does not matter. -/
structure Parts where
  registry : Option Registry := none
  components : List String := []
  name : String
  tag : Option String := none
  digest : Option String := none
  name_avoids : Avoids ['/', ':', '@'] name := by decide
  tag_avoids : ∀ t ∈ tag, Avoids ['/', ':', '@'] t := by decide
  digest_avoids : ∀ d ∈ digest, Avoids ['/'] d := by decide

namespace Parts

def lastText (p : Parts) : String :=
  p.name ++ announced ":" p.tag ++ announced "@" p.digest

def text (p : Parts) : String :=
  "/".intercalate ((p.registry.map Registry.text).toList ++ p.components ++ [p.lastText])

end Parts

section AfterLast

variable {sep : Char} {cs : List Char}

theorem afterLast_of_not_mem (h : sep ∉ cs) : afterLast sep cs = cs := by
  have hall : ∀ c ∈ cs.reverse, decide (c ≠ sep) = true := by
    intro c hc
    rw [List.mem_reverse] at hc
    exact decide_eq_true (ne_of_mem_of_not_mem hc h)
  rw [afterLast, List.takeWhile_eq_self_iff.2 hall, List.reverse_reverse]

/-- What stands before a separator does not matter. -/
theorem afterLast_append_cons (sep : Char) (before cs : List Char) :
    afterLast sep (before ++ sep :: cs) = afterLast sep cs := by
  have hstop : (sep :: before.reverse).takeWhile (· ≠ sep) = [] :=
    List.takeWhile_cons_of_neg (by simp)
  rw [afterLast, afterLast, List.reverse_append, List.reverse_cons, List.append_assoc,
    List.singleton_append, List.takeWhile_append, hstop, List.append_nil]
  split
  · rename_i hwhole
    rw [(List.takeWhile_prefix _).eq_of_length hwhole]
  · rfl

theorem afterLast_intercalate (h : sep ∉ cs) (before : List (List Char)) :
    afterLast sep ([sep].intercalate (before ++ [cs])) = cs := by
  induction before with
  | nil => rw [List.nil_append, List.intercalate_singleton, afterLast_of_not_mem h]
  | cons first before ih =>
    obtain ⟨second, rest, hrest⟩ := List.exists_cons_of_ne_nil
      (List.append_ne_nil_of_right_ne_nil before (List.cons_ne_nil cs []))
    rw [hrest] at ih
    rw [List.cons_append, hrest, List.intercalate_cons_cons, List.append_assoc,
      List.singleton_append, afterLast_append_cons, ih]

end AfterLast

theorem not_mem_announced {c : Char} {mark : String} {part : Option String}
    (hmark : c ∉ mark.toList) (hpart : ∀ s ∈ part, c ∉ s.toList) :
    c ∉ (announced mark part).toList := by
  cases part with
  | none => exact List.not_mem_nil
  | some s =>
    rw [announced, String.toList_append, List.mem_append, not_or]
    exact ⟨hmark, hpart s rfl⟩

/-- The digest is cut off at the mark before it. -/
theorem takeWhile_announced {cs : List Char} (hcs : '@' ∉ cs) (digest : Option String) :
    (cs ++ (announced "@" digest).toList).takeWhile (· ≠ '@') = cs := by
  rw [List.takeWhile_append_of_pos fun c hc => decide_eq_true (ne_of_mem_of_not_mem hc hcs)]
  cases digest with
  | none => exact List.append_nil cs
  | some d =>
    rw [announced, String.toList_append]
    exact List.append_nil cs

namespace Parts

/-- The name and the tag, which are left of an image when all else is cut off. -/
theorem lastComponent_text (p : Parts) :
    lastComponent p.text.toList = p.name.toList ++ (announced ":" p.tag).toList := by
  have hslash : '/' ∉ p.lastText.toList := by
    rw [lastText, String.toList_append, String.toList_append, List.mem_append, List.mem_append,
      not_or, not_or]
    exact ⟨⟨p.name_avoids '/' (by decide),
      not_mem_announced (by decide) fun t ht => p.tag_avoids t ht '/' (by decide)⟩,
      not_mem_announced (by decide) fun d hd => p.digest_avoids d hd '/' (by decide)⟩
  have hat : '@' ∉ p.name.toList ++ (announced ":" p.tag).toList := by
    rw [List.mem_append, not_or]
    exact ⟨p.name_avoids '@' (by decide),
      not_mem_announced (by decide) fun t ht => p.tag_avoids t ht '@' (by decide)⟩
  have hlast : afterLast '/' p.text.toList = p.lastText.toList := by
    rw [text, String.toList_intercalate, List.map_append]
    exact afterLast_intercalate hslash _
  rw [lastComponent, hlast, lastText, String.toList_append, String.toList_append,
    takeWhile_announced hat]

theorem tag_text (p : Parts) : Image.tag p.text = p.tag.getD "latest" := by
  have hname : ':' ∉ p.name.toList := p.name_avoids ':' (by decide)
  rw [Image.tag, tagChars, lastComponent_text]
  cases htag : p.tag with
  | none =>
    have hnone : ¬ (p.name.toList ++ (announced ":" none).toList).contains ':' = true := by
      rw [announced, String.toList_empty, List.append_nil, List.contains_iff_mem]
      exact hname
    rw [if_neg hnone, String.ofList_toList]
    rfl
  | some t =>
    have hcolon : ':' ∉ t.toList := p.tag_avoids t htag ':' (by decide)
    have hsome : p.name.toList ++ (announced ":" (some t)).toList =
        p.name.toList ++ ':' :: t.toList := by
      rw [announced, String.toList_append]
      rfl
    rw [hsome, if_pos (List.contains_iff_mem.2 (by simp)), afterLast_append_cons,
      afterLast_of_not_mem hcolon, String.ofList_toList]
    rfl

end Parts

end Image

namespace CompositeApp

/-- The tags that a status shows. Each version of which the image is given by its parts has the tag
that is among them, or `latest` if none is; and these are the tags in the summary, whatever ports
and digests the images have. -/
theorem images_tell_tags (parts : VersionEntry → Image.Parts) (app : CompositeApp)
    (status : AppStatus) (himages : ∀ e ∈ app.spec.apps, e.image = (parts e).text) :
    (∀ e ∈ app.spec.apps, e.imageTag = (parts e).tag.getD "latest") ∧
    (app.summary status).images = " ".intercalate
      (app.spec.apps.map fun e => e.version ++ ":" ++ (parts e).tag.getD "latest") := by
  have htags : ∀ e ∈ app.spec.apps, e.imageTag = (parts e).tag.getD "latest" := by
    intro e he
    rw [VersionEntry.imageTag, himages e he, Image.Parts.tag_text]
  refine ⟨htags, ?_⟩
  have hwords : app.spec.apps.map imageWord =
      app.spec.apps.map fun e => e.version ++ ":" ++ (parts e).tag.getD "latest" := by
    refine List.map_congr_left fun e he => ?_
    rw [imageWord, htags e he]
  rw [← hwords]
  rfl

end CompositeApp

namespace Example

def mirrored : Image.Parts where
  registry := some { host := "mirror.local", port := some "5000" }
  components := ["team", "front"]
  name := "atelier"
  tag := some "v1.4"
  digest := some "sha256:9f86d081"

def untagged : Image.Parts where
  registry := some { host := "mirror.local", port := some "5000" }
  name := "atelier"
  digest := some "sha256:60303ae2"

def atelierParts (e : VersionEntry) : Image.Parts :=
  if e.version = "v1" then mirrored else untagged

def atelier : CompositeApp :=
  { metadata := { name := some "atelier" }
    spec := { apps := [
      { version := "v1", image := "mirror.local:5000/team/front/atelier:v1.4@sha256:9f86d081"
        minReplicas := 1, maxReplicas := 1, port := 8080 },
      { version := "v2", image := "mirror.local:5000/atelier@sha256:60303ae2", minReplicas := 1
        maxReplicas := 1, port := 8080 }] } }

end Example

namespace CompositeApp

theorem images_tell_tags_example :
    (∀ e ∈ Example.atelier.spec.apps, e.image = (Example.atelierParts e).text) ∧
    (Example.atelier.summary {}).images = "v1:v1.4 v2:latest" := by
  have himages : ∀ e ∈ Example.atelier.spec.apps, e.image = (Example.atelierParts e).text := by
    decide
  obtain ⟨-, hshown⟩ := images_tell_tags Example.atelierParts Example.atelier {} himages
  exact ⟨himages, hshown.trans (by decide)⟩

end CompositeApp

end CompositeApps
