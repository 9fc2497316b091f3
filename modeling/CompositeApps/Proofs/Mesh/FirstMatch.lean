import CompositeApps.Manifest.VirtualService
import CompositeApps.Proofs.App.Labels

/-!
What a virtual service does with a request. The rules are tried in their order, and the match blocks
of a rule in theirs. The first block that holds decides by which rule the request goes, and which
part of its path is replaced. How the mesh reads a pattern is left open.
-/

namespace CompositeApps

structure Request where
  path : String
  headers : Dict String := ∅
  callerLabels : Labels := ∅
  callerNamespace : Option String := none

structure Routed where
  rule : HttpRoute
  path : String

/-- Whether a pattern describes a text. -/
abbrev Patterns := String → String → Bool

namespace TextMatch

variable (describes : Patterns)

def holds : TextMatch → String → Bool
  | exact t, s => s = t
  | leading t, s => t.toList.isPrefixOf s.toList
  | regex t, s => describes t s

def remainder : TextMatch → String → String
  | leading t, s => String.ofList (s.toList.drop t.toList.length)
  | exact _, _ | regex _, _ => ""

def allHold (conditions : Dict TextMatch) (given : Dict String) : Bool :=
  conditions.toList.all fun (name, condition) => given[name]?.any (condition.holds describes)

theorem holds_leading {t s : String} :
    (leading t).holds describes s = true ↔ ∃ rest, s = t ++ rest := by
  rw [holds, List.isPrefixOf_iff_prefix]
  constructor
  · intro h
    obtain ⟨rest, hrest⟩ := h
    refine ⟨String.ofList rest, String.toList_inj.1 ?_⟩
    rw [String.toList_append, String.toList_ofList, hrest]
  · intro h
    obtain ⟨rest, rfl⟩ := h
    exact ⟨rest.toList, String.toList_append.symm⟩

theorem remainder_leading (t rest : String) : (leading t).remainder (t ++ rest) = rest := by
  rw [remainder, String.toList_append, List.drop_left, String.ofList_toList]

theorem allHold_iff {conditions : Dict TextMatch} {given : Dict String} :
    allHold describes conditions given = true ↔
      ∀ (name : String) (condition : TextMatch), conditions[name]? = some condition →
        ∃ value, given[name]? = some value ∧ condition.holds describes value = true := by
  simp only [allHold, List.all_eq_true, Option.any_eq_true]
  constructor
  · intro h name condition hcondition
    exact h (name, condition) (Std.ExtTreeMap.mem_toList_iff_getElem?_eq_some.2 hcondition)
  · intro h entry hentry
    exact h _ _ (Std.ExtTreeMap.mem_toList_iff_getElem?_eq_some.1 hentry)

end TextMatch

def HttpMatch.holds (describes : Patterns) (m : HttpMatch) (q : Request) : Bool :=
  m.uri.all (·.holds describes q.path) && TextMatch.allHold describes m.headers q.headers &&
    decide (m.sourceLabels.Within q.callerLabels) &&
    m.sourceNamespace.all (q.callerNamespace = some ·)

def HttpMatch.remainder (m : HttpMatch) (path : String) : String :=
  match m.uri with
  | some condition => condition.remainder path
  | none => path

def HttpRoute.rewritten (r : HttpRoute) (block : HttpMatch) (path : String) : String :=
  match r.rewrite with
  | some w => w.uri ++ block.remainder path
  | none => path

/-- Takes a request if one of the match blocks holds; the first that does decides on its path. -/
def HttpRoute.take? (describes : Patterns) (r : HttpRoute) (q : Request) : Option Routed :=
  (r.blocks.find? (·.holds describes q)).map fun block => ⟨r, r.rewritten block q.path⟩

theorem HttpRoute.take?_of_rewrite {describes : Patterns} {r : HttpRoute} {w : HttpRewrite}
    (hrewrite : r.rewrite = some w) (q : Request) :
    r.take? describes q = ((r.blocks.find? (·.holds describes q)).map
      fun block => w.uri ++ block.remainder q.path).map (⟨r, ·⟩) := by
  rw [take?, Option.map_map]
  simp only [rewritten, hrewrite, Function.comp_def]

/-- The first rule that takes a request decides. -/
def VirtualServiceSpec.route? (describes : Patterns) (s : VirtualServiceSpec) (q : Request) :
    Option Routed :=
  s.http.findSome? (·.take? describes q)

end CompositeApps
