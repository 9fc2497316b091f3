import CompositeApps.CommandLine.Options
import CompositeApps.Proofs.Success
import Mathlib.Data.List.TakeDrop
import Mathlib.Data.List.TakeWhile

/-!
The arguments that are accepted. They spell options with their values, each option at most once,
and what is read from them is what they spell. The value of an option stands behind an equals sign,
or it is the next argument.
-/

namespace CompositeApps.CommandLine

def IsOperand (s : String) : Prop :=
  ∀ c cs, s.toList ≠ '-' :: c :: cs

/-- Arguments that give options with their values. A lone `--` may stand behind them. -/
inductive Spells : List String → List (OptionName × String) → Prop where
  | nil : Spells [] []
  | closed : Spells ["--"] []
  | joined (o : OptionName) (value : String) {arguments : List String}
      {given : List (OptionName × String)} (h : Spells arguments given) :
      Spells (("--" ++ o.name ++ "=" ++ value) :: arguments) ((o, value) :: given)
  | apart (o : OptionName) {value : String} (hvalue : IsOperand value) {arguments : List String}
      {given : List (OptionName × String)} (h : Spells arguments given) :
      Spells (("--" ++ o.name) :: value :: arguments) ((o, value) :: given)

def OptionName.Takes : OptionName → String → Prop
  | logLevel, _ | watchedNamespace, _ => True
  | config, value => value ≠ ""
  | logFormat, value => value ∈ LogFormat.all.map LogFormat.name

structure Acceptable (given : List (OptionName × String)) : Prop where
  nodup : (given.map (·.1)).Nodup
  takes : ∀ p ∈ given, p.1.Takes p.2

theorem Acceptable.nil : Acceptable [] where
  nodup := List.nodup_nil
  takes := by simp

theorem acceptable_append_singleton_iff {given : List (OptionName × String)} {o : OptionName}
    {value : String} : Acceptable (given ++ [(o, value)]) ↔
      Acceptable given ∧ o ∉ given.map (·.1) ∧ o.Takes value := by
  constructor
  · rintro ⟨hnodup, htakes⟩
    rw [List.map_append, List.nodup_append] at hnodup
    rw [List.forall_mem_append] at htakes
    exact ⟨⟨hnodup.1, htakes.1⟩, fun ho => hnodup.2.2 o ho o (by simp) rfl,
      htakes.2 (o, value) (by simp)⟩
  · rintro ⟨⟨hnodup, htakes⟩, ho, hvalue⟩
    refine ⟨?_, List.forall_mem_append.2 ⟨htakes, by simpa using hvalue⟩⟩
    rw [List.map_append, List.nodup_append]
    refine ⟨hnodup, by simp, ?_⟩
    simp only [List.map_cons, List.map_nil, List.mem_singleton]
    rintro other hother _ rfl rfl
    exact ho hother

theorem Acceptable.of_append {given more : List (OptionName × String)}
    (h : Acceptable (given ++ more)) : Acceptable given where
  nodup := by
    have hnodup := h.nodup
    rw [List.map_append, List.nodup_append] at hnodup
    exact hnodup.1
  takes p hp := h.takes p (List.mem_append_left more hp)

/-! ### Names and values -/

theorem ofName?_eq_option_iff {name : String} {o : OptionName} :
    Name.ofName? name = some (.option o) ↔ name = o.name := by
  constructor
  · intro h
    rw [Name.ofName?] at h
    have hfound := List.find?_some h
    exact (of_decide_eq_true hfound).symm
  · rintro rfl
    cases o <;> decide

theorem equals_not_mem_name (o : OptionName) : '=' ∉ o.name.toList := by
  cases o <;> decide

theorem name_ne_nil (o : OptionName) : o.name.toList ≠ [] := by
  cases o <;> decide

theorem isSome_ofName?_iff {name : String} :
    (LogFormat.ofName? name).isSome = true ↔ name ∈ LogFormat.all.map LogFormat.name := by
  rw [LogFormat.ofName?, List.find?_isSome]
  simp only [List.mem_map, decide_eq_true_eq]

namespace Reading

variable {r s : Reading} {argument value : String} {o : OptionName}

theorem checkValue_eq_ok : checkValue o value = .ok () ↔ o.Takes value := by
  cases o with
  | logLevel | watchedNamespace => exact iff_of_true rfl trivial
  | config =>
    rw [checkValue, OptionName.Takes]
    split
    · rename_i hempty
      exact iff_of_false (by simp) (by simpa using hempty)
    · rename_i hvalue
      exact iff_of_true rfl hvalue
  | logFormat =>
    rw [checkValue, OptionName.Takes, ← isSome_ofName?_iff]
    by_cases hempty : value = ""
    · subst hempty
      exact iff_of_false (by simp) (by decide)
    · rw [if_neg hempty]
      cases LogFormat.ofName? value with
      | none => exact iff_of_false (by simp) (by simp)
      | some f => exact iff_of_true rfl rfl

theorem accept_eq_ok : r.accept o value = .ok s ↔
    o ∉ r.names ∧ o.Takes value ∧ s = { r with given := r.given ++ [(o, value)] } := by
  rw [accept]
  split
  · rename_i hrepeated
    exact iff_of_false (by simp) fun h => h.1 hrepeated
  · rename_i hnew
    rw [bind_eq_ok, ← checkValue_eq_ok]
    constructor
    · rintro ⟨_, hvalue, hs⟩
      exact ⟨hnew, hvalue, (Except.ok.inj hs).symm⟩
    · rintro ⟨-, hvalue, rfl⟩
      exact ⟨(), hvalue, rfl⟩

/-- What may be left of an option that was met last: its value, if it is known already. -/
theorem settle_eq_ok : r.settle = .ok s ↔
    (r.pending = none ∧ s = { r with pending := none }) ∨
    ∃ o value, r.pending = some (o, some value) ∧ o ∉ r.names ∧ o.Takes value ∧
      s = { r with given := r.given ++ [(o, value)], pending := none } := by
  rw [settle]
  split
  · rename_i hnone
    simp [hnone, eq_comm]
  · rename_i o hvalueless
    simp [hvalueless]
  · rename_i o value hpending
    rw [accept_eq_ok, hpending]
    simp [names]

theorem unknownName_ne_ok {name : String} :
    (r.unknownName name : Except Stop Reading) ≠ .ok s := by
  simp [unknownName]

theorem stopAt_ne_ok {f : Flag} {long : Bool} :
    (r.stopAt f long : Except Stop Reading) ≠ .ok s := by
  unfold stopAt
  rw [Ne, bind_eq_ok]
  rintro ⟨_, -, h⟩
  cases f <;> cases h

/-- A long argument with an equals sign: what stands before the first one is the name. -/
theorem readLong_joined {name text : List Char} (hname : '=' ∉ name) :
    r.readLong (name ++ '=' :: text) = .ok s ↔ ∃ o settled, String.ofList name = o.name ∧
      r.settle = .ok settled ∧ settled.accept o (String.ofList text) = .ok s := by
  have hall : ∀ c ∈ name, decide (c ≠ '=') = true := fun c hc =>
    decide_eq_true (ne_of_mem_of_not_mem hc hname)
  have hspan : (name ++ '=' :: text).span (· ≠ '=') = (name, '=' :: text) := by
    rw [List.span_eq_takeWhile_dropWhile, List.takeWhile_append_of_pos hall,
      List.dropWhile_append_of_pos hall]
    simp
  simp only [readLong, hspan, ← ofName?_eq_option_iff]
  cases Name.ofName? (String.ofList name) with
  | none => exact iff_of_false unknownName_ne_ok (by simp)
  | some found =>
    cases found with
    | flag f => exact iff_of_false (by simp) (by simp)
    | option o => simp [bind_eq_ok]

theorem readLong_bare {cs : List Char} (hcs : '=' ∉ cs) :
    r.readLong cs = .ok s ↔ ∃ o settled, String.ofList cs = o.name ∧ r.settle = .ok settled ∧
      s = { settled with pending := some (o, none) } := by
  have hall : ∀ c ∈ cs, decide (c ≠ '=') = true := fun c hc =>
    decide_eq_true (ne_of_mem_of_not_mem hc hcs)
  have hspan : cs.span (· ≠ '=') = (cs, []) := by
    rw [List.span_eq_takeWhile_dropWhile, List.takeWhile_eq_self_iff.2 hall,
      List.dropWhile_eq_nil_iff.2 hall]
  simp only [readLong, hspan, ← ofName?_eq_option_iff]
  cases Name.ofName? (String.ofList cs) with
  | none => exact iff_of_false unknownName_ne_ok (by simp)
  | some found =>
    cases found with
    | flag f => exact iff_of_false stopAt_ne_ok (by simp)
    | option o => simp [bind_eq_ok, pure, Except.pure, eq_comm (a := s)]

theorem readOperand_eq_ok : r.readOperand argument = .ok s ↔ r.onlyOperands = false ∧
    ∃ o, r.pending = some (o, none) ∧ s = { r with pending := some (o, some argument) } := by
  rw [readOperand]
  split
  · rename_i o hopen hpending
    simp [hopen, hpending, eq_comm]
  · rename_i hother
    refine iff_of_false (by simp [unexpected]) ?_
    rintro ⟨hopen, o, hpending, -⟩
    exact hother o hopen hpending

/-- What one argument does to a reading that goes on: it closes the options, it is an option with
its value or without, or it is the value of the option before. -/
theorem read_cases (hopen : r.onlyOperands = false) (h : r.read argument = .ok s) :
    (argument = "--" ∧ s = { r with onlyOperands := true }) ∨
    (∃ o value settled, argument = "--" ++ o.name ++ "=" ++ value ∧ r.settle = .ok settled ∧
      settled.accept o value = .ok s) ∨
    (∃ o settled, argument = "--" ++ o.name ∧ r.settle = .ok settled ∧
      s = { settled with pending := some (o, none) }) ∨
    ∃ o, IsOperand argument ∧ r.pending = some (o, none) ∧
      s = { r with pending := some (o, some argument) } := by
  rw [read, if_neg (by simp [hopen])] at h
  split at h
  · rename_i hargument
    exact Or.inl ⟨String.toList_inj.1 hargument, (Except.ok.inj h).symm⟩
  · rename_i cs _ hargument
    by_cases hcs : '=' ∈ cs
    · obtain ⟨name, text, rfl, hname⟩ := List.eq_append_cons_of_mem hcs
      obtain ⟨o, settled, ho, hsettled, hs⟩ := (readLong_joined hname).1 h
      refine Or.inr (Or.inl ⟨o, String.ofList text, settled, ?_, hsettled, hs⟩)
      rw [← String.toList_inj, hargument, ← ho]
      simp
    · obtain ⟨o, settled, ho, hsettled, rfl⟩ := (readLong_bare hcs).1 h
      refine Or.inr (Or.inr (Or.inl ⟨o, settled, ?_, hsettled, rfl⟩))
      rw [← String.toList_inj, hargument, ← ho]
      simp
  · rename_i c cs _ _ hargument
    rw [readShort] at h
    split at h
    · exact absurd h stopAt_ne_ok
    · exact absurd h (by simp [unexpected])
  · rename_i hclosed hlong hshort
    obtain ⟨-, o, hpending, rfl⟩ := readOperand_eq_ok.1 h
    refine Or.inr (Or.inr (Or.inr ⟨o, fun c cs hcs => ?_, hpending, rfl⟩))
    exact hshort c cs hcs

theorem read_closed (hclosed : r.onlyOperands = true) : r.read argument ≠ .ok s := by
  rw [read, if_pos hclosed, Ne, readOperand_eq_ok, hclosed]
  simp

theorem read_lone (hopen : r.onlyOperands = false) :
    r.read "--" = .ok { r with onlyOperands := true } := by
  rw [read, if_neg (by simp [hopen])]
  rfl

theorem read_of_long (hopen : r.onlyOperands = false) {cs : List Char} (hcs : cs ≠ [])
    (hargument : argument.toList = '-' :: '-' :: cs) : r.read argument = r.readLong cs := by
  obtain ⟨c, cs, rfl⟩ := List.exists_cons_of_ne_nil hcs
  rw [read, if_neg (by simp [hopen]), hargument]
  rfl

theorem read_joined (hopen : r.onlyOperands = false) {settled : Reading}
    (hsettled : r.settle = .ok settled) (hs : settled.accept o value = .ok s) :
    r.read ("--" ++ o.name ++ "=" ++ value) = .ok s := by
  have hargument : ("--" ++ o.name ++ "=" ++ value).toList =
      '-' :: '-' :: (o.name.toList ++ '=' :: value.toList) := by
    simp
  rw [read_of_long hopen (List.append_ne_nil_of_left_ne_nil (name_ne_nil o) _) hargument,
    readLong_joined (equals_not_mem_name o)]
  exact ⟨o, settled, String.ofList_toList, hsettled, by rwa [String.ofList_toList]⟩

theorem read_bare (hopen : r.onlyOperands = false) {settled : Reading}
    (hsettled : r.settle = .ok settled) :
    r.read ("--" ++ o.name) = .ok { settled with pending := some (o, none) } := by
  have hargument : ("--" ++ o.name).toList = '-' :: '-' :: o.name.toList := by
    simp
  rw [read_of_long hopen (name_ne_nil o) hargument, readLong_bare (equals_not_mem_name o)]
  exact ⟨o, settled, String.ofList_toList, hsettled, rfl⟩

theorem read_operand (hopen : r.onlyOperands = false) (hargument : IsOperand argument)
    (hpending : r.pending = some (o, none)) :
    r.read argument = .ok { r with pending := some (o, some argument) } := by
  rw [read, if_neg (by simp [hopen])]
  split
  · rename_i hlone
    exact absurd hlone (hargument '-' [])
  · rename_i cs _ hlong
    exact absurd hlong (hargument '-' cs)
  · rename_i c cs _ _ hshort
    exact absurd hshort (hargument c cs)
  · exact readOperand_eq_ok.2 ⟨hopen, o, hpending, rfl⟩

/-! ### Whole command lines -/

/-- What the arguments still to come have to spell, given the option that was met last: its value
comes first if it is not known yet. -/
inductive Follows : Option (OptionName × Option String) → List String →
    List (OptionName × String) → Prop where
  | settled {arguments : List String} {given : List (OptionName × String)}
      (h : Spells arguments given) : Follows none arguments given
  | valued (o : OptionName) (value : String) {arguments : List String}
      {given : List (OptionName × String)} (h : Spells arguments given) :
      Follows (some (o, some value)) arguments ((o, value) :: given)
  | awaited (o : OptionName) {value : String} (hvalue : IsOperand value) {arguments : List String}
      {given : List (OptionName × String)} (h : Spells arguments given) :
      Follows (some (o, none)) (value :: arguments) ((o, value) :: given)

/-- A lone `--` behind the arguments does not matter. -/
theorem Follows.closed {pending : Option (OptionName × Option String)}
    {given : List (OptionName × String)} (h : Follows pending [] given) :
    Follows pending ["--"] given := by
  cases h with
  | settled h =>
    cases h
    exact .settled .closed
  | valued o value h =>
    cases h
    exact .valued o value .closed

/-- To settle the last option does not change what is given altogether. -/
theorem follows_of_settle {settled : Reading} (hsettled : r.settle = .ok settled)
    {arguments : List String} {more : List (OptionName × String)} (h : Spells arguments more) :
    ∃ all, settled.given ++ more = r.given ++ all ∧ Follows r.pending arguments all := by
  rcases settle_eq_ok.1 hsettled with ⟨hnone, rfl⟩ | ⟨o, value, hpending, -, -, rfl⟩
  · rw [hnone]
    exact ⟨more, rfl, .settled h⟩
  · rw [hpending]
    exact ⟨(o, value) :: more, by simp, .valued o value h⟩

theorem open_settle {settled : Reading} (h : r.settle = .ok settled) :
    settled.onlyOperands = r.onlyOperands ∧ settled.pending = none := by
  rcases settle_eq_ok.1 h with ⟨-, rfl⟩ | ⟨_, _, -, -, -, rfl⟩ <;> exact ⟨rfl, rfl⟩

/-- Nothing may stand behind a lone `--`. -/
theorem eq_nil_of_closed {arguments : List String} (hread : arguments.foldlM read r = .ok s)
    (hclosed : r.onlyOperands = true) : arguments = [] := by
  cases arguments with
  | nil => rfl
  | cons argument rest =>
    rw [List.foldlM_cons, bind_eq_ok] at hread
    obtain ⟨next, hnext, -⟩ := hread
    exact absurd hnext (read_closed hclosed)

/-- One argument is read in front of what follows. -/
theorem follows_of_read (hopen : r.onlyOperands = false) (hread : r.read argument = .ok s)
    {rest : List String} (hclosed : s.onlyOperands = true → rest = [])
    {more : List (OptionName × String)} (h : Follows s.pending rest more) :
    ∃ all, s.given ++ more = r.given ++ all ∧ Follows r.pending (argument :: rest) all := by
  rcases read_cases hopen hread with ⟨rfl, rfl⟩ | ⟨o, value, settled, rfl, hsettled, haccept⟩ |
    ⟨o, settled, rfl, hsettled, rfl⟩ | ⟨o, hargument, hpending, rfl⟩
  · obtain rfl := hclosed rfl
    exact ⟨more, rfl, h.closed⟩
  · obtain ⟨-, hnone⟩ := open_settle hsettled
    obtain ⟨-, -, rfl⟩ := accept_eq_ok.1 haccept
    simp only [hnone] at h
    cases h with
    | settled hspells =>
      obtain ⟨all, hall, hfollows⟩ := follows_of_settle hsettled (.joined o value hspells)
      exact ⟨all, by rw [← hall, List.append_assoc, List.singleton_append], hfollows⟩
  · cases h with
    | awaited _ hvalue hspells => exact follows_of_settle hsettled (.apart o hvalue hspells)
  · cases h with
    | valued _ _ hspells =>
      rw [hpending]
      exact ⟨_, rfl, .awaited o hargument hspells⟩

/-- What is read from arguments is what they spell. -/
theorem exists_follows {arguments : List String} {last : Reading}
    (hread : arguments.foldlM read r = .ok last) (hclosed : r.onlyOperands = true → arguments = [])
    (hsettle : last.settle = .ok s) :
    ∃ more, s.given = r.given ++ more ∧ Follows r.pending arguments more := by
  induction arguments generalizing r with
  | nil =>
    obtain rfl := Except.ok.inj hread
    obtain ⟨all, hall, hfollows⟩ := follows_of_settle hsettle .nil
    rw [List.append_nil] at hall
    exact ⟨all, hall, hfollows⟩
  | cons argument rest ih =>
    rw [List.foldlM_cons, bind_eq_ok] at hread
    obtain ⟨next, hnext, hrest⟩ := hread
    have hopen : r.onlyOperands = false := eq_false_of_ne_true fun h =>
      List.cons_ne_nil argument rest (hclosed h)
    obtain ⟨more, hmore, hfollows⟩ := ih hrest (eq_nil_of_closed hrest)
    obtain ⟨all, hall, hfollows⟩ := follows_of_read hopen hnext (eq_nil_of_closed hrest) hfollows
    exact ⟨all, hmore.trans hall, hfollows⟩

structure Gives (r : Reading) (given : List (OptionName × String)) : Prop where
  goesOn : r.onlyOperands = false
  settles : ∃ settled, r.settle = .ok settled ∧ settled.given = given

namespace Gives

variable {given : List (OptionName × String)}

theorem start : Gives {} [] :=
  ⟨rfl, _, rfl, rfl⟩

theorem closed (h : r.Gives given) :
    ∃ last, r.read "--" = .ok last ∧ ∃ s, last.settle = .ok s ∧ s.given = given := by
  obtain ⟨hopen, settled, hsettled, rfl⟩ := h
  refine ⟨_, read_lone hopen, { settled with onlyOperands := true }, ?_, rfl⟩
  rcases settle_eq_ok.1 hsettled with ⟨hpending, rfl⟩ | ⟨o, value, hpending, ho, hvalue, rfl⟩
  · exact settle_eq_ok.2 (Or.inl ⟨hpending, rfl⟩)
  · exact settle_eq_ok.2 (Or.inr ⟨o, value, hpending, ho, hvalue, rfl⟩)

theorem joined (h : r.Gives given) (hmore : Acceptable (given ++ [(o, value)])) :
    ∃ s, r.read ("--" ++ o.name ++ "=" ++ value) = .ok s ∧ s.Gives (given ++ [(o, value)]) := by
  obtain ⟨hopen, settled, hsettled, rfl⟩ := h
  obtain ⟨hsame, hnone⟩ := open_settle hsettled
  obtain ⟨-, ho, hvalue⟩ := acceptable_append_singleton_iff.1 hmore
  exact ⟨_, read_joined hopen hsettled (accept_eq_ok.2 ⟨ho, hvalue, rfl⟩), hsame.trans hopen, _,
    settle_eq_ok.2 (Or.inl ⟨hnone, rfl⟩), rfl⟩

theorem apart (h : r.Gives given) (hmore : Acceptable (given ++ [(o, value)]))
    (hargument : IsOperand value) : ∃ between s, r.read ("--" ++ o.name) = .ok between ∧
      between.read value = .ok s ∧ s.Gives (given ++ [(o, value)]) := by
  obtain ⟨hopen, settled, hsettled, rfl⟩ := h
  have hopen' := (open_settle hsettled).1.trans hopen
  obtain ⟨-, ho, hvalue⟩ := acceptable_append_singleton_iff.1 hmore
  exact ⟨_, _, read_bare hopen hsettled, read_operand hopen' hargument rfl, hopen', _,
    settle_eq_ok.2 (Or.inr ⟨o, value, rfl, ho, hvalue, rfl⟩), rfl⟩

end Gives

/-- Whatever arguments spell is read from them, if it can be accepted. -/
theorem exists_read_of_spells {arguments : List String} {given more : List (OptionName × String)}
    (h : Spells arguments more) (hr : r.Gives given) (hmore : Acceptable (given ++ more)) :
    ∃ last, arguments.foldlM read r = .ok last ∧
      ∃ s, last.settle = .ok s ∧ s.given = given ++ more := by
  induction h generalizing r given with
  | nil =>
    rw [List.append_nil]
    exact ⟨r, rfl, hr.settles⟩
  | closed =>
    rw [List.append_nil]
    obtain ⟨last, hlast, hs⟩ := hr.closed
    exact ⟨last, by rw [List.foldlM_cons, hlast]; rfl, hs⟩
  | joined o value h ih =>
    rw [List.append_cons] at hmore ⊢
    obtain ⟨next, hnext, hgives⟩ := hr.joined hmore.of_append
    obtain ⟨last, hlast, hs⟩ := ih hgives hmore
    exact ⟨last, by rw [List.foldlM_cons, hnext]; exact hlast, hs⟩
  | apart o hvalue h ih =>
    rw [List.append_cons] at hmore ⊢
    obtain ⟨between, next, hbetween, hnext, hgives⟩ := hr.apart hmore.of_append hvalue
    obtain ⟨last, hlast, hs⟩ := ih hgives hmore
    refine ⟨last, ?_, hs⟩
    rw [List.foldlM_cons, hbetween]
    change List.foldlM read between (_ :: _) = .ok last
    rw [List.foldlM_cons, hnext]
    exact hlast

/-! ### What is given is acceptable -/

theorem acceptable_accept (h : Acceptable r.given) (haccept : r.accept o value = .ok s) :
    Acceptable s.given := by
  obtain ⟨ho, hvalue, rfl⟩ := accept_eq_ok.1 haccept
  exact acceptable_append_singleton_iff.2 ⟨h, ho, hvalue⟩

theorem acceptable_settle (h : Acceptable r.given) (hsettle : r.settle = .ok s) :
    Acceptable s.given := by
  rcases settle_eq_ok.1 hsettle with ⟨-, rfl⟩ | ⟨o, value, -, ho, hvalue, rfl⟩
  · exact h
  · exact acceptable_append_singleton_iff.2 ⟨h, ho, hvalue⟩

theorem acceptable_read (h : Acceptable r.given) (hread : r.read argument = .ok s) :
    Acceptable s.given := by
  cases hclosed : r.onlyOperands with
  | true => exact absurd hread (read_closed hclosed)
  | false =>
    rcases read_cases hclosed hread with ⟨-, rfl⟩ | ⟨o, value, settled, -, hsettled, haccept⟩ |
      ⟨o, settled, -, hsettled, rfl⟩ | ⟨o, -, -, rfl⟩
    · exact h
    · exact acceptable_accept (acceptable_settle h hsettled) haccept
    · change Acceptable settled.given
      exact acceptable_settle h hsettled
    · exact h

theorem acceptable_foldlM {arguments : List String} (h : Acceptable r.given)
    (hread : arguments.foldlM read r = .ok s) : Acceptable s.given := by
  induction arguments generalizing r with
  | nil =>
    obtain rfl := Except.ok.inj hread
    exact h
  | cons argument rest ih =>
    rw [List.foldlM_cons, bind_eq_ok] at hread
    obtain ⟨next, hnext, hrest⟩ := hread
    exact ih (acceptable_read h hnext) hrest

/-- Reading whole command lines: what comes out is what they spell, and that is acceptable. -/
theorem exists_read_iff {arguments : List String} {given : List (OptionName × String)} :
    (∃ last, arguments.foldlM read {} = .ok last ∧
      ∃ s, last.settle = .ok s ∧ s.given = given) ↔
    Spells arguments given ∧ Acceptable given := by
  constructor
  · rintro ⟨last, hlast, s, hs, rfl⟩
    obtain ⟨more, hmore, hfollows⟩ := exists_follows hlast (by simp) hs
    rw [List.nil_append] at hmore
    rw [hmore]
    cases hfollows with
    | settled hspells =>
      exact ⟨hspells, hmore ▸ acceptable_settle (acceptable_foldlM .nil hlast) hs⟩
  · rintro ⟨hspells, hgiven⟩
    exact exists_read_of_spells hspells .start hgiven

theorem value?_eq_lookup (r : Reading) (o : OptionName) : r.value? o = r.given.lookup o := by
  rw [value?]
  induction r.given with
  | nil => rfl
  | cons p given ih =>
    rw [List.find?_cons, List.lookup_cons]
    by_cases hname : p.1 = o
    · simp [hname]
    · simp [hname, beq_false_of_ne (Ne.symm hname), ih]

end Reading

def Options.ofGiven (given : List (OptionName × String)) (configVariable : Option String) :
    Options where
  logLevel := (given.lookup .logLevel).getD "info"
  logFormat := ((given.lookup .logFormat).bind LogFormat.ofName?).getD .auto
  config := (given.lookup .config).or configVariable
  watchedNamespace := given.lookup .watchedNamespace

theorem Reading.options_eq (r : Reading) : r.options = .ofGiven r.given none := by
  simp only [options, Options.ofGiven, value?_eq_lookup, Option.or_none]

theorem Options.ofGiven_of_config {given : List (OptionName × String)} {path : String}
    (hconfig : given.lookup .config = some path) (configVariable : Option String) :
    Options.ofGiven given configVariable = .ofGiven given none := by
  simp only [ofGiven, hconfig, Option.some_or]

/-- A settings file that only the environment names counts like one that is given last. -/
theorem Options.ofGiven_append_config {given : List (OptionName × String)}
    (hconfig : given.lookup .config = none) (path : String) :
    Options.ofGiven (given ++ [(.config, path)]) none = .ofGiven given (some path) := by
  have hother : ∀ o : OptionName, o ≠ .config → [(OptionName.config, path)].lookup o = none := by
    intro o ho
    rw [List.lookup_cons, beq_false_of_ne ho]
    rfl
  simp [ofGiven, List.lookup_append, hconfig, hother]

/-- The settings file that the environment names is looked at only if the arguments name none. -/
theorem Reading.named_eq_ok {r : Reading} (hgiven : Acceptable r.given)
    {configVariable : Option String} {options : Options} :
    (match r.value? .config, configVariable with
      | none, some path => (Reading.options ·) <$> r.accept .config path
      | _, _ => .ok r.options) = .ok options ↔
    (∀ path ∈ (r.given.lookup .config).or configVariable, path ≠ "") ∧
      options = .ofGiven r.given configVariable := by
  rw [value?_eq_lookup]
  cases hconfig : r.given.lookup .config with
  | some path =>
    obtain ⟨before, after, hsplit, -⟩ := List.lookup_eq_some_iff.1 hconfig
    have hpath : path ≠ "" := hgiven.takes (.config, path) (by simp [hsplit])
    rw [Options.ofGiven_of_config hconfig, ← options_eq]
    simp [hpath, eq_comm]
  | none =>
    cases configVariable with
    | none =>
      rw [← options_eq]
      simp [eq_comm]
    | some path =>
      have hnew : OptionName.config ∉ r.names := by
        intro hmem
        obtain ⟨p, hp, hname⟩ := List.mem_map.1 hmem
        have hother := List.lookup_eq_none_iff.1 hconfig p hp
        simp [hname] at hother
      rw [← Options.ofGiven_append_config hconfig]
      simp only [map_eq_ok, accept_eq_ok]
      constructor
      · rintro ⟨_, ⟨-, hpath, rfl⟩, rfl⟩
        refine ⟨fun other hother => ?_, options_eq _⟩
        obtain rfl := Option.some.inj hother
        exact hpath
      · rintro ⟨hpath, rfl⟩
        exact ⟨{ r with given := r.given ++ [(.config, path)] }, ⟨hnew, hpath path rfl, rfl⟩,
          options_eq _⟩

/-- The command lines that are accepted, and what they say. -/
theorem parse_eq_ok_iff {arguments : List String} {configVariable : Option String}
    {options : Options} : parse arguments configVariable = .ok options ↔
      ∃ given, Spells arguments given ∧ Acceptable given ∧
        (∀ path ∈ (given.lookup .config).or configVariable, path ≠ "") ∧
        options = .ofGiven given configVariable := by
  rw [parse, bind_eq_ok]
  simp only [bind_eq_ok]
  constructor
  · rintro ⟨last, hlast, s, hs, hoptions⟩
    obtain ⟨hspells, hgiven⟩ := Reading.exists_read_iff.1 ⟨last, hlast, s, hs, rfl⟩
    exact ⟨s.given, hspells, hgiven, (Reading.named_eq_ok hgiven).1 hoptions⟩
  · rintro ⟨given, hspells, hgiven, hoptions⟩
    obtain ⟨last, hlast, s, hs, rfl⟩ := Reading.exists_read_iff.2 ⟨hspells, hgiven⟩
    exact ⟨last, hlast, s, hs, (Reading.named_eq_ok hgiven).2 hoptions⟩

end CompositeApps.CommandLine
