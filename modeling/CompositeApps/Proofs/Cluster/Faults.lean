import CompositeApps.Cluster.Faults

/-!
What faults can do to a call. As long as none of them keeps a call from coming back, each call is
either answered by the cluster or fails without effect, and the latter only if there is a fault for
its kind.
-/

namespace CompositeApps

namespace StoreError

def bare : StoreError → StoreError
  | notFound => notFound
  | conflict _ => conflict ""
  | api code _ => api code ""
  | malformed _ => malformed ""
  | client _ => client ""

def ofCode (code : Nat) : StoreError :=
  if code = 404 then notFound
  else if code = 409 then conflict ""
  else api code ""

end StoreError

/-- A call that is made to fail with a status fails with the error that it stands for. -/
theorem Fault.exists_outcome (code : Nat) (verb : Verb) (kind : Kind) :
    ∃ e, (Fault.status code).outcome verb kind = .ok (.error e) ∧
      e.bare = StoreError.ofCode code := by
  unfold outcome
  split
  · rename_i hcode
    obtain rfl := Fault.status.inj hcode
    exact ⟨_, rfl, rfl⟩
  · rename_i hcode
    obtain rfl := Fault.status.inj hcode
    exact ⟨_, rfl, rfl⟩
  · rename_i hconflict hmissing hcode
    obtain rfl := Fault.status.inj hcode
    refine ⟨_, rfl, ?_⟩
    rw [StoreError.ofCode, if_neg hmissing, if_neg hconflict]
    rfl
  · rename_i habort
    cases habort

namespace FaultyCluster

variable {store after : FaultyCluster} {c : Call}

def Answering (store : FaultyCluster) : Prop :=
  ∀ rule ∈ store.rules, rule.fault ≠ .abort

def Spares (store : FaultyCluster) (kind : Kind) : Prop :=
  ∀ rule ∈ store.rules, rule.kind ≠ kind

instance (store : FaultyCluster) : Decidable store.Answering :=
  inferInstanceAs (Decidable (∀ rule ∈ store.rules, rule.fault ≠ .abort))

instance (store : FaultyCluster) (kind : Kind) : Decidable (store.Spares kind) :=
  inferInstanceAs (Decidable (∀ rule ∈ store.rules, rule.kind ≠ kind))

theorem Answering.of_rules (h : store.Answering) (hrules : after.rules = store.rules) :
    after.Answering :=
  fun rule hrule => h rule (hrules ▸ hrule)

theorem Spares.of_rules {kind : Kind} (h : store.Spares kind)
    (hrules : after.rules = store.rules) : after.Spares kind :=
  fun rule hrule => h rule (hrules ▸ hrule)

theorem Spares.faultOf?_eq_none {kind : Kind} (h : store.Spares kind) (verb : Verb) :
    store.faultOf? verb kind = none := by
  refine Option.map_eq_none_iff.2 (List.find?_eq_none.2 fun rule hrule => ?_)
  simp [h rule hrule]

theorem faultOf?_of_rules (hrules : after.rules = store.rules) (verb : Verb) (kind : Kind) :
    after.faultOf? verb kind = store.faultOf? verb kind := by
  rw [faultOf?, hrules, faultOf?]

theorem perform_of_fault {c : Call} {f : Fault} (h : store.faultOf? c.verb c.key.kind = some f) :
    store.perform c = (f.outcome c.verb c.key.kind,
      { store with calls := store.calls ++ [LoggedCall.of c] }) := by
  have hlogged : faultOf? { store with calls := store.calls ++ [LoggedCall.of c] } c.verb
      c.key.kind = some f := h
  unfold perform
  dsimp only
  rw [hlogged]

theorem perform_of_faultless {c : Call} (h : store.faultOf? c.verb c.key.kind = none) :
    store.perform c = (.ok (store.cluster.perform c).1,
      { store with
        cluster := (store.cluster.perform c).2
        calls := store.calls ++ [LoggedCall.of c] }) := by
  have hlogged : faultOf? { store with calls := store.calls ++ [LoggedCall.of c] } c.verb
      c.key.kind = none := h
  unfold perform
  dsimp only
  rw [hlogged]

/-- How a call comes out, and the store after it. -/
inductive Tried (store : FaultyCluster) (c : Call) : Reply → FaultyCluster → Prop where
  | served (calls : List LoggedCall) :
      Tried store c (store.cluster.perform c).1
        { store with cluster := (store.cluster.perform c).2, calls }
  | failed (e : StoreError) (calls : List LoggedCall) (hstruck : ¬ store.Spares c.key.kind) :
      Tried store c (.error e) { store with calls }

theorem exists_tried (hanswering : store.Answering) (c : Call) :
    ∃ reply after, store.perform c = (.ok reply, after) ∧ store.Tried c reply after := by
  cases hfault : store.faultOf? c.verb c.key.kind with
  | none => exact ⟨_, _, perform_of_faultless hfault, .served _⟩
  | some fault =>
    obtain ⟨rule, hrule, rfl⟩ := Option.map_eq_some_iff.1 hfault
    have hmem := List.mem_of_find?_eq_some hrule
    cases hcode : rule.fault with
    | abort => exact absurd hcode (hanswering rule hmem)
    | status code =>
      obtain ⟨e, he, -⟩ := Fault.exists_outcome code c.verb c.key.kind
      refine ⟨_, _, by rw [perform_of_fault hfault, hcode, he], .failed e _ fun hspares => ?_⟩
      have hnone := hspares.faultOf?_eq_none c.verb
      exact absurd (hnone.symm.trans hfault) (by simp)

theorem Tried.rules_eq {reply : Reply} (h : store.Tried c reply after) :
    after.rules = store.rules := by
  cases h <;> rfl

/-- What the cluster would serve is served, unless it fails of a fault for its kind. -/
theorem Tried.served_or_failed {reply : Reply} (h : store.Tried c reply after) :
    reply = (store.cluster.perform c).1 ∧ after.cluster = (store.cluster.perform c).2 ∨
      (∃ e, reply = .error e) ∧ after.cluster = store.cluster ∧ ¬ store.Spares c.key.kind := by
  cases h with
  | served calls => exact .inl ⟨rfl, rfl⟩
  | failed e calls hstruck => exact .inr ⟨⟨e, rfl⟩, rfl, hstruck⟩

end FaultyCluster

end CompositeApps
