import Magnetometer.Action

/-!
# What comes of an action

`Action.run` of a composed action, in terms of the runs of its parts, and three properties that the
parts hand on to the whole:

- `Entries P`: every entry that the action writes into its journal satisfies `P`;
- `Reports`: the action fails exactly when one of its transactions does, with the first fault;
- `Stops`: the action sends nothing after a transaction that failed.

Whatever is said of the traffic on the bus, or of the notices and events, is said of the journal of
an action, and comes down to its single transactions by the closure lemmas of this file.
-/

namespace Magnetometer

namespace Journal

/-- How the first transaction that failed did so, if one failed. -/
def firstFault (j : Journal) : Option Fault := j.transactions.findSome? Transaction.fault

/-- No transaction failed. -/
def Clean (j : Journal) : Prop := ∀ t ∈ j.transactions, t.fault = none

theorem firstFault_append (j k : Journal) :
    firstFault (j ++ k) = (firstFault j).or (firstFault k) := by
  rw [firstFault, transactions_append, List.findSome?_append]
  rfl

theorem firstFault_eq_none {j : Journal} : firstFault j = none ↔ Clean j :=
  List.findSome?_eq_none_iff

theorem clean_append {j k : Journal} : Clean (j ++ k) ↔ Clean j ∧ Clean k := by
  unfold Clean
  rw [transactions_append]
  exact List.forall_mem_append

/-- Nothing was sent after a transaction that failed. -/
def StopsAtFault (j : Journal) : Prop := j.transactions.Pairwise fun t _ => t.fault = none

theorem stopsAtFault_append {j k : Journal} (hj : Clean j) (hk : StopsAtFault k) :
    StopsAtFault (j ++ k) := by
  unfold StopsAtFault
  rw [transactions_append, List.pairwise_append]
  exact ⟨List.pairwise_of_forall_mem_list fun t ht _ _ => hj t ht, hk, fun t ht _ _ => hj t ht⟩

theorem transactions_map_transaction (ts : List Transaction) :
    transactions (ts.map .transaction) = ts := by
  rw [transactions, List.filterMap_map]
  exact List.filterMap_some

/-- A journal in which there are only transactions is the list of them. -/
theorem eq_map_transactions :
    ∀ {j : Journal}, (∀ e ∈ j, ∃ t, e = .transaction t) → j = j.transactions.map .transaction := by
  intro j
  induction j with
  | nil =>
    intro _
    rfl
  | cons e j ih =>
    intro h
    obtain ⟨t, rfl⟩ := h e List.mem_cons_self
    exact congrArg _ (ih fun e he => h e (List.mem_cons_of_mem _ he))

/-- Where there are only transactions, nothing is said and nothing published. -/
theorem silent_of_transactions {j : Journal} (h : ∀ e ∈ j, ∃ t, e = .transaction t) :
    j.notices = [] ∧ j.events = [] := by
  constructor
  · refine List.filterMap_eq_nil_iff.mpr fun e he => ?_
    obtain ⟨t, rfl⟩ := h e he
    rfl
  · refine List.filterMap_eq_nil_iff.mpr fun e he => ?_
    obtain ⟨t, rfl⟩ := h e he
    rfl

end Journal

namespace Action

variable {σ τ ε δ α γ : Type}

/-! ## Runs of composed actions -/

theorem run_bind (p : Action σ ε α) (f : α → Action σ ε γ) (s : σ) :
    (p >>= f).run s =
      match (p.run s).result with
      | .error e => ⟨.error e, (p.run s).state, (p.run s).journal⟩
      | .ok a =>
        ⟨((f a).run (p.run s).state).result, ((f a).run (p.run s).state).state,
          (p.run s).journal ++ ((f a).run (p.run s).state).journal⟩ := rfl

theorem run_map (f : α → γ) (p : Action σ ε α) (s : σ) :
    (f <$> p).run s = ⟨(p.run s).result.map f, (p.run s).state, (p.run s).journal⟩ := by
  rw [map_eq_pure_bind]
  cases h : (p.run s).result with
  | error e =>
    rw [run_bind_error h]
    rfl
  | ok a =>
    rw [run_bind_ok h, run_pure, List.append_nil]
    rfl

@[simp] theorem run_fail (e : ε) (s : σ) : (fail e : Action σ ε α).run s = ⟨.error e, s, []⟩ := rfl

@[simp] theorem run_ofExcept (r : Except ε α) (s : σ) :
    (ofExcept r : Action σ ε α).run s = ⟨r, s, []⟩ := rfl

@[simp] theorem run_inspect (f : σ → α) (s : σ) :
    (inspect f : Action σ ε α).run s = ⟨.ok (f s), s, []⟩ := rfl

@[simp] theorem run_modify (f : σ → σ) (s : σ) :
    (modify f : Action σ ε Unit).run s = ⟨.ok (), f s, []⟩ := rfl

@[simp] theorem run_log (n : Notice) (s : σ) :
    (log n : Action σ ε Unit).run s = ⟨.ok (), s, [.notice n]⟩ := rfl

@[simp] theorem run_publish (e : Event) (s : σ) :
    (publish e : Action σ ε Unit).run s = ⟨.ok (), s, [.event e]⟩ := rfl

@[simp] theorem run_attempt (p : Action σ ε α) (s : σ) :
    (p.attempt : Action σ δ (Except ε α)).run s =
      ⟨.ok (p.run s).result, (p.run s).state, (p.run s).journal⟩ := rfl

@[simp] theorem run_mapError (f : ε → δ) (p : Action σ ε α) (s : σ) :
    (p.mapError f).run s = ⟨(p.run s).result.mapError f, (p.run s).state, (p.run s).journal⟩ := rfl

/-- After a failure the rest is tried all the same, and the failure counts for the whole. -/
theorem run_tryAll_cons (f : α → Action σ ε Unit) (a : α) (l : List α) (s : σ) :
    (tryAll f (a :: l)).run s =
      ⟨((f a).run s).result *> ((tryAll f l).run ((f a).run s).state).result,
        ((tryAll f l).run ((f a).run s).state).state,
        ((f a).run s).journal ++ ((tryAll f l).run ((f a).run s).state).journal⟩ := by
  have hrun : (tryAll f (a :: l)).run s =
      ⟨((f a).run s).result *> ((tryAll f l).run ((f a).run s).state).result,
        ((tryAll f l).run ((f a).run s).state).state,
        ((f a).run s).journal ++ (((tryAll f l).run ((f a).run s).state).journal ++ [])⟩ := rfl
  rw [hrun, List.append_nil]

/-- A sequence that succeeds has gone through both of its actions. -/
theorem run_bind_eq_ok {p : Action σ ε α} {f : α → Action σ ε γ} {s : σ} {c : γ}
    (h : ((p >>= f).run s).result = .ok c) :
    ∃ a, (p.run s).result = .ok a ∧ ((f a).run (p.run s).state).result = .ok c ∧
      ((p >>= f).run s).state = ((f a).run (p.run s).state).state ∧
      ((p >>= f).run s).journal = (p.run s).journal ++ ((f a).run (p.run s).state).journal := by
  cases hp : (p.run s).result with
  | error e =>
    rw [run_bind_error hp] at h
    cases h
  | ok a =>
    rw [run_bind_ok hp] at h ⊢
    exact ⟨a, rfl, h, rfl, rfl⟩

/-! ## What is written into the journal -/

/-- Every entry that the action writes satisfies a condition. -/
def Entries (P : Entry → Prop) (p : Action σ ε α) : Prop := ∀ s, ∀ e ∈ (p.run s).journal, P e

variable {P : Entry → Prop}

theorem Entries.pure (a : α) : (pure a : Action σ ε α).Entries P := by
  intro s e he
  cases he

theorem Entries.fail (e : ε) : (fail e : Action σ ε α).Entries P := by
  intro s e he
  cases he

theorem Entries.log {n : Notice} (h : P (.notice n)) : (log n : Action σ ε Unit).Entries P := by
  intro s e he
  rw [run_log, List.mem_singleton] at he
  rw [he]
  exact h

theorem Entries.publish {e : Event} (h : P (.event e)) :
    (publish e : Action σ ε Unit).Entries P := by
  intro s entry hentry
  rw [run_publish, List.mem_singleton] at hentry
  rw [hentry]
  exact h

theorem Entries.mono {Q : Entry → Prop} {p : Action σ ε α} (hp : p.Entries P)
    (h : ∀ e, P e → Q e) : p.Entries Q :=
  fun s e he => h e (hp s e he)

theorem Entries.map {p : Action σ ε α} (hp : p.Entries P) (f : α → γ) : (f <$> p).Entries P := by
  intro s
  rw [run_map]
  exact hp s

theorem Entries.mapError {p : Action σ ε α} (hp : p.Entries P) (f : ε → δ) :
    (p.mapError f).Entries P :=
  hp

theorem Entries.attempt {p : Action σ ε α} (hp : p.Entries P) :
    (p.attempt : Action σ δ (Except ε α)).Entries P :=
  hp

theorem Entries.of_silent {p : Action σ ε α} (h : ∀ s, (p.run s).journal = []) : p.Entries P := by
  intro s e he
  rw [h] at he
  cases he

theorem Entries.bind {p : Action σ ε α} {f : α → Action σ ε γ} (hp : p.Entries P)
    (hf : ∀ a, (f a).Entries P) : (p >>= f).Entries P := by
  intro s e he
  cases h : (p.run s).result with
  | error err =>
    rw [run_bind_error h] at he
    exact hp s e he
  | ok a =>
    rw [run_bind_ok h] at he
    rcases List.mem_append.mp he with he | he
    · exact hp s e he
    · exact hf a _ e he

theorem Entries.tryAll {f : α → Action σ ε Unit} :
    ∀ (l : List α), (∀ a ∈ l, (f a).Entries P) → (tryAll f l).Entries P := by
  intro l
  induction l with
  | nil =>
    intro _
    exact .pure ()
  | cons a l ih =>
    -- Whether the first one fails or not, the others are tried.
    intro h s e he
    rw [run_tryAll_cons] at he
    rcases List.mem_append.mp he with he | he
    · exact h a List.mem_cons_self s e he
    · exact ih (fun b hb => h b (List.mem_cons_of_mem _ hb)) _ e he

/-! ## Failures of transactions -/

/-- The action fails exactly when one of its transactions does, and then with the first fault. -/
def Reports (p : Action σ Error α) : Prop :=
  ∀ s, match (p.run s).journal.firstFault with
    | none => ∃ a, (p.run s).result = .ok a
    | some fault => (p.run s).result = .error (.bus fault)

theorem Reports.pure (a : α) : (pure a : Action σ Error α).Reports := fun _ => ⟨a, rfl⟩

theorem Reports.log (n : Notice) : (log n : Action σ Error Unit).Reports := fun _ => ⟨(), rfl⟩

/-- An action that reports its faults and succeeds has met none. -/
theorem Reports.clean {p : Action σ Error α} (hp : p.Reports) {s : σ} {a : α}
    (h : (p.run s).result = .ok a) : (p.run s).journal.Clean := by
  rw [← Journal.firstFault_eq_none]
  have hps := hp s
  cases hj : (p.run s).journal.firstFault with
  | none => rfl
  | some fault =>
    rw [hj, h] at hps
    cases hps

theorem Reports.bind {p : Action σ Error α} {f : α → Action σ Error γ} (hp : p.Reports)
    (hf : ∀ a, (f a).Reports) : (p >>= f).Reports := by
  intro s
  cases h : (p.run s).result with
  | error e =>
    -- Nothing follows, so the fault of the first action is that of the whole.
    have hps := hp s
    rw [run_bind_error h]
    cases hj : (p.run s).journal.firstFault with
    | none =>
      rw [hj, h] at hps
      obtain ⟨a, ha⟩ := hps
      cases ha
    | some fault =>
      rw [hj, h] at hps
      exact congrArg Except.error (Except.error.inj hps)
  | ok a =>
    rw [run_bind_ok h, Journal.firstFault_append, Journal.firstFault_eq_none.mpr (hp.clean h)]
    exact hf a (p.run s).state

theorem Reports.tryAll {f : α → Action σ Error Unit} :
    ∀ (l : List α), (∀ a ∈ l, (f a).Reports) → (tryAll f l).Reports := by
  intro l
  induction l with
  | nil =>
    intro _
    exact .pure ()
  | cons a l ih =>
    intro h s
    have hfirst := h a List.mem_cons_self s
    have hrest := ih (fun b hb => h b (List.mem_cons_of_mem _ hb)) ((f a).run s).state
    rw [run_tryAll_cons, Journal.firstFault_append]
    cases hj : ((f a).run s).journal.firstFault with
    | none =>
      rw [hj] at hfirst
      obtain ⟨u, hu⟩ := hfirst
      rw [hu]
      exact hrest
    | some fault =>
      -- What the others come to does not matter any more.
      rw [hj] at hfirst
      dsimp only at hfirst ⊢
      rw [hfirst]
      rfl

/-- An action that reports its faults succeeds if there are none. -/
theorem Reports.ok {p : Action σ Error α} (hp : p.Reports) {s : σ} (h : (p.run s).journal.Clean) :
    ∃ a, (p.run s).result = .ok a := by
  have hps := hp s
  rw [Journal.firstFault_eq_none.mpr h] at hps
  exact hps

/-- Without a failed transaction a sequence goes through both of its actions. -/
theorem Reports.bind_of_clean {p : Action σ Error α} {f : α → Action σ Error γ} (hp : p.Reports)
    {s : σ} (h : ((p >>= f).run s).journal.Clean) :
    ∃ a, (p.run s).result = .ok a ∧ (p.run s).journal.Clean ∧
      ((f a).run (p.run s).state).journal.Clean := by
  cases hres : (p.run s).result with
  | error e =>
    rw [run_bind_error hres] at h
    obtain ⟨a, ha⟩ := hp.ok h
    rw [ha] at hres
    cases hres
  | ok a =>
    rw [run_bind_ok hres] at h
    obtain ⟨hclean, hclean'⟩ := Journal.clean_append.mp h
    exact ⟨a, rfl, hclean, hclean'⟩

/-- A fault of the bus is reported exactly if it was the first one. -/
theorem Reports.bus_iff {p : Action σ Error α} (hp : p.Reports) (s : σ) (fault : Fault) :
    (p.run s).result = .error (.bus fault) ↔ (p.run s).journal.firstFault = some fault := by
  have hps := hp s
  cases hj : (p.run s).journal.firstFault with
  | none =>
    rw [hj] at hps
    obtain ⟨a, ha⟩ := hps
    rw [ha]
    exact ⟨nofun, nofun⟩
  | some first =>
    rw [hj] at hps
    dsimp only at hps
    rw [hps, Except.error.injEq, Error.bus.injEq, Option.some.injEq]

/-- Nothing but the bus is to blame for a failure of the action. -/
theorem Reports.error_eq_bus {p : Action σ Error α} (hp : p.Reports) {s : σ} {e : Error}
    (h : (p.run s).result = .error e) : ∃ fault, e = .bus fault := by
  have hps := hp s
  rw [h] at hps
  split at hps
  · obtain ⟨a, ha⟩ := hps
    cases ha
  next fault _ => exact ⟨fault, Except.error.inj hps⟩

/-- The action sends nothing after a transaction that failed, and it does not succeed then. -/
def Stops (p : Action σ ε α) : Prop :=
  ∀ s, (p.run s).journal.StopsAtFault ∧
    ∀ a, (p.run s).result = .ok a → (p.run s).journal.Clean

theorem Stops.pure (a : α) : (pure a : Action σ ε α).Stops := fun _ => ⟨.nil, nofun⟩

theorem Stops.fail (e : ε) : (fail e : Action σ ε α).Stops := fun _ => ⟨.nil, nofun⟩

theorem Stops.log (n : Notice) : (log n : Action σ ε Unit).Stops := fun _ => ⟨.nil, nofun⟩

theorem Stops.bind {p : Action σ ε α} {f : α → Action σ ε γ} (hp : p.Stops)
    (hf : ∀ a, (f a).Stops) : (p >>= f).Stops := by
  intro s
  obtain ⟨hstops, hclean⟩ := hp s
  cases h : (p.run s).result with
  | error e =>
    rw [run_bind_error h]
    exact ⟨hstops, nofun⟩
  | ok a =>
    rw [run_bind_ok h]
    obtain ⟨hstops', hclean'⟩ := hf a (p.run s).state
    refine ⟨Journal.stopsAtFault_append (hclean a h) hstops', fun c hc => ?_⟩
    exact Journal.clean_append.mpr ⟨hclean a h, hclean' c hc⟩

end Action

end Magnetometer
