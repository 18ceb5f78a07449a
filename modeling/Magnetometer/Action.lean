import Magnetometer.Journal

/-!
# Actions

An `Action` works on a state, may fail, and keeps a journal. Failing loses neither the state nor the
journal: what was done before the failure stays done and stays written down.

Actions form a lawful monad, in which a failure ends the sequence (`run_bind_ok`, `run_bind_error`).
`attempt` turns a failure into a value and `tryAll` goes on after failures.
-/

namespace Magnetometer

/-- What came of an action. -/
structure Outcome (σ ε α : Type) where
  result : Except ε α
  state : σ
  journal : Journal

/-- Something that works on a state, may fail, and keeps a journal. -/
@[ext]
structure Action (σ ε α : Type) where
  run : σ → Outcome σ ε α

namespace Action

variable {σ τ ε δ α γ : Type}

protected def pure (a : α) : Action σ ε α := ⟨fun s => ⟨.ok a, s, []⟩⟩

/-- One action after the other, unless the first one fails. -/
protected def bind (p : Action σ ε α) (next : α → Action σ ε γ) : Action σ ε γ where
  run s :=
    let first := p.run s
    match first.result with
    | .error e => ⟨.error e, first.state, first.journal⟩
    | .ok a =>
      let second := (next a).run first.state
      ⟨second.result, second.state, first.journal ++ second.journal⟩

instance : Monad (Action σ ε) where
  pure := Action.pure
  bind := Action.bind

def fail (e : ε) : Action σ ε α := ⟨fun s => ⟨.error e, s, []⟩⟩

/-- Gives a result that was found before. -/
def ofExcept (r : Except ε α) : Action σ ε α := ⟨fun s => ⟨r, s, []⟩⟩

def inspect (f : σ → α) : Action σ ε α := ⟨fun s => ⟨.ok (f s), s, []⟩⟩

def modify (f : σ → σ) : Action σ ε Unit := ⟨fun s => ⟨.ok (), f s, []⟩⟩

/-- Writes an entry into the journal. -/
def record (entry : Entry) : Action σ ε Unit := ⟨fun s => ⟨.ok (), s, [entry]⟩⟩

def log (n : Notice) : Action σ ε Unit := record (.notice n)

def publish (e : Event) : Action σ ε Unit := record (.event e)

/-- The result of an action, whether it is a failure or not, as a value. -/
def attempt (p : Action σ ε α) : Action σ δ (Except ε α) where
  run s :=
    let out := p.run s
    ⟨.ok out.result, out.state, out.journal⟩

/-- The action with its failures renamed. -/
def mapError (f : ε → δ) (p : Action σ ε α) : Action σ δ α where
  run s :=
    let out := p.run s
    ⟨out.result.mapError f, out.state, out.journal⟩

def within (part : σ → τ) (put : τ → σ → σ) (p : Action τ ε α) : Action σ ε α where
  run s :=
    let out := p.run (part s)
    ⟨out.result, put out.state s, out.journal⟩

/-- All actions in order, also after a failure; fails with the first failure met. -/
def tryAll (f : α → Action σ ε Unit) : List α → Action σ ε Unit
  | [] => pure ()
  | a :: rest => do
    let first ← (f a).attempt
    let others ← (tryAll f rest).attempt
    ofExcept (first *> others)

/-! ## What comes of composed actions -/

@[simp] theorem run_pure (a : α) (s : σ) :
    (pure a : Action σ ε α).run s = ⟨.ok a, s, []⟩ := rfl

theorem run_bind_ok {p : Action σ ε α} {f : α → Action σ ε γ} {s : σ} {a : α}
    (h : (p.run s).result = .ok a) :
    (p >>= f).run s =
      ⟨((f a).run (p.run s).state).result, ((f a).run (p.run s).state).state,
        (p.run s).journal ++ ((f a).run (p.run s).state).journal⟩ := by
  show (Action.bind p f).run s = _
  simp only [Action.bind, h]

theorem run_bind_error {p : Action σ ε α} {f : α → Action σ ε γ} {s : σ} {e : ε}
    (h : (p.run s).result = .error e) :
    (p >>= f).run s = ⟨.error e, (p.run s).state, (p.run s).journal⟩ := by
  show (Action.bind p f).run s = _
  simp only [Action.bind, h]

instance : LawfulMonad (Action σ ε) := LawfulMonad.mk' _
  (by
    intro α p
    apply Action.ext
    funext s
    show (p >>= fun a => pure a).run s = _
    cases h : (p.run s).result with
    | error e => rw [run_bind_error h, ← h]
    | ok a => rw [run_bind_ok h, run_pure, List.append_nil, ← h])
  (by
    intro α γ a next
    exact Action.ext (funext fun s => run_bind_ok rfl))
  (by
    intro α γ δ p next last
    apply Action.ext
    funext s
    cases h : (p.run s).result with
    | error e =>
      rw [run_bind_error (e := e) (by rw [run_bind_error h]), run_bind_error h, run_bind_error h]
    | ok a =>
      rw [run_bind_ok (f := fun a => next a >>= last) h]
      cases h' : ((next a).run (p.run s).state).result with
      | error e =>
        rw [run_bind_error (e := e) (by rw [run_bind_ok h, h']), run_bind_error h', run_bind_ok h]
      | ok b =>
        rw [run_bind_ok (a := b) (by rw [run_bind_ok h, h']), run_bind_ok h', run_bind_ok h]
        simp only [List.append_assoc])

end Action

end Magnetometer
