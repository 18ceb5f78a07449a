import Magnetometer.Proofs.Traffic

/-!
# Plans

What an operation that stops at the first failure is going to send does not depend on any answer: it
has a plan, which is the list of its transactions in case that all goes well. `Action.Follows` says
that the plan is carried out, either as a whole, and then the operation succeeds, or up to the first
transaction that fails, and then it fails with that fault and sends nothing more.

Plans are joined as operations are: `Follows.bind`, `Follows.forM`. Main statements:
`follows_apply` and `follows_readAxes`, the plans of a list of settings and of a block of words.
-/

namespace Magnetometer

/-- A transaction with the sensor, and how it failed if it did. -/
def Sensor.attempted (sensor : Sensor) (fault : Option Fault) (parts : List Part) : Transaction :=
  ⟨sensor.address, parts, fault⟩

/-- How far the transactions of a plan were made. -/
inductive Outcome.Follows {σ α : Type} (out : Outcome σ Error α) (sensor : Sensor)
    (plan : List (List Part)) : Prop
  /-- All of them were made, and none failed. -/
  | completed (a : α) (result : out.result = .ok a)
    (transactions : out.journal.transactions = plan.map (sensor.attempted none))
  /-- One of them failed, and was the last that was made. -/
  | broken (before : List (List Part)) (parts : List Part) (after : List (List Part))
    (fault : Fault) (split : plan = before ++ parts :: after)
    (result : out.result = .error (.bus fault))
    (transactions : out.journal.transactions =
      before.map (sensor.attempted none) ++ [sensor.attempted (some fault) parts])

/-- The action makes the transactions of a plan, up to the first that fails. -/
def Action.Follows {σ α : Type} (p : Action σ Error α) (sensor : Sensor)
    (plan : List (List Part)) : Prop := ∀ s, (p.run s).Follows sensor plan

/-- A plan that treats the elements of a list in the same way is broken at one of them. -/
theorem Outcome.Follows.of_map {σ α ι : Type} {out : Outcome σ Error α} {sensor : Sensor}
    {g : ι → List Part} {l : List ι} (h : out.Follows sensor (l.map g)) :
    (∃ a, out.result = .ok a ∧
      out.journal.transactions = l.map fun i => sensor.attempted none (g i)) ∨
    ∃ before i after fault, l = before ++ i :: after ∧ out.result = .error (.bus fault) ∧
      out.journal.transactions =
        before.map (fun i => sensor.attempted none (g i)) ++
          [sensor.attempted (some fault) (g i)] := by
  cases h with
  | completed a result transactions =>
    rw [List.map_map] at transactions
    exact .inl ⟨a, result, transactions⟩
  | broken before parts after fault split result transactions =>
    obtain ⟨l₁, l₂, rfl, rfl, hrest⟩ := List.map_eq_append_iff.mp split
    obtain ⟨i, l₃, rfl, rfl, -⟩ := List.map_eq_cons_iff.mp hrest
    rw [List.map_map] at transactions
    exact .inr ⟨l₁, i, l₃, fault, rfl, result, transactions⟩

/-- Without a failed transaction the whole plan is carried out. -/
theorem Outcome.Follows.transactions_of_clean {σ α : Type} {out : Outcome σ Error α}
    {sensor : Sensor} {plan : List (List Part)} (h : out.Follows sensor plan)
    (hclean : out.journal.Clean) :
    out.journal.transactions = plan.map (sensor.attempted none) := by
  cases h with
  | completed a result transactions => exact transactions
  | broken before parts after fault split result transactions =>
    have hmem : sensor.attempted (some fault) parts ∈ out.journal.transactions := by
      rw [transactions]
      exact List.mem_append_right _ (List.mem_singleton_self _)
    cases hclean _ hmem

theorem Outcome.Follows.parts_of_clean {σ α : Type} {out : Outcome σ Error α} {sensor : Sensor}
    {plan : List (List Part)} (h : out.Follows sensor plan) (hclean : out.journal.Clean) :
    out.journal.transactions.map Transaction.parts = plan := by
  rw [h.transactions_of_clean hclean, List.map_map]
  exact List.map_id plan

namespace Action

section

variable {σ α γ : Type} {sensor : Sensor} {plan plan' : List (List Part)}

theorem Follows.pure (a : α) : (pure a : Action σ Error α).Follows sensor [] :=
  fun _ => .completed a rfl rfl

theorem Follows.log (n : Notice) : (log n : Action σ Error Unit).Follows sensor [] :=
  fun _ => .completed () rfl rfl

theorem Follows.bind {p : Action σ Error α} {f : α → Action σ Error γ}
    (hp : p.Follows sensor plan) (hf : ∀ a, (f a).Follows sensor plan') :
    (p >>= f).Follows sensor (plan ++ plan') := by
  intro s
  cases hp s with
  | broken before parts after fault split result transactions =>
    -- Where the first plan is broken, the second one is not begun.
    rw [run_bind_error result]
    refine .broken before parts (after ++ plan') fault ?_ rfl transactions
    rw [split, List.append_assoc, List.cons_append]
  | completed a result transactions =>
    rw [run_bind_ok result]
    cases hf a (p.run s).state with
    | completed c result' transactions' =>
      refine .completed c result' ?_
      rw [Journal.transactions_append, transactions, transactions', List.map_append]
    | broken before parts after fault split result' transactions' =>
      refine .broken (plan ++ before) parts after fault ?_ result' ?_
      · rw [split, List.append_assoc]
      · rw [Journal.transactions_append, transactions, transactions', List.map_append,
          List.append_assoc]

theorem Follows.forM {f : α → Action σ Error PUnit} {g : α → List Part}
    (hf : ∀ a, (f a).Follows sensor [g a]) :
    ∀ l : List α, (l.forM f).Follows sensor (l.map g)
  | [] => .pure _
  | a :: l => (hf a).bind fun _ => Follows.forM hf l

end

end Action

namespace Sensor

variable {β ρ : Type} [Bus β] [NamedRegister ρ]

theorem follows_writeRegister (sensor : Sensor) (r v : UInt8) :
    (sensor.writeRegister r v : Action β Error Unit).Follows sensor [[.write [r, v]]] := by
  intro b
  rw [run_writeRegister]
  cases h : (Bus.transact sensor.address [.write [r, v]] b).1.fault with
  | none => exact .completed () rfl rfl
  | some fault => exact .broken [] _ [] fault rfl rfl rfl

theorem follows_readBytes (sensor : Sensor) (r : UInt8) (n : Nat) :
    (sensor.readBytes r n : Action β Error (List UInt8)).Follows sensor
      [[.write [r], .read n]] := by
  intro b
  rw [run_readBytes]
  cases h : (Bus.transact sensor.address [.write [r], .read n] b).1.fault with
  | none => exact .completed _ rfl rfl
  | some fault => exact .broken [] _ [] fault rfl rfl rfl

theorem follows_readRegister (sensor : Sensor) (r : UInt8) :
    (sensor.readRegister r : Action β Error UInt8).Follows sensor [[.write [r], .read 1]] :=
  (sensor.follows_readBytes r 1).bind fun _ => .pure _

theorem follows_readWord (sensor : Sensor) (r : UInt8) :
    (sensor.readWord r : Action β Error Int16).Follows sensor [[.write [r], .read 2]] :=
  (sensor.follows_readBytes r 2).bind fun _ => .pure _

theorem follows_readAxes (sensor : Sensor) (block : Axis → Half → Register) :
    (sensor.readAxes block : Action β Error Sample).Follows sensor
      (Axis.all.map fun axis => [.write [(block axis .high).address], .read 2]) :=
  (sensor.follows_readWord _).bind fun _ => (sensor.follows_readWord _).bind fun _ =>
    (sensor.follows_readWord _).bind fun _ => .pure _

theorem follows_applyOne (sensor : Sensor) (s : Setting ρ) :
    (sensor.applyOne s : Action β Error Unit).Follows sensor [settingParts s] := by
  unfold applyOne settingParts
  cases s.access with
  | write => exact (Action.Follows.log _).bind fun _ => sensor.follows_writeRegister _ _
  | read => exact (sensor.follows_readRegister _).bind fun _ => .log _

theorem follows_apply (sensor : Sensor) (settings : List (Setting ρ)) :
    (sensor.apply settings : Action β Error Unit).Follows sensor (settings.map settingParts) :=
  .forM sensor.follows_applyOne settings

end Sensor

end Magnetometer
