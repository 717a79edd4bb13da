import Verdict.Callback

namespace Verdict

abbrev Run (σ : Type) := ExceptT Fault (StateM σ)

namespace Run

variable {σ α β : Type} {p : Run σ α} {s s' : σ}

-- What comes next starts where the first run ended, unless that one broke off.
theorem bind_at (p : Run σ α) (next : α → Run σ β) (s : σ) :
    (p >>= next).run s = match p.run s with
      | (.ok a, s') => (next a).run s'
      | (.error f, s') => (.error f, s') := by
  change (ExceptT.bindCont next (p.run s).1) (p.run s).2 = _
  rcases p.run s with ⟨answer, s'⟩
  cases answer with
  | ok a => rfl
  | error f => rfl

theorem bind_ok {a : α} (hp : p.run s = (.ok a, s')) (next : α → Run σ β) :
    (p >>= next).run s = (next a).run s' := by
  rw [bind_at, hp]

theorem bind_error {f : Fault} (hp : p.run s = (.error f, s')) (next : α → Run σ β) :
    (p >>= next).run s = (.error f, s') := by
  rw [bind_at, hp]

theorem bind_eq_ok_iff {next : α → Run σ β} {b : β} :
    (p >>= next).run s = (.ok b, s') ↔
      ∃ a s₁, p.run s = (.ok a, s₁) ∧ (next a).run s₁ = (.ok b, s') := by
  constructor
  · intro h
    rw [bind_at] at h
    rcases hp : p.run s with ⟨answer, s₁⟩
    rw [hp] at h
    cases answer with
    | ok a => exact ⟨a, s₁, rfl, h⟩
    | error f => cases h
  · rintro ⟨a, s₁, hp, hnext⟩
    rw [bind_ok hp, hnext]

theorem return_at (p : Run σ α) (f : α → β) (s : σ) :
    (do return f (← p) : Run σ β).run s = ((p.run s).1.map f, (p.run s).2) := by
  rw [bind_at]
  rcases p.run s with ⟨answer, s'⟩
  cases answer with
  | ok a => rfl
  | error f => rfl

end Run

-- An answer that needs no run.
def Run.ofAnswer {σ α : Type} (answer : Callback α) : Run σ α := fun s => (answer, s)

@[simp] theorem Run.ofAnswer_at {σ α : Type} (answer : Callback α) (s : σ) :
    (ofAnswer answer : Run σ α).run s = (answer, s) := rfl

-- Runs on with another answer if the first run broke off.
def Run.orElse {σ α : Type} (run : Run σ α) (instead : α) : Run σ α :=
  tryCatch run fun _ => pure instead

end Verdict
