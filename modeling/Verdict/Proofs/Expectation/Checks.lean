import Verdict.Expectation.Quantified
import Mathlib.Data.List.Range

namespace Verdict

variable {σ ι α ε : Type}

-- The same run, which first writes an entry into a log.
def Run.noting (entry : ε) (p : Run σ α) : Run (List ε × σ) α :=
  fun s => ((p.run s.2).1, (s.1 ++ [entry], (p.run s.2).2))

theorem Run.noting_at (entry : ε) (p : Run σ α) (log : List ε) (s : σ) :
    (p.noting entry).run (log, s) = ((p.run s).1, (log ++ [entry], (p.run s).2)) := rfl

theorem Run.orElse_at (p : Run σ α) (instead : α) (s : σ) :
    (p.orElse instead).run s = (.ok ((p.run s).1.toOption.getD instead), (p.run s).2) := by
  have hcatch : (p.orElse instead).run s = (ExceptT.tryCatch p fun _ => pure instead) s := rfl
  rcases hp : p.run s with ⟨answer, s'⟩
  rw [hcatch, ExceptT.tryCatch, ExceptT.mk]
  change StateT.bind p _ s = _
  rw [StateT.bind, show p s = (answer, s') from hp]
  cases answer <;> rfl

namespace Check

variable {shown : ι → String} {c : Check σ ι} {x : ι} {subject : String}

-- The same check on items that know their index. It notes its position and the index when it is run.
def noted (position : Nat) : Check σ ι → Check (List (Nat × Nat) × σ) (ι × Nat)
  | .predicate text test => .predicate text fun x => (test x.1).noting (position, x.2)
  | .satisfying e => .satisfying fun x subject => (e x.1 subject).noting (position, x.2)

@[simp] theorem name_noted (c : Check σ ι) (position p : Nat) : (c.noted position).name p = c.name p := by
  cases c <;> rfl

theorem exists_result (shown : ι → String) (c : Check σ ι) (x : ι) (subject : String) (s : σ) :
    ∃ r s', (c.result shown x subject).run s = (.ok r, s') := by
  cases c with
  | predicate text test =>
    rw [result, Run.bind_ok (Run.orElse_at (test x) false s)]
    exact ⟨_, _, rfl⟩
  | satisfying e => exact ⟨_, _, Run.orElse_at _ _ _⟩

theorem result_noted (shown : ι → String) (c : Check σ ι) (x : ι) (subject : String)
    (position index : Nat) (log : List (Nat × Nat)) (s : σ) :
    ((c.noted position).result (fun x => shown x.1) (x, index) subject).run (log, s) =
      (((c.result shown x subject).run s).1,
        (log ++ [(position, index)], ((c.result shown x subject).run s).2)) := by
  cases c with
  | predicate text test =>
    rw [result, Run.bind_ok (Run.orElse_at (test x) false s), noted, result,
      Run.bind_ok (Run.orElse_at _ false (log, s)), Run.noting_at]
    rfl
  | satisfying e =>
    rw [result, Run.orElse_at, noted, result, Run.orElse_at, Run.noting_at]

-- What the check answers on the item does not hang on the state that it is run in.
def HasVerdict (c : Check σ ι) (shown : ι → String) (x : ι) (subject : String) (b : Bool) : Prop :=
  ∀ s r s', (c.result shown x subject).run s = (.ok r, s') → r.passed = b

theorem exists_results (c : Check σ ι) (shown : ι → String) (subject : String) (position : Nat)
    (accepts : Nat → Bool) (k : Nat) (items : List ι) (s : σ)
    (hverdict : ∀ i x, items[i]? = some x →
      c.HasVerdict shown x (itemSubject subject (k + i)) (accepts (k + i))) :
    ∃ results s', (c.results shown subject k items).run s = (.ok results, s') ∧
      results.map Result.passed = (List.range' k items.length).map accepts ∧
      ∀ log, ((c.noted position).results (fun x => shown x.1) subject k (items.zipIdx k)).run (log, s) =
        (.ok results, (log ++ (List.range' k items.length).map (position, ·), s')) := by
  induction items generalizing k s with
  | nil => exact ⟨[], s, rfl, rfl, fun log => by simp [Check.results]; rfl⟩
  | cons x items ih =>
    obtain ⟨first, s₁, hfirst⟩ := exists_result shown c x (itemSubject subject k) s
    have hpassed : first.passed = accepts k := hverdict 0 x rfl _ _ _ hfirst
    obtain ⟨rest, s', hrest, hmap, hlog⟩ := ih (k + 1) s₁ fun i y hy => by
      have h := hverdict (i + 1) y hy
      rwa [← Nat.add_assoc, Nat.add_right_comm] at h
    refine ⟨first :: rest, s', ?_, ?_, fun log => ?_⟩
    · rw [Check.results, Run.bind_ok hfirst, Run.bind_ok hrest]
      rfl
    · rw [List.length_cons, List.range'_succ, List.map_cons, List.map_cons, hpassed, hmap]
    · have hnoted := result_noted shown c x (itemSubject subject k) position k log s
      rw [hfirst] at hnoted
      rw [List.zipIdx_cons, Check.results, Run.bind_ok hnoted, Run.bind_ok (hlog _),
        List.length_cons, List.range'_succ, List.map_cons, List.append_assoc, List.singleton_append]
      rfl

end Check

-- Which items are listed hangs on what passed only.
theorem indices_indexedWhere (passed : Bool) (results : List Result) :
    (indexedWhere passed results).map (·.1) =
      (((results.map Result.passed).zipIdx).filter fun p => p.1 == passed).map (·.2) := by
  rw [List.zipIdx_map, List.filter_map, List.map_map, indexedWhere, List.map_map]
  rfl

-- The indices of the results that passed.
theorem indexedWhere_fst (results : List Result) (accepts : Nat → Bool)
    (hpassed : results.map Result.passed = (List.range' 0 results.length).map accepts) :
    (indexedWhere true results).map (·.1) = (List.range results.length).filter accepts := by
  have hplaces : ((List.range results.length).map accepts).zipIdx =
      (List.range results.length).map fun i => (accepts i, i) := by
    rw [List.zipIdx_eq_zip_range', List.length_map, List.length_range, ← List.range_eq_range',
      List.zip_map_left, List.zip_eq_zipWith, List.zipWith_self, List.map_map]
    rfl
  rw [indices_indexedWhere, hpassed, ← List.range_eq_range', hplaces, List.filter_map, List.map_map]
  simp [Function.comp_def]

end Verdict
