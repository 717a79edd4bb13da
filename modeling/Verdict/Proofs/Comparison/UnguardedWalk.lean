import Verdict.Proofs.Comparison.ObjectCoverage
import Verdict.Proofs.Value.Acyclic

namespace Verdict

variable {h : Heap} {limit : Nat} {guarded : Bool} {opened opened₁ opened' : List (Ref × Ref)}
  {todo places : List Place} {all : List Difference} {left right : Value} {p q : Place} {a b : Ref}
  {steps : List PathStep} {u v : Option Value}

-- The places within a place are fewer and fewer as one goes on. The induction is on the left value: the ways out
-- of a sequence end with its items, the ways out of an object with those it leads to.
theorem acc_of_left_none (hleft : p.left? = none) : Acc (Place.Within h) p := by
  refine ⟨_, fun q hq => ?_⟩
  obtain ⟨x, y, step, hx, -⟩ := hq
  rw [hleft] at hx
  cases hx

theorem acc_of_mentioned (x : Value)
    (hobjects : ∀ a, Value.Mentions a x → ∀ p : Place, p.left? = some (.object a) → Acc (Place.Within h) p)
    (p : Place) (hleft : p.left? = some x) : Acc (Place.Within h) p := by
  induction hsize : sizeOf x using Nat.strongRecOn generalizing x p with
  | _ size ih =>
    by_cases hobject : ∃ a, x = .object a
    · obtain ⟨a, rfl⟩ := hobject
      exact hobjects a .object p hleft
    constructor
    rintro q ⟨x', y, step, hx, -, hinside, -⟩
    obtain rfl : x' = x := Option.some.inj (hx.symm.trans hleft)
    generalize hqleft : q.left? = u, q.right? = v at hinside
    cases hinside with
    | @item xs ys i =>
      cases hitem : xs[i]? with
      | none => exact acc_of_left_none (hqleft.trans hitem)
      | some item =>
        have hmem : item ∈ xs := List.mem_of_getElem? hitem
        have hsmaller : sizeOf item < size := by
          have := List.sizeOf_lt_of_mem hmem
          rw [← hsize, Value.seq.sizeOf_spec]
          omega
        exact ih _ hsmaller item (fun a ha => hobjects a (.item hmem ha)) q (hqleft.trans hitem) rfl
    | field | rightField => exact absurd ⟨_, rfl⟩ hobject

theorem acc_of_object (hacyclic : h.Acyclic) (a : Ref) (p : Place)
    (hleft : p.left? = some (.object a)) : Acc (Place.Within h) p := by
  induction a using hacyclic.wellFounded.induction generalizing p with
  | _ a ih =>
    constructor
    rintro q ⟨x, y, step, hx, -, hinside, -⟩
    obtain rfl : x = .object a := Option.some.inj (hx.symm.trans hleft)
    generalize hqleft : q.left? = u, q.right? = v at hinside
    cases hinside with
    | @field _ _ f _ hf => exact acc_of_mentioned f.2 (fun s hs => ih s ⟨f, hf, hs⟩) q hqleft
    | rightField => exact acc_of_left_none hqleft

theorem wellFounded_within (hacyclic : h.Acyclic) : WellFounded (Place.Within h) := by
  refine ⟨fun p => ?_⟩
  cases hleft : p.left? with
  | none => exact acc_of_left_none hleft
  | some x => exact acc_of_mentioned x (fun a _ => acc_of_object hacyclic a) p hleft

-- The unguarded walk ends on a graph without cycles.
theorem exists_walks_of_acyclic (hacyclic : h.Acyclic) (limit : Nat) (opened : List (Ref × Ref))
    (todo : List Place) : ∃ all opened', Walks h limit false opened todo all opened' := by
  have hall (todo : List Place)
      (hends : ∀ p ∈ todo, ∀ opened, ∃ all opened', Walks h limit false opened [p] all opened')
      (opened : List (Ref × Ref)) : ∃ all opened', Walks h limit false opened todo all opened' := by
    induction todo generalizing opened with
    | nil => exact ⟨[], opened, .done⟩
    | cons p rest ih =>
      obtain ⟨hp, hrest⟩ := List.forall_mem_cons.1 hends
      obtain ⟨inner, opened₁, hinner⟩ := hp opened
      obtain ⟨found, opened', hfound⟩ := ih hrest opened₁
      exact ⟨_, opened', hinner.append hfound⟩
  have hone (p : Place) (opened : List (Ref × Ref)) :
      ∃ all opened', Walks h limit false opened [p] all opened' := by
    induction p using (wellFounded_within hacyclic).induction generalizing opened with
    | _ p ih =>
      cases hlook : h.look limit false opened p with
      | entry d => exact ⟨_, opened, .entry hlook .done⟩
      | nothing => exact ⟨_, opened, .nothing hlook .done⟩
      | inside opened₁ places =>
        obtain ⟨inner, opened', hinner⟩ :=
          hall places (fun q hq => ih q ((mem_iff_within_of_inside hlook).1 hq)) opened₁
        exact ⟨_, opened', hinner.of_inside hlook⟩
  exact hall todo (fun p _ => hone p) opened

-- One comes to a difference by going on in step.
inductive Unlike (h : Heap) : Option Value → Option Value → Prop where
  | here {u v : Option Value} (hdiffer : Differ h u v) : Unlike h u v
  | inside {x y : Value} {step : PathStep} {u v : Option Value} (hinside : Inside h x y step u v)
    (hunlike : Unlike h u v) : Unlike h (some x) (some y)

theorem unlike_iff_exists_within :
    Unlike h p.left? p.right? ↔
      Differ h p.left? p.right? ∨ ∃ q : Place, q.Within h p ∧ Unlike h q.left? q.right? := by
  constructor
  · intro hunlike
    generalize hx : p.left? = x, hy : p.right? = y at hunlike ⊢
    cases hunlike with
    | here hdiffer => exact .inl hdiffer
    | inside hinside hunlike =>
      obtain ⟨q, hwithin, -, rfl, rfl⟩ := Place.exists_within hx hy hinside
      exact .inr ⟨q, hwithin, hunlike⟩
  · rintro (hdiffer | ⟨q, ⟨x, y, step, hx, hy, hinside, -⟩, hunlike⟩)
    · exact .here hdiffer
    · rw [hx, hy]
      exact .inside hinside hunlike

theorem not_within_of_nothing (hlook : h.look limit false opened p = .nothing) : ¬ q.Within h p := by
  cases looks_of_look hlook with
  | known hknown =>
    rcases hknown with rfl | ⟨⟨⟩, -⟩
    exact not_within_of_same
  | equal hflat => exact hflat.not_within

theorem not_unlike_of_nothing (hlook : h.look limit false opened p = .nothing) :
    ¬ Unlike h p.left? p.right? := by
  rw [unlike_iff_exists_within]
  rintro (hdiffer | ⟨q, hwithin, -⟩)
  · exact not_differ_of_nothing hlook hdiffer
  · exact not_within_of_nothing hlook hwithin

theorem unlike_iff_of_inside (hlook : h.look limit guarded opened p = .inside opened₁ places) :
    Unlike h p.left? p.right? ↔ ∃ q ∈ places, Unlike h q.left? q.right? := by
  rw [unlike_iff_exists_within, or_iff_right (not_differ_of_inside hlook)]
  exact exists_congr fun q => and_congr_left' (mem_iff_within_of_inside hlook).symm

-- The unguarded walk finds nothing only where there is nothing to find.
theorem Walks.eq_nil_iff (hwalk : Walks h limit false opened todo all opened') :
    all = [] ↔ ∀ p ∈ todo, ¬ Unlike h p.left? p.right? := by
  induction hwalk with
  | done => simp
  | entry hlook _ ih =>
    rw [List.forall_mem_cons]
    cases looks_of_look hlook with
    | entry hdiffer => exact ⟨nofun, fun hnone => absurd (.here hdiffer) hnone.1⟩
  | nothing hlook _ ih => rw [ih, List.forall_mem_cons, and_iff_right (not_unlike_of_nothing hlook)]
  | inside hlook _ _ ihinner ihrest =>
    rw [List.append_eq_nil_iff, ihinner, ihrest, List.forall_mem_cons, unlike_iff_of_inside hlook]
    simp only [not_exists, not_and]

-- Nor does it open two objects that come to a difference without finding one.
theorem Walks.count_opened_of_eq_nil (hwalk : Walks h limit false opened todo [] opened')
    (hunlike : Unlike h (some (.object a)) (some (.object b))) :
    opened'.count (a, b) = opened.count (a, b) := by
  generalize hall : ([] : List Difference) = all at hwalk
  induction hwalk with
  | done => rfl
  | entry => cases hall
  | nothing _ _ ih => exact ih hall
  | @inside opened opened₁ opened₂ opened' p places rest inner found hlook hinner _ ihinner ihrest =>
    obtain ⟨rfl, rfl⟩ := List.append_eq_nil_iff.1 hall.symm
    rw [ihrest rfl, ihinner rfl]
    cases looks_of_look hlook with
    | @objects path a' b' hne =>
      refine List.count_cons_of_ne fun hpair => ?_
      obtain ⟨rfl, rfl⟩ := Prod.mk.inj hpair
      obtain ⟨q, hq, hunlike⟩ := (unlike_iff_of_inside hlook).1 hunlike
      exact hinner.eq_nil_iff.1 rfl q hq hunlike
    | items => rfl

-- It lists the difference at every place it can be led to.
theorem Walks.shown_mem (hwalk : Walks h limit false opened todo all opened') :
    ∀ p ∈ todo, ∀ q : Place, Relation.ReflTransGen (Place.Within h) q p →
      Differ h q.left? q.right? → .shown h limit q.path q.left? q.right? ∈ all := by
  induction hwalk with
  | done => exact fun p hp => nomatch hp
  | entry hlook _ ih =>
    refine List.forall_mem_cons.2 ⟨fun q hpath hdiffer => ?_, fun p hp q hpath hdiffer =>
      .tail _ (ih p hp q hpath hdiffer)⟩
    cases looks_of_look hlook with
    | entry hentry =>
      rcases hpath.cases_tail with rfl | ⟨r, -, hwithin⟩
      · exact .head _
      · exact absurd hwithin hentry.not_within
  | nothing hlook _ ih =>
    refine List.forall_mem_cons.2 ⟨fun q hpath hdiffer => ?_, ih⟩
    rcases hpath.cases_tail with rfl | ⟨r, -, hwithin⟩
    · exact absurd hdiffer (not_differ_of_nothing hlook)
    · exact absurd hwithin (not_within_of_nothing hlook)
  | inside hlook _ _ ihinner ihrest =>
    refine List.forall_mem_cons.2 ⟨fun q hpath hdiffer => ?_, fun p hp q hpath hdiffer =>
      List.mem_append_right _ (ihrest p hp q hpath hdiffer)⟩
    rcases hpath.cases_tail with rfl | ⟨r, hpath, hwithin⟩
    · exact absurd hdiffer (not_differ_of_inside hlook)
    · exact List.mem_append_left _
        (ihinner r ((mem_iff_within_of_inside hlook).2 hwithin) q hpath hdiffer)

theorem Opposite.exists_place (hsteps : Opposite h left right steps u v) :
    ∃ q : Place, Relation.ReflTransGen (Place.Within h) q (.both "" left right) ∧
      q.IsAt h left right steps ∧ q.left? = u ∧ q.right? = v := by
  induction hsteps with
  | root => exact ⟨_, .refl, ⟨.root, rfl⟩, rfl, rfl⟩
  | inside _ hinside ih =>
    obtain ⟨p, hpath, hat, hx, hy⟩ := ih
    obtain ⟨q, hwithin, hat, hu, hv⟩ := hat.exists_within hx hy hinside
    exact ⟨q, .head hwithin hpath, hat, hu, hv⟩

theorem Walks.mem_iff (hwalk : Walks h limit false [] [.both "" left right] all opened')
    {d : Difference} : d ∈ all ↔ ∃ steps u v, Opposite h left right steps u v ∧ Differ h u v ∧
      d = .shown h limit (pathText steps) u v := by
  constructor
  · exact hwalk.exists_position (isAt_root h left right) d
  · rintro ⟨steps, u, v, hsteps, hdiffer, rfl⟩
    obtain ⟨q, hpath, ⟨-, htext⟩, rfl, rfl⟩ := hsteps.exists_place
    exact htext ▸ hwalk.shown_mem _ (.head _) q hpath hdiffer

end Verdict
