import Verdict.Value.Equality
import Verdict.Proofs.Number.Sameness
import Mathlib.Data.List.Forall2
import Mathlib.Order.Bounds.Basic

namespace Verdict

variable {h : Heap} {R S : Value → Value → Prop}

-- Two values agree on the face of it, and what is in them is related by `R`.
inductive Alike (h : Heap) (R : Value → Value → Prop) : Value → Value → Prop where
  | number {x y : Value} {m n : Number} (hx : x.number? = some m) (hy : y.number? = some n)
    (hsame : m.Same n) : Alike h R x y
  | null : Alike h R .null .null
  | bool {b : Bool} : Alike h R (.bool b) (.bool b)
  | char {c : Char} : Alike h R (.char c) (.char c)
  | text {s : String} : Alike h R (.text s) (.text s)
  | moment {m n : Moment} (hseconds : m.seconds = n.seconds) (hnanos : m.nanos = n.nanos) :
    Alike h R (.moment m) (.moment n)
  | raw {s : String} : Alike h R (.raw s) (.raw s)
  | seq {xs ys : List Value} (hitems : List.Forall₂ R xs ys) : Alike h R (.seq xs) (.seq ys)
  | same {a : Ref} : Alike h R (.object a) (.object a)
  | object {a b : Ref} (htype : h.typeName a = h.typeName b)
    (hcount : (h.fields a).length = (h.fields b).length)
    (hfields : ∀ f ∈ h.fields a, ∃ v, h.field? b f.1 = some v ∧ R f.2 v) :
    Alike h R (.object a) (.object b)

theorem Alike.mono (hsub : ∀ x y, R x y → S x y) {x y : Value} (halike : Alike h R x y) :
    Alike h S x y := by
  cases halike with
  | number hx hy hsame => exact .number hx hy hsame
  | null => exact .null
  | bool => exact .bool
  | char => exact .char
  | text => exact .text
  | moment hseconds hnanos => exact .moment hseconds hnanos
  | raw => exact .raw
  | seq hitems => exact .seq (hitems.imp hsub)
  | same => exact .same
  | object htype hcount hfields =>
    refine .object htype hcount fun f hf => ?_
    obtain ⟨v, hv, hr⟩ := hfields f hf
    exact ⟨v, hv, hsub _ _ hr⟩

-- Whatever the relation relates is alike, with what is in it related again.
def IsBisimulation (h : Heap) (R : Value → Value → Prop) : Prop :=
  ∀ x y, R x y → Alike h R x y

theorem Moment.compare_eq_eq_iff {m n : Moment} :
    m.compare n = .eq ↔ m.seconds = n.seconds ∧ m.nanos = n.nanos := by
  rw [Moment.compare, Ordering.then_eq_eq, compare_eq_iff_eq, compare_eq_iff_eq]

theorem alike_of_agrees {x y : Value} (hagrees : x.agrees y = true) : Alike h R x y := by
  rw [Value.agrees.eq_def] at hagrees
  split at hagrees
  · exact .null
  · obtain rfl := beq_iff_eq.1 hagrees
    exact .bool
  · obtain rfl := beq_iff_eq.1 hagrees
    exact .char
  · obtain rfl := beq_iff_eq.1 hagrees
    exact .text
  · obtain ⟨hseconds, hnanos⟩ := Moment.compare_eq_eq_iff.1 (beq_iff_eq.1 hagrees)
    exact .moment hseconds hnanos
  · obtain rfl := beq_iff_eq.1 hagrees
    exact .raw
  · split at hagrees
    · rename_i m n hx hy
      exact .number hx hy (Number.compare_eq_eq_iff_same.1 (beq_iff_eq.1 hagrees))
    · cases hagrees

theorem agrees_of_number {x y : Value} {m n : Number} (hx : x.number? = some m)
    (hy : y.number? = some n) : x.agrees y = (m.compare n == some .eq) := by
  cases x <;> cases hx <;> cases y <;> cases hy <;> rfl

theorem agrees_of_alike {x y : Value} (halike : Alike h R x y)
    (hseq : ∀ xs ys, x = .seq xs → y = .seq ys → False)
    (hobject : ∀ a b, x = .object a → y = .object b → False) : x.agrees y = true := by
  cases halike with
  | number hx hy hsame =>
    rw [agrees_of_number hx hy, Number.compare_eq_eq_iff_same.2 hsame]
    rfl
  | null => rfl
  | bool => exact beq_self_eq_true _
  | char => exact beq_self_eq_true _
  | text => exact beq_self_eq_true _
  | moment hseconds hnanos => exact beq_iff_eq.2 (Moment.compare_eq_eq_iff.2 ⟨hseconds, hnanos⟩)
  | raw => exact beq_self_eq_true _
  | seq hitems => exact (hseq _ _ rfl rfl).elim
  | same => exact (hobject _ _ rfl rfl).elim
  | object htype hcount hfields => exact (hobject _ _ rfl rfl).elim

theorem exists_mapM_lookup_iff (left right : List (String × Value)) :
    (∃ pairs, (left.mapM fun f => (right.lookup f.1).map fun v => (f.2, v)) = some pairs ∧
      ∀ p ∈ pairs, R p.1 p.2) ↔ ∀ f ∈ left, ∃ v, right.lookup f.1 = some v ∧ R f.2 v := by
  induction left with
  | nil => simp
  | cons f left ih =>
    rw [List.forall_mem_cons, ← ih, List.mapM_cons]
    constructor
    · rintro ⟨pairs, hpairs, hrelated⟩
      simp only [Option.bind_eq_bind, Option.bind_eq_some_iff, Option.map_eq_some_iff, Option.pure_def,
        Option.some_inj] at hpairs
      obtain ⟨p, ⟨v, hv, rfl⟩, rest, hrest, rfl⟩ := hpairs
      obtain ⟨hfirst, hrelated⟩ := List.forall_mem_cons.1 hrelated
      exact ⟨⟨v, hv, hfirst⟩, rest, hrest, hrelated⟩
    · rintro ⟨⟨v, hv, hfirst⟩, rest, hrest, hrelated⟩
      refine ⟨(f.2, v) :: rest, ?_, List.forall_mem_cons.2 ⟨hfirst, hrelated⟩⟩
      rw [hv, hrest]
      rfl

theorem alike_object_iff {a b : Ref} :
    Alike h R (.object a) (.object b) ↔
      a = b ∨ ∃ pairs, h.counterparts a b = some pairs ∧ ∀ p ∈ pairs, R p.1 p.2 := by
  constructor
  · intro halike
    cases halike with
    | number hx => cases hx
    | same => exact .inl rfl
    | object htype hcount hfields =>
      rw [Heap.counterparts, if_pos ⟨htype, hcount⟩]
      exact .inr ((exists_mapM_lookup_iff _ _).2 hfields)
  · rintro (rfl | ⟨pairs, hpairs, hrelated⟩)
    · exact .same
    · rw [Heap.counterparts] at hpairs
      split at hpairs
      · rename_i hshape
        exact .object hshape.1 hshape.2
          ((exists_mapM_lookup_iff _ _).1 ⟨pairs, hpairs, hrelated⟩)
      · cases hpairs

-- Whatever the relation relates is alike, or is a pair of objects that was looked at before.
def AlikeBut (h : Heap) (seen : List (Ref × Ref)) (R : Value → Value → Prop) : Prop :=
  ∀ x y, R x y → Alike h R x y ∨ ∃ p ∈ seen, x = .object p.1 ∧ y = .object p.2

namespace AlikeBut

variable {seen : List (Ref × Ref)} {rest : List (Value × Value)} {x y : Value} {a b : Ref}

theorem with_pair (hbut : AlikeBut h seen R) (hrest : ∀ p ∈ rest, R p.1 p.2)
    (hxy : Alike h R x y ∨ ∃ p ∈ seen, x = .object p.1 ∧ y = .object p.2) :
    ∃ S, AlikeBut h seen S ∧ ∀ p ∈ (x, y) :: rest, S p.1 p.2 := by
  refine ⟨fun x' y' => R x' y' ∨ x' = x ∧ y' = y, ?_,
    List.forall_mem_cons.2 ⟨.inr ⟨rfl, rfl⟩, fun p hp => .inl (hrest p hp)⟩⟩
  have hsub : ∀ x' y', R x' y' → R x' y' ∨ x' = x ∧ y' = y := fun _ _ => .inl
  rintro x' y' (hr | ⟨rfl, rfl⟩)
  · exact (hbut x' y' hr).imp_left (·.mono hsub)
  · exact hxy.imp_left (·.mono hsub)

-- A pair that is found to be alike need not be excepted.
theorem of_alike (hbut : AlikeBut h ((a, b) :: seen) R)
    (halike : Alike h R (.object a) (.object b)) : AlikeBut h seen R := by
  intro x y hr
  rcases hbut x y hr with hxy | ⟨p, hp, rfl, rfl⟩
  · exact .inl hxy
  · rcases List.mem_cons.1 hp with rfl | hp
    · exact .inl halike
    · exact .inr ⟨p, hp, rfl, rfl⟩

end AlikeBut

-- A comparison that finds no difference has come across pairs that are alike, but for those it was told
-- of beforehand.
theorem exists_alikeBut {seen : List (Ref × Ref)} {todo : List (Value × Value)}
    (hequal : h.allEqual seen todo = true) :
    ∃ R, AlikeBut h seen R ∧ ∀ p ∈ todo, R p.1 p.2 := by
  fun_induction Heap.allEqual h seen todo with
  | case1 seen => exact ⟨fun _ _ => False, fun _ _ hr => hr.elim, fun p hp => nomatch hp⟩
  | case2 seen rest xs ys ih =>
    obtain ⟨hlen, hequal⟩ := Bool.and_eq_true_iff.1 hequal
    obtain ⟨R, hbut, hrelated⟩ := ih hequal
    obtain ⟨hitems, hrest⟩ := List.forall_mem_append.1 hrelated
    refine hbut.with_pair hrest (.inl (.seq (List.forall₂_iff_zip.2 ⟨beq_iff_eq.1 hlen, ?_⟩)))
    exact fun hxy => hitems _ hxy
  | case3 seen rest a b hknown ih =>
    obtain ⟨R, hbut, hrest⟩ := ih hequal
    refine hbut.with_pair hrest ?_
    rcases hknown with rfl | hseen
    · exact .inl .same
    · exact .inr ⟨(a, b), hseen, rfl, rfl⟩
  | case4 seen rest a b hnew pairs hpairs ih =>
    obtain ⟨R, hbut, hrelated⟩ := ih hequal
    obtain ⟨hrelated, hrest⟩ := List.forall_mem_append.1 hrelated
    have halike : Alike h R (.object a) (.object b) := alike_object_iff.2 (.inr ⟨pairs, hpairs, hrelated⟩)
    exact (hbut.of_alike halike).with_pair hrest (.inl halike)
  | case5 seen rest a b hnew hpairs => cases hequal
  | case6 seen rest x y hseq hobject ih =>
    obtain ⟨hagrees, hequal⟩ := Bool.and_eq_true_iff.1 hequal
    obtain ⟨R, hbut, hrest⟩ := ih hequal
    exact hbut.with_pair hrest (.inl (alike_of_agrees hagrees))

-- Whatever pairs of objects it takes for equal, a comparison finds no difference within a bisimulation.
theorem allEqual_of_isBisimulation (hR : IsBisimulation h R) (seen : List (Ref × Ref))
    {todo : List (Value × Value)} (hrelated : ∀ p ∈ todo, R p.1 p.2) :
    h.allEqual seen todo = true := by
  fun_induction Heap.allEqual h seen todo with
  | case1 seen => rfl
  | case2 seen rest xs ys ih =>
    obtain ⟨hfirst, hrest⟩ := List.forall_mem_cons.1 hrelated
    cases hR _ _ hfirst with
    | number hx => cases hx
    | seq hitems =>
      have hzip : ∀ p ∈ xs.zip ys, R p.1 p.2 := fun p hp => List.forall₂_zip hitems hp
      rw [ih (List.forall_mem_append.2 ⟨hzip, hrest⟩), hitems.length_eq, beq_self_eq_true]
      rfl
  | case3 seen rest a b hknown ih => exact ih (List.forall_mem_cons.1 hrelated).2
  | case4 seen rest a b hnew pairs hpairs ih =>
    obtain ⟨hfirst, hrest⟩ := List.forall_mem_cons.1 hrelated
    rcases alike_object_iff.1 (hR _ _ hfirst) with rfl | ⟨pairs', hpairs', hcounterparts⟩
    · exact absurd (.inl rfl) hnew
    · obtain rfl : pairs' = pairs := Option.some_inj.1 (hpairs'.symm.trans hpairs)
      exact ih (List.forall_mem_append.2 ⟨hcounterparts, hrest⟩)
  | case5 seen rest a b hnew hpairs =>
    rcases alike_object_iff.1 (hR _ _ (List.forall_mem_cons.1 hrelated).1) with
      rfl | ⟨pairs, hpairs', -⟩
    · exact absurd (.inl rfl) hnew
    · rw [hpairs] at hpairs'
      cases hpairs'
  | case6 seen rest x y hseq hobject ih =>
    obtain ⟨hfirst, hrest⟩ := List.forall_mem_cons.1 hrelated
    rw [ih hrest, agrees_of_alike (hR _ _ hfirst) hseq hobject]
    rfl

theorem allEqual_iff_exists_isBisimulation {todo : List (Value × Value)} :
    h.allEqual [] todo = true ↔ ∃ R, IsBisimulation h R ∧ ∀ p ∈ todo, R p.1 p.2 := by
  constructor
  · intro hequal
    obtain ⟨R, hbut, hrelated⟩ := exists_alikeBut hequal
    refine ⟨R, fun x y hr => ?_, hrelated⟩
    rcases hbut x y hr with halike | ⟨p, hp, -⟩
    · exact halike
    · cases hp
  · rintro ⟨R, hR, hrelated⟩
    exact allEqual_of_isBisimulation hR [] hrelated

theorem equals_iff_exists_isBisimulation {x y : Value} :
    x.equals h y = true ↔ ∃ R, IsBisimulation h R ∧ R x y := by
  rw [Value.equals, allEqual_iff_exists_isBisimulation]
  simp only [List.forall_mem_singleton]

theorem isBisimulation_equals (h : Heap) : IsBisimulation h fun x y => x.equals h y = true := by
  intro x y hequal
  obtain ⟨R, hR, hr⟩ := equals_iff_exists_isBisimulation.1 hequal
  exact (hR x y hr).mono fun x' y' hr' => equals_iff_exists_isBisimulation.2 ⟨R, hR, hr'⟩

-- Equality is all that it takes of what is in two values to tell whether they are equal.
theorem equals_iff_alike {x y : Value} :
    x.equals h y = true ↔ Alike h (fun x y => x.equals h y = true) x y := by
  refine ⟨isBisimulation_equals h x y, fun halike => ?_⟩
  -- Relating the two values as well leaves a bisimulation.
  refine equals_iff_exists_isBisimulation.2
    ⟨fun x y => x.equals h y = true ∨ Alike h (fun x y => x.equals h y = true) x y, ?_, .inr halike⟩
  have hsub : ∀ x y, x.equals h y = true →
      x.equals h y = true ∨ Alike h (fun x y => x.equals h y = true) x y := fun _ _ => .inl
  rintro x y (hequal | halike)
  · exact (isBisimulation_equals h x y hequal).mono hsub
  · exact halike.mono hsub

theorem equals_seq_iff {xs ys : List Value} : (Value.seq xs).equals h (.seq ys) = true ↔
    List.Forall₂ (fun x y => x.equals h y = true) xs ys := by
  rw [equals_iff_alike]
  constructor
  · intro halike
    cases halike with
    | number hx => cases hx
    | seq hitems => exact hitems
  · exact .seq

-- Equality is the greatest bisimulation, and what was compared before in the same comparison changes
-- no answer: pairs compared one after another are equal if each is on its own.
theorem equals_greatest_bisimulation (h : Heap) :
    IsGreatest {R | IsBisimulation h R} (fun x y => x.equals h y = true) ∧
    ∀ todo : List (Value × Value),
      h.allEqual [] todo = true ↔ ∀ p ∈ todo, p.1.equals h p.2 = true := by
  refine ⟨⟨isBisimulation_equals h, fun R hR x y hr => ?_⟩, fun todo => ⟨fun hequal p hp => ?_, ?_⟩⟩
  · exact equals_iff_exists_isBisimulation.2 ⟨R, hR, hr⟩
  · obtain ⟨R, hR, hrelated⟩ := allEqual_iff_exists_isBisimulation.1 hequal
    exact equals_iff_exists_isBisimulation.2 ⟨R, hR, hrelated p hp⟩
  · exact allEqual_of_isBisimulation (isBisimulation_equals h) []

-- Two objects that each lead back to themselves are equal.
example : (Value.object 0).equals
    ⟨#[⟨"Node", [("next", .object 0)]⟩, ⟨"Node", [("next", .object 1)]⟩]⟩ (.object 1) = true := by cbv

end Verdict
