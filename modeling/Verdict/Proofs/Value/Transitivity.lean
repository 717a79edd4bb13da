import Verdict.Proofs.Number.Rounding
import Verdict.Proofs.Value.Order

namespace Verdict

variable {h : Heap} {a b c : Value} {o p : Ordering}

-- Of two steps that do not go down, the first that goes up decides.
theorem cmp_trans {α : Type} (cmp : α → α → Ordering) [Std.TransCmp cmp] {x y z : α}
    (hxy : cmp x y ≠ .gt) (hyz : cmp y z ≠ .gt) : cmp x z = (cmp x y).then (cmp y z) := by
  cases hup : cmp x y with
  | gt => exact absurd hup hxy
  | eq => exact Std.TransCmp.congr_left hup
  | lt =>
    cases hup' : cmp y z with
    | gt => exact absurd hup' hyz
    | eq => exact Std.TransCmp.lt_of_lt_of_eq hup hup'
    | lt => exact Std.TransCmp.lt_trans hup hup'

theorem Moment.compare_trans {x y z : Moment} (hxy : x.compare y ≠ .gt) (hyz : y.compare z ≠ .gt) :
    x.compare z = (x.compare y).then (y.compare z) :=
  cmp_trans (compareLex (compareOn Moment.seconds) (compareOn Moment.nanos)) hxy hyz

-- How the first of three values stands to the last, if no step between them goes down: `o` and `p` are the two steps,
-- and `reaches` says how they compare.
inductive Carries (reaches : Ordering → Prop) (o p : Ordering) (hides sinks : Prop) : Prop where
  | up (hlt : reaches .lt)
  | level (heq : reaches .eq) (ho : o = .eq) (hp : p = .eq)
  -- a step goes up, but the first value is equal to the last
  | hidden (heq : reaches .eq) (hup : o.then p = .lt) (hhides : hides)
  | down (hsinks : sinks)

section

variable {reaches reaches' : Ordering → Prop} {hides hides' sinks sinks' : Prop}

theorem carries_of_then (hthen : reaches (o.then p)) (ho : o ≠ .gt) (hp : p ≠ .gt) :
    Carries reaches o p hides sinks := by
  cases o with
  | lt => exact .up hthen
  | gt => exact absurd rfl ho
  | eq =>
    cases p with
    | lt => exact .up hthen
    | eq => exact .level hthen rfl rfl
    | gt => exact absurd rfl hp

theorem Carries.imp (hcarries : Carries reaches o p hides sinks) (hreaches : ∀ q, reaches q → reaches' q)
    (hhides : hides → hides') (hsinks : sinks → sinks') : Carries reaches' o p hides' sinks' := by
  cases hcarries with
  | up hlt => exact .up (hreaches _ hlt)
  | level heq ho hp => exact .level (hreaches _ heq) ho hp
  | hidden heq hup hh => exact .hidden (hreaches _ heq) hup (hhides hh)
  | down hs => exact .down (hsinks hs)

end

-- Places in the order of doubles.
def placeOrder (p q : Int × Int) : Ordering := (compare p.1 q.1).then (compare p.2 q.2)

theorem placeOrder_trans {p q r : Int × Int} (hpq : placeOrder p q ≠ .gt) (hqr : placeOrder q r ≠ .gt) :
    placeOrder p r = (placeOrder p q).then (placeOrder q r) :=
  cmp_trans (compareLex (compareOn Prod.fst) (compareOn Prod.snd)) hpq hqr

theorem placeOrder_eq_eq_iff {p q : Int × Int} : placeOrder p q = .eq ↔ p = q := by
  rw [placeOrder, Ordering.then_eq_eq, compare_eq_iff_eq, compare_eq_iff_eq, Prod.ext_iff]

theorem placeOrder_swap (p q : Int × Int) : placeOrder q p = (placeOrder p q).swap := by
  rw [placeOrder, placeOrder, Ordering.swap_then, ← Std.OrientedOrd.eq_swap, ← Std.OrientedOrd.eq_swap]

theorem placeOrder_wholePlace_ne_gt {m n : Int} (hmn : m ≤ n) :
    placeOrder (Binary64.wholePlace m) (Binary64.wholePlace n) ≠ .gt := by
  rcases Binary64.wholePlace_mono hmn with hlt | ⟨heq, hle⟩
  · rw [placeOrder, compare_lt_iff_lt.2 hlt]
    exact nofun
  · rw [placeOrder, compare_eq_iff_eq.2 heq]
    exact compare_le_iff_le.2 hle

-- Rounding keeps the order of whole numbers, so that their places may come first among them too.
theorem compare_eq_placeOrder_then (m n : Int) : compare m n =
    (placeOrder (Binary64.wholePlace m) (Binary64.wholePlace n)).then (compare m n) := by
  rcases Int.lt_trichotomy m n with hlt | rfl | hgt
  · have hle := placeOrder_wholePlace_ne_gt hlt.le
    rw [compare_lt_iff_lt.2 hlt]
    cases hplace : placeOrder (Binary64.wholePlace m) (Binary64.wholePlace n) with
    | gt => exact absurd hplace hle
    | lt | eq => rfl
  · rw [placeOrder_eq_eq_iff.2 rfl]
    rfl
  · have hle := placeOrder_wholePlace_ne_gt hgt.le
    rw [compare_gt_iff_gt.2 hgt, placeOrder_swap (Binary64.wholePlace n)]
    cases hplace : placeOrder (Binary64.wholePlace n) (Binary64.wholePlace m) with
    | gt => exact absurd hplace hle
    | lt | eq => rfl

namespace Number

variable {x y z : Number}

-- The place of a number in the order of doubles, to which a whole number is rounded.
def place? : Number → Option (Int × Int)
  | .whole n => some (Binary64.wholePlace n)
  | .real x => x.rank

-- What still tells two numbers at one place apart.
def tie : Number → Number → Ordering
  | .whole m, .whole n => Ord.compare m n
  | _, _ => .eq

theorem compare_eq_some_iff : x.compare y = some o ↔
    ∃ p q, x.place? = some p ∧ y.place? = some q ∧ (placeOrder p q).then (x.tie y) = o := by
  have hreal (u v : Binary64) : u.compare v = some o ↔
      ∃ p q, u.rank = some p ∧ v.rank = some q ∧ (placeOrder p q).then .eq = o := by
    rw [Binary64.compare]
    cases u.rank <;> cases v.rank <;> simp [placeOrder]
  cases x with
  | whole m =>
    cases y with
    | whole n =>
      rw [Number.compare, Option.some_inj, compare_eq_placeOrder_then]
      simp [place?, tie]
    | real y => simpa [Number.compare, place?, tie, Binary64.rank_ofInt] using hreal (.ofInt m) y
  | real x =>
    cases y with
    | whole n => simpa [Number.compare, place?, tie, Binary64.rank_ofInt] using hreal x (.ofInt n)
    | real y => exact hreal x y

-- Both whole numbers are rounded to the double, which is equal to either of them.
def Rounds (m n : Int) (r : Binary64) : Prop :=
  (Number.whole m).compare (.real r) = some .eq ∧ (Number.whole n).compare (.real r) = some .eq

-- Whole numbers go up before or behind a double, which does not show it.
inductive Hides : Number → Number → Number → Prop where
  | before {m n : Int} {r : Binary64} (hlt : m < n) (hrounds : Rounds m n r) :
    Hides (.real r) (.whole m) (.whole n)
  | behind {m n : Int} {r : Binary64} (hlt : m < n) (hrounds : Rounds m n r) :
    Hides (.whole m) (.whole n) (.real r)

-- Whole numbers go down on two sides of a double.
inductive Sinks : Number → Number → Number → Prop where
  | between {m n : Int} {r : Binary64} (hlt : n < m) (hrounds : Rounds m n r) :
    Sinks (.whole m) (.real r) (.whole n)

theorem compare_real_eq_iff {m : Int} {r : Binary64} :
    (whole m).compare (.real r) = some .eq ↔ r.rank = some (Binary64.wholePlace m) := by
  rw [compare_eq_some_iff]
  simp [place?, tie, placeOrder_eq_eq_iff]

theorem rounds_of_place? {m n : Int} {r : Binary64} {q : Int × Int} (hm : (whole m).place? = some q)
    (hn : (whole n).place? = some q) (hr : (real r).place? = some q) : Rounds m n r := by
  constructor
  · rw [compare_real_eq_iff]
    exact hr.trans hm.symm
  · rw [compare_real_eq_iff]
    exact hr.trans hn.symm

-- At one place only whole numbers can differ, and a double is equal to all of them.
theorem carries_tie {q : Int × Int} (hx : x.place? = some q) (hy : y.place? = some q)
    (hz : z.place? = some q) (hxy : x.tie y ≠ .gt) (hyz : y.tie z ≠ .gt) :
    Carries (fun o => x.tie z = o) (x.tie y) (y.tie z) (x.Hides y z) (x.Sinks y z) := by
  cases x with
  | whole m =>
    cases y with
    | whole n =>
      cases z with
      | whole k => exact carries_of_then (cmp_trans Ord.compare hxy hyz) hxy hyz
      | real z =>
        change Carries _ (Ord.compare m n) .eq _ _
        cases hmn : Ord.compare m n with
        | lt => exact .hidden rfl rfl (.behind (compare_lt_iff_lt.1 hmn) (rounds_of_place? hx hy hz))
        | eq => exact .level rfl rfl rfl
        | gt => exact absurd hmn hxy
    | real y =>
      cases z with
      | whole k =>
        cases hmk : Ord.compare m k with
        | lt => exact .up hmk
        | eq => exact .level hmk rfl rfl
        | gt => exact .down (.between (compare_gt_iff_gt.1 hmk) (rounds_of_place? hx hz hy))
      | real z => exact .level rfl rfl rfl
  | real x =>
    cases y with
    | whole n =>
      cases z with
      | whole k =>
        change Carries _ .eq (Ord.compare n k) _ _
        cases hnk : Ord.compare n k with
        | lt => exact .hidden rfl rfl (.before (compare_lt_iff_lt.1 hnk) (rounds_of_place? hy hz hx))
        | eq => exact .level rfl rfl rfl
        | gt => exact absurd hnk hyz
      | real z => exact .level rfl rfl rfl
    | real y => cases z <;> exact .level rfl rfl rfl

theorem carries_compare (hxy : x.compare y = some o) (hyz : y.compare z = some p) (ho : o ≠ .gt)
    (hp : p ≠ .gt) :
    Carries (fun q => x.compare z = some q) o p (x.Hides y z) (x.Sinks y z) := by
  obtain ⟨q, q₁, hx, hy, rfl⟩ := compare_eq_some_iff.1 hxy
  obtain ⟨_, q₂, hy', hz, rfl⟩ := compare_eq_some_iff.1 hyz
  obtain rfl := Option.some_inj.1 (hy.symm.trans hy')
  have hup : placeOrder q q₁ ≠ .gt := fun hgt => ho (by rw [hgt]; rfl)
  have hup' : placeOrder q₁ q₂ ≠ .gt := fun hgt => hp (by rw [hgt]; rfl)
  have hplaces : placeOrder q q₂ = (placeOrder q q₁).then (placeOrder q₁ q₂) := placeOrder_trans hup hup'
  cases hplace : placeOrder q q₁ with
  | gt => exact absurd hplace hup
  | lt => exact .up (compare_eq_some_iff.2 ⟨q, q₂, hx, hz, by rw [hplaces, hplace]; rfl⟩)
  | eq =>
    cases hplace' : placeOrder q₁ q₂ with
    | gt => exact absurd hplace' hup'
    | lt => exact .up (compare_eq_some_iff.2 ⟨q, q₂, hx, hz, by rw [hplaces, hplace, hplace']; rfl⟩)
    | eq =>
      rw [hplace] at ho
      rw [hplace'] at hp
      obtain rfl := placeOrder_eq_eq_iff.1 hplace
      obtain rfl := placeOrder_eq_eq_iff.1 hplace'
      refine (carries_tie hx hy hz ho hp).imp (fun o htie => ?_) id id
      exact compare_eq_some_iff.2 ⟨q, q, hx, hz, by rw [hplace, ← htie]; rfl⟩

end Number

theorem CompareOp.lessOrEqual_iff :
    lessOrEqual.apply h a b = true ↔ ∃ o, a.order h b = .ok o ∧ o ≠ .gt := by
  cases hab : a.order h b with
  | error e => simp [apply, hab]
  | ok o => cases o <;> simp [apply, hab, accepts]

mutual

-- At the first place where the three values are not all equal, whole numbers go up before or behind a double. So the
-- first value is equal to the last, though one of the two steps goes up.
inductive Hides (h : Heap) : Value → Value → Value → Prop where
  | number {a b c : Value} {x y z : Number} (ha : a.number? = some x) (hb : b.number? = some y)
    (hc : c.number? = some z) (hxyz : x.Hides y z) : Hides h a b c
  | seq {xs ys zs : List Value} (hitems : ItemsHide h xs ys zs) :
    Hides h (.seq xs) (.seq ys) (.seq zs)

inductive ItemsHide (h : Heap) : List Value → List Value → List Value → Prop where
  | here {x y z : Value} {xs ys zs : List Value} (hxyz : Hides h x y z)
    (hrest : itemsOrder h xs zs = .ok .eq) : ItemsHide h (x :: xs) (y :: ys) (z :: zs)
  | later {x y z : Value} {xs ys zs : List Value} (hxy : x.order h y = .ok .eq)
    (hyz : y.order h z = .ok .eq) (hxz : x.order h z = .ok .eq) (hitems : ItemsHide h xs ys zs) :
    ItemsHide h (x :: xs) (y :: ys) (z :: zs)

end

mutual

-- At the first place where the three values are not all equal, whole numbers go down on two sides of a double. Or they
-- go up before or behind it, inside sequences where what follows then counts, and this does go down or has no order.
inductive Blurred (h : Heap) : Value → Value → Value → Prop where
  | number {a b c : Value} {x y z : Number} (ha : a.number? = some x) (hb : b.number? = some y)
    (hc : c.number? = some z) (hxyz : x.Sinks y z) : Blurred h a b c
  | seq {xs ys zs : List Value} (hitems : ItemsBlurred h xs ys zs) :
    Blurred h (.seq xs) (.seq ys) (.seq zs)

inductive ItemsBlurred (h : Heap) : List Value → List Value → List Value → Prop where
  | here {x y z : Value} {xs ys zs : List Value} (hxyz : Blurred h x y z) :
    ItemsBlurred h (x :: xs) (y :: ys) (z :: zs)
  | hidden {x y z : Value} {xs ys zs : List Value} (hxyz : Hides h x y z)
    (hrest : ¬CompareOp.lessOrEqual.apply h (.seq xs) (.seq zs) = true) :
    ItemsBlurred h (x :: xs) (y :: ys) (z :: zs)
  | later {x y z : Value} {xs ys zs : List Value} (hxy : x.order h y = .ok .eq)
    (hyz : y.order h z = .ok .eq) (hxz : x.order h z = .ok .eq) (hitems : ItemsBlurred h xs ys zs) :
    ItemsBlurred h (x :: xs) (y :: ys) (z :: zs)

end

theorem Hides.of_numbers {x y z : Number} (hhides : Hides h a b c) (ha : a.number? = some x)
    (hb : b.number? = some y) (hc : c.number? = some z) : x.Hides y z := by
  cases hhides with
  | number ha' hb' hc' hxyz =>
    obtain rfl := Option.some_inj.1 (ha.symm.trans ha')
    obtain rfl := Option.some_inj.1 (hb.symm.trans hb')
    obtain rfl := Option.some_inj.1 (hc.symm.trans hc')
    exact hxyz
  | seq => cases ha

theorem Blurred.sinks {x y z : Number} (hblurred : Blurred h a b c) (ha : a.number? = some x)
    (hb : b.number? = some y) (hc : c.number? = some z) : x.Sinks y z := by
  cases hblurred with
  | number ha' hb' hc' hxyz =>
    obtain rfl := Option.some_inj.1 (ha.symm.trans ha')
    obtain rfl := Option.some_inj.1 (hb.symm.trans hb')
    obtain rfl := Option.some_inj.1 (hc.symm.trans hc')
    exact hxyz
  | seq => cases ha

theorem exists_number_of_order {y : Number} (hb : b.number? = some y) (hbc : b.order h c = .ok p) :
    ∃ z, c.number? = some z ∧ y.compare z = some p := by
  cases hc : c.number? with
  | none =>
    rw [order_of_not_comparable] at hbc
    · cases hbc
    · intro hcomparable
      cases hcomparable <;> simp_all [Value.number?]
  | some z =>
    rw [order_of_number hb hc] at hbc
    split at hbc
    · rename_i hyz
      cases hbc
      exact ⟨z, rfl, hyz⟩
    · cases hbc

-- Items that do not go down either start with a pair that is equal, or with one that goes up.
theorem exists_head_of_itemsOrder {y : Value} {ys zs : List Value}
    (hitems : itemsOrder h (y :: ys) zs = .ok p) (hp : p ≠ .gt) :
    ∃ z zs', zs = z :: zs' ∧ (y.order h z = .ok .eq ∧ itemsOrder h ys zs' = .ok p ∨
      y.order h z = .ok .lt ∧ p = .lt) := by
  cases zs with
  | nil =>
    cases hitems
    exact absurd rfl hp
  | cons z zs =>
    refine ⟨z, zs, rfl, ?_⟩
    by_cases hyz : y.order h z = .ok .eq
    · rw [itemsOrder_cons_of_eq hyz] at hitems
      exact .inl ⟨hyz, hitems⟩
    · rw [itemsOrder_cons_of_ne hyz] at hitems
      cases p with
      | lt => exact .inr ⟨hitems, rfl⟩
      | eq => exact absurd hitems hyz
      | gt => exact absurd rfl hp

section

variable {x y z : Value} {xs ys zs : List Value} {o' p' : Ordering}

-- If a step between the first items goes up, what follows counts only where this does not show.
theorem carries_cons_of_up
    (hhead : Carries (fun q => x.order h z = .ok q) o p (Hides h x y z) (Blurred h x y z))
    (hup : o.then p = .lt) (hup' : o'.then p' = .lt) :
    Carries (fun q => itemsOrder h (x :: xs) (z :: zs) = .ok q) o' p'
      (ItemsHide h (x :: xs) (y :: ys) (z :: zs)) (ItemsBlurred h (x :: xs) (y :: ys) (z :: zs)) := by
  cases hhead with
  | up hlt => exact .up (by rw [itemsOrder_cons_of_ne (by simp [hlt]), hlt])
  | level _ ho hp =>
    rw [ho, hp] at hup
    cases hup
  | hidden heq _ hhides =>
    by_cases hrest : CompareOp.lessOrEqual.apply h (.seq xs) (.seq zs) = true
    · obtain ⟨q, hq, hle⟩ := CompareOp.lessOrEqual_iff.1 hrest
      have hwhole : itemsOrder h (x :: xs) (z :: zs) = .ok q := (itemsOrder_cons_of_eq heq).trans hq
      cases q with
      | lt => exact .up hwhole
      | eq => exact .hidden hwhole hup' (.here hhides hq)
      | gt => exact absurd rfl hle
    · exact .down (.hidden hhides hrest)
  | down hsinks => exact .down (.here hsinks)

theorem carries_cons_of_eq (hxy : x.order h y = .ok .eq) (hyz : y.order h z = .ok .eq)
    (hhead : Carries (fun q => x.order h z = .ok q) .eq .eq (Hides h x y z) (Blurred h x y z))
    (hrest : Carries (fun q => itemsOrder h xs zs = .ok q) o p (ItemsHide h xs ys zs)
      (ItemsBlurred h xs ys zs)) :
    Carries (fun q => itemsOrder h (x :: xs) (z :: zs) = .ok q) o p
      (ItemsHide h (x :: xs) (y :: ys) (z :: zs)) (ItemsBlurred h (x :: xs) (y :: ys) (z :: zs)) := by
  cases hhead with
  | up hlt => exact .up (by rw [itemsOrder_cons_of_ne (by simp [hlt]), hlt])
  | level heq _ _ =>
    exact hrest.imp (fun q hq => (itemsOrder_cons_of_eq heq).trans hq) (.later hxy hyz heq)
      (.later hxy hyz heq)
  | hidden _ hup _ => cases hup
  | down hsinks => exact .down (.here hsinks)

end

-- By induction along the first two values; the third is of the same kind, or it has no order.
theorem carries_order (hab : a.order h b = .ok o) (hbc : b.order h c = .ok p) (ho : o ≠ .gt)
    (hp : p ≠ .gt) :
    Carries (fun q => a.order h c = .ok q) o p (Hides h a b c) (Blurred h a b c) := by
  induction a, b using Value.order.induct h
    (motive_2 := fun xs ys => ∀ zs o p, itemsOrder h xs ys = .ok o → itemsOrder h ys zs = .ok p →
      o ≠ .gt → p ≠ .gt → Carries (fun q => itemsOrder h xs zs = .ok q) o p (ItemsHide h xs ys zs)
        (ItemsBlurred h xs ys zs))
    generalizing c o p with
  | case1 xs ys ih =>
    cases c with
    | seq zs => exact (ih zs o p hab hbc ho hp).imp (fun _ => id) .seq .seq
    | null | bool | int | uint | float | char | text | moment | object | raw => cases hbc
  | case2 a b =>
    cases c with
    | bool c =>
      cases hab
      cases hbc
      exact carries_of_then (congrArg Except.ok (cmp_trans Ord.compare ho hp)) ho hp
    | null | int | uint | float | char | text | moment | seq | object | raw => cases hbc
  | case3 a b =>
    cases c with
    | char c =>
      cases hab
      cases hbc
      exact carries_of_then (congrArg Except.ok (cmp_trans Ord.compare ho hp)) ho hp
    | null | bool | int | uint | float | text | moment | seq | object | raw => cases hbc
  | case4 a b =>
    cases c with
    | text c =>
      cases hab
      cases hbc
      exact carries_of_then (congrArg Except.ok (cmp_trans Ord.compare ho hp)) ho hp
    | null | bool | int | uint | float | char | moment | seq | object | raw => cases hbc
  | case5 a b =>
    cases c with
    | moment c =>
      cases hab
      cases hbc
      exact carries_of_then (congrArg Except.ok (Moment.compare_trans ho hp)) ho hp
    | null | bool | int | uint | float | char | text | seq | object | raw => cases hbc
  | case6 a b _ _ _ _ _ x y hb ha o' hxy =>
    rw [order_of_number ha hb, hxy] at hab
    cases hab
    obtain ⟨z, hc, hyz⟩ := exists_number_of_order hb hbc
    refine (Number.carries_compare hxy hyz ho hp).imp (fun q hq => ?_) (.number ha hb hc) (.number ha hb hc)
    rw [order_of_number ha hc, hq]
  | case7 a b _ _ _ _ _ x y hb ha hxy =>
    rw [order_of_number ha hb, hxy] at hab
    cases hab
  | case8 a b hseq hbool hchar htext hmoment hnumber =>
    rw [order_of_not_comparable (not_comparable hseq hbool hchar htext hmoment hnumber)] at hab
    cases hab
  | case9 zs o p hab hbc ho hp =>
    cases hab
    exact carries_of_then hbc ho hp
  | case10 y ys zs o p hab hbc ho hp =>
    cases hab
    cases zs with
    | nil =>
      cases hbc
      exact absurd rfl hp
    | cons z zs => exact .up rfl
  | case11 x xs zs o p hab hbc ho =>
    cases hab
    exact absurd rfl ho
  | case12 x xs y ys hxy ihx ihxs zs o p hab hbc ho hp =>
    rw [itemsOrder_cons_of_eq hxy] at hab
    obtain ⟨z, zs, rfl, ⟨hyz, hbc⟩ | ⟨hyz, rfl⟩⟩ := exists_head_of_itemsOrder hbc hp
    · exact carries_cons_of_eq hxy hyz (ihx hxy hyz (by decide) (by decide)) (ihxs zs o p hab hbc ho hp)
    · refine carries_cons_of_up (ihx hxy hyz (by decide) (by decide)) rfl ?_
      cases o with
      | lt | eq => rfl
      | gt => exact absurd rfl ho
  | case13 x xs y ys hxy ihx zs o p hab hbc ho hp =>
    rw [itemsOrder_cons_of_ne hxy] at hab
    have hlt : o = .lt := by
      cases o with
      | lt => rfl
      | eq => exact absurd hab hxy
      | gt => exact absurd rfl ho
    subst hlt
    obtain ⟨z, zs, rfl, ⟨hyz, -⟩ | ⟨hyz, -⟩⟩ := exists_head_of_itemsOrder hbc hp
    · exact carries_cons_of_up (ihx hab hyz ho (by decide)) rfl rfl
    · exact carries_cons_of_up (ihx hab hyz ho (by decide)) rfl rfl

theorem Number.Hides.compare_eq {x y z : Number} (hxyz : x.Hides y z) : x.compare z = some .eq := by
  cases hxyz with
  | behind _ hrounds => exact hrounds.1
  | @before m n r _ hrounds =>
    rw [Number.compare_swap (.whole n), hrounds.2]
    rfl

theorem Number.Sinks.compare_eq {x y z : Number} (hxyz : x.Sinks y z) : x.compare z = some .gt := by
  cases hxyz with
  | between hlt _ => rw [Number.compare, compare_gt_iff_gt.2 hlt]

theorem Hides.order_eq (hhides : Hides h a b c) : a.order h c = .ok .eq := by
  induction hhides using Hides.rec (motive_2 := fun xs _ zs _ => itemsOrder h xs zs = .ok .eq) with
  | number ha _ hc hxyz => rw [order_of_number ha hc, hxyz.compare_eq]
  | seq _ ih => exact ih
  | here _ hrest ih => exact (itemsOrder_cons_of_eq ih).trans hrest
  | later _ _ hxz _ ih => exact (itemsOrder_cons_of_eq hxz).trans ih

namespace CompareOp

theorem not_lessOrEqual_of_blurred (hblurred : Blurred h a b c) : ¬lessOrEqual.apply h a c = true := by
  induction hblurred using Blurred.rec
    (motive_2 := fun xs _ zs _ => ¬lessOrEqual.apply h (.seq xs) (.seq zs) = true) with
  | number ha _ hc hxyz =>
    rw [lessOrEqual_iff, order_of_number ha hc, hxyz.compare_eq]
    rintro ⟨o, ho, hle⟩
    cases ho
    exact hle rfl
  | seq _ ih => exact ih
  | @here x y z xs ys zs _ ih =>
    rw [lessOrEqual_iff] at ih ⊢
    rintro ⟨o, ho, hle⟩
    by_cases hxz : x.order h z = .ok .eq
    · exact ih ⟨.eq, hxz, nofun⟩
    · exact ih ⟨o, (itemsOrder_cons_of_ne hxz).symm.trans ho, hle⟩
  | @hidden x y z xs ys zs hxyz hrest =>
    rw [lessOrEqual_iff] at hrest ⊢
    rintro ⟨o, ho, hle⟩
    exact hrest ⟨o, (itemsOrder_cons_of_eq hxyz.order_eq).symm.trans ho, hle⟩
  | @later x y z xs ys zs _ _ hxz _ ih =>
    rw [lessOrEqual_iff] at ih ⊢
    rintro ⟨o, ho, hle⟩
    exact ih ⟨o, (itemsOrder_cons_of_eq hxz).symm.trans ho, hle⟩

-- Not going down carries over, unless the three values come to a place where different whole numbers are rounded into
-- one double and this makes the first value larger than the last. There it does not.
theorem lessOrEqual_trans (h : Heap) {a b c : Value} (hab : lessOrEqual.apply h a b = true)
    (hbc : lessOrEqual.apply h b c = true) : lessOrEqual.apply h a c = true ↔ ¬Blurred h a b c := by
  refine ⟨fun hac hblurred => not_lessOrEqual_of_blurred hblurred hac, fun hsharp => ?_⟩
  obtain ⟨o, hab, ho⟩ := lessOrEqual_iff.1 hab
  obtain ⟨p, hbc, hp⟩ := lessOrEqual_iff.1 hbc
  rw [lessOrEqual_iff]
  cases carries_order hab hbc ho hp with
  | up hlt => exact ⟨.lt, hlt, nofun⟩
  | level heq _ _ => exact ⟨.eq, heq, nofun⟩
  | hidden heq _ _ => exact ⟨.eq, heq, nofun⟩
  | down hblurred => exact absurd hblurred hsharp

-- The double 2^53.
def double : Value := .float (.ofInt 9007199254740992)

-- A double between whole numbers, one of them large, inside sequences.
theorem large_items_lessOrEqual :
    let a := Value.seq [.int 9007199254740992, .int 1]
    let b := Value.seq [double, double]
    let c := Value.seq [.uint 9007199254740992, .uint 9007199254740995]
    lessOrEqual.apply .empty a b = true ∧ lessOrEqual.apply .empty b c = true ∧
      ¬Blurred .empty a b c ∧ lessOrEqual.apply .empty a c = true := by
  intro a b c
  have hab : lessOrEqual.apply .empty a b = true := by decide +kernel
  have hbc : lessOrEqual.apply .empty b c = true := by decide +kernel
  have hsharp : ¬Blurred .empty a b c := by
    dsimp only [a, b, c]
    rintro (⟨ha, -⟩ | ⟨hitems⟩)
    · cases ha
    · -- The first numbers are equal, and the second ones go up.
      rcases hitems with ⟨hxyz⟩ | ⟨hxyz, -⟩ | ⟨-, -, -, hitems⟩
      · exact absurd (hxyz.sinks rfl rfl rfl).compare_eq (by decide +kernel)
      · cases hxyz.of_numbers rfl rfl rfl
      · rcases hitems with ⟨hxyz⟩ | ⟨hxyz, -⟩ | ⟨-, -, -, hitems⟩
        · exact absurd (hxyz.sinks rfl rfl rfl).compare_eq (by decide +kernel)
        · cases hxyz.of_numbers rfl rfl rfl
        · cases hitems
  exact ⟨hab, hbc, hsharp, (lessOrEqual_trans .empty hab hbc).2 hsharp⟩

-- The double 2^53 is equal to 2^53 + 1, which is rounded to it, and to 2^53.
theorem rounding_goes_down :
    ¬∀ (h : Heap) (a b c : Value), lessOrEqual.apply h a b = true → lessOrEqual.apply h b c = true →
      lessOrEqual.apply h a c = true := by
  intro htrans
  have hdown := htrans .empty (.int 9007199254740993) double (.int 9007199254740992)
    (by decide +kernel) (by decide +kernel)
  exact absurd hdown (by decide +kernel)

end CompareOp

end Verdict
