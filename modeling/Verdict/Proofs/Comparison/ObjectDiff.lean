import Verdict.Comparison.Dispatch
import Verdict.Proofs.Value.Bisimulation

namespace Verdict

variable {h : Heap} {left right : Value} {limit : Nat} {seen : List (Ref × Ref)}

-- Two values that stand at the same place of `left` and `right`.
inductive Meets (h : Heap) (left right : Value) : Value → Value → Prop where
  | root : Meets h left right left right
  | item {xs ys : List Value} {x y : Value} (hmeet : Meets h left right (.seq xs) (.seq ys))
    (hitem : (x, y) ∈ xs.zip ys) : Meets h left right x y
  | field {a b : Ref} {f : String × Value} {v : Value}
    (hmeet : Meets h left right (.object a) (.object b)) (hf : f ∈ h.fields a)
    (hv : h.field? b f.1 = some v) : Meets h left right f.2 v

-- What equality asks of two objects beyond their fields: the type name, and as many fields, which can still fail if
-- both have the same names.
structure SameOutline (h : Heap) (a b : Ref) : Prop where
  typeName_eq : h.typeName a = h.typeName b
  length_eq : (∀ name, name ∈ (h.fields a).map Prod.fst ↔ name ∈ (h.fields b).map Prod.fst) →
    (h.fields a).length = (h.fields b).length

-- It takes a name that occurs more than once.
theorem sameOutline_of_nodup {a b : Ref} (htype : h.typeName a = h.typeName b)
    (ha : ((h.fields a).map Prod.fst).Nodup) (hb : ((h.fields b).map Prod.fst).Nodup) : SameOutline h a b := by
  refine ⟨htype, fun hnames => ?_⟩
  have hperm := (List.perm_ext_iff_of_nodup ha hb).2 hnames
  simpa using hperm.length_eq

def Place.pair? : Place → Option (Value × Value)
  | .both _ left right => some (left, right)
  | .leftOnly .. | .rightOnly .. => none

-- The pairs of values at the places that both sides have.
def sharedPairs (places : List Place) : List (Value × Value) := places.filterMap Place.pair?

@[simp] theorem sharedPairs_both_cons (path : String) (x y : Value) (rest : List Place) :
    sharedPairs (.both path x y :: rest) = (x, y) :: sharedPairs rest := rfl

@[simp] theorem sharedPairs_append (ps qs : List Place) :
    sharedPairs (ps ++ qs) = sharedPairs ps ++ sharedPairs qs :=
  List.filterMap_append

@[simp] theorem sharedPairs_itemPlaces (path : String) (i : Nat) (xs ys : List Value) :
    sharedPairs (itemPlaces path i xs ys) = xs.zip ys := by
  fun_induction itemPlaces path i xs ys with
  | case1 => rfl
  | case2 i x xs ih => simpa [sharedPairs, Place.pair?] using ih
  | case3 i y ys ih => simpa [sharedPairs, Place.pair?] using ih
  | case4 i x xs y ys ih => rw [sharedPairs_both_cons, ih, List.zip_cons_cons]

theorem mem_sharedPairs_fieldPlaces {path : String} {ls rs : List (String × Value)} {p : Value × Value} :
    p ∈ sharedPairs (fieldPlaces path ls rs) ↔ ∃ f ∈ ls, f.2 = p.1 ∧ rs.lookup f.1 = some p.2 := by
  obtain ⟨x, y⟩ := p
  simp only [sharedPairs, fieldPlaces, List.mem_filterMap, List.mem_append, List.mem_map]
  constructor
  · rintro ⟨place, ⟨f, hf, rfl⟩ | ⟨f, hf, rfl⟩, hpair⟩
    · cases hv : rs.lookup f.1 with
      | none => simp [hv, Place.pair?] at hpair
      | some v =>
        obtain ⟨rfl, rfl⟩ : f.2 = x ∧ v = y := by simpa [hv, Place.pair?] using hpair
        exact ⟨f, hf, rfl, hv⟩
    · cases hpair
  · rintro ⟨f, hf, rfl, hv⟩
    exact ⟨.both (fieldPath path f.1) f.2 y, .inl ⟨f, hf, by rw [hv]⟩, rfl⟩

-- A walk that finds nothing comes across no place that one side lacks.
theorem isSome_pair_of_differences {todo : List Place} (hnone : h.differences limit seen todo = []) :
    ∀ p ∈ todo, p.pair?.isSome := by
  fun_induction Heap.differences h limit seen todo with
  | case1 => exact fun p hp => nomatch hp
  | case2 | case3 => cases hnone
  | case4 seen path rest a b hknown ih => exact List.forall_mem_cons.2 ⟨rfl, ih hnone⟩
  | case5 seen path rest a b hnew ih | case6 seen path rest xs ys ih =>
    exact List.forall_mem_cons.2 ⟨rfl, (List.forall_mem_append.1 (ih hnone)).2⟩
  | case7 seen path rest x y hobject hseq hequal ih => exact List.forall_mem_cons.2 ⟨rfl, ih hnone⟩
  | case8 => cases hnone

theorem length_eq_of_isSome_pair {path : String} {i : Nat} {xs ys : List Value}
    (hboth : ∀ p ∈ itemPlaces path i xs ys, p.pair?.isSome) : xs.length = ys.length := by
  fun_induction itemPlaces path i xs ys with
  | case1 => rfl
  | case2 | case3 => cases (List.forall_mem_cons.1 hboth).1
  | case4 i x xs y ys ih =>
    rw [List.length_cons, List.length_cons, ih (List.forall_mem_cons.1 hboth).2]

theorem exists_lookup_of_isSome_pair {path : String} {ls rs : List (String × Value)}
    (hboth : ∀ p ∈ fieldPlaces path ls rs, p.pair?.isSome) {f : String × Value} (hf : f ∈ ls) :
    ∃ v, rs.lookup f.1 = some v := by
  have hplace := hboth _ (List.mem_append_left _ (List.mem_map_of_mem hf))
  cases hv : rs.lookup f.1 with
  | none => simp [hv, Place.pair?] at hplace
  | some v => exact ⟨v, rfl⟩

theorem mem_names_iff_of_isSome_pair {path : String} {ls rs : List (String × Value)}
    (hboth : ∀ p ∈ fieldPlaces path ls rs, p.pair?.isSome) (name : String) :
    name ∈ ls.map Prod.fst ↔ name ∈ rs.map Prod.fst := by
  constructor
  · intro hname
    obtain ⟨f, hf, rfl⟩ := List.mem_map.1 hname
    obtain ⟨v, hv⟩ := exists_lookup_of_isSome_pair hboth hf
    obtain ⟨front, back, rfl, -⟩ := List.lookup_eq_some_iff.1 hv
    have hfound : (f.1, v) ∈ front ++ (f.1, v) :: back := List.mem_append_right front List.mem_cons_self
    exact List.mem_map.2 ⟨_, hfound, rfl⟩
  · intro hname
    obtain ⟨f, hf, rfl⟩ := List.mem_map.1 hname
    by_contra hmissing
    -- A name that only the right side has would be a place of its own.
    have hnone : ls.any (fun g => g.1 == f.1) = false :=
      List.any_eq_false.2 fun g hg hsame => hmissing (List.mem_map.2 ⟨g, hg, beq_iff_eq.1 hsame⟩)
    have hright : f ∈ rs.filter fun f => !ls.any fun g => g.1 == f.1 :=
      List.mem_filter.2 ⟨hf, by rw [hnone]; rfl⟩
    exact absurd (hboth _ (List.mem_append_right _ (List.mem_map_of_mem hright))) Bool.false_ne_true

-- A walk that finds nothing has come across pairs that are alike, but for those it was told of beforehand.
-- The invariant is that all the places left are places of the two roots, so that what is assumed of the
-- objects that meet in these is at hand for every pair of objects the walk opens.
theorem exists_alikeBut_of_differences {todo : List Place}
    (houtline : ∀ a b, Meets h left right (.object a) (.object b) → SameOutline h a b)
    (hmeet : ∀ p ∈ sharedPairs todo, Meets h left right p.1 p.2)
    (hnone : h.differences limit seen todo = []) :
    ∃ R, AlikeBut h seen R ∧ ∀ p ∈ sharedPairs todo, R p.1 p.2 := by
  have hboth := isSome_pair_of_differences hnone
  fun_induction Heap.differences h limit seen todo with
  | case1 seen => exact ⟨fun _ _ => False, fun _ _ hr => hr.elim, fun p hp => nomatch hp⟩
  | case2 | case3 => cases hnone
  | case4 seen path rest a b hknown ih =>
    obtain ⟨R, hbut, hrest⟩ := ih (List.forall_mem_cons.1 hmeet).2 hnone (List.forall_mem_cons.1 hboth).2
    refine hbut.with_pair hrest ?_
    rcases hknown with rfl | hseen
    · exact .inl .same
    · exact .inr ⟨(a, b), hseen, rfl, rfl⟩
  | case5 seen path rest a b hnew ih =>
    obtain ⟨hfirst, hmeet⟩ := List.forall_mem_cons.1 hmeet
    have hboth := isSome_pair_of_differences hnone
    have hfields : ∀ p ∈ sharedPairs (fieldPlaces path (h.fields a) (h.fields b)),
        Meets h left right p.1 p.2 := by
      intro p hp
      obtain ⟨f, hf, hp1, hv⟩ := mem_sharedPairs_fieldPlaces.1 hp
      exact hp1 ▸ .field hfirst hf hv
    rw [sharedPairs_append] at ih
    obtain ⟨R, hbut, hrelated⟩ := ih (List.forall_mem_append.2 ⟨hfields, hmeet⟩) hnone hboth
    obtain ⟨hrelated, hrest⟩ := List.forall_mem_append.1 hrelated
    obtain ⟨htype, hcount⟩ := houtline a b hfirst
    have hcount := hcount (mem_names_iff_of_isSome_pair (List.forall_mem_append.1 hboth).1)
    have halike : Alike h R (.object a) (.object b) := .object htype hcount fun f hf => by
      obtain ⟨v, hv⟩ := exists_lookup_of_isSome_pair (List.forall_mem_append.1 hboth).1 hf
      exact ⟨v, hv, hrelated (f.2, v) (mem_sharedPairs_fieldPlaces.2 ⟨f, hf, rfl, hv⟩)⟩
    exact (hbut.of_alike halike).with_pair hrest (.inl halike)
  | case6 seen path rest xs ys ih =>
    obtain ⟨hfirst, hmeet⟩ := List.forall_mem_cons.1 hmeet
    have hboth := isSome_pair_of_differences hnone
    have hitems : ∀ p ∈ xs.zip ys, Meets h left right p.1 p.2 := fun p hp => .item hfirst hp
    rw [sharedPairs_append, sharedPairs_itemPlaces] at ih
    obtain ⟨R, hbut, hrelated⟩ := ih (List.forall_mem_append.2 ⟨hitems, hmeet⟩) hnone hboth
    obtain ⟨hrelated, hrest⟩ := List.forall_mem_append.1 hrelated
    have hlen := length_eq_of_isSome_pair (List.forall_mem_append.1 hboth).1
    exact hbut.with_pair hrest (.inl (.seq (List.forall₂_iff_zip.2 ⟨hlen, fun hxy => hrelated _ hxy⟩)))
  | case7 seen path rest x y hobject hseq hequal ih =>
    obtain ⟨R, hbut, hrest⟩ := ih (List.forall_mem_cons.1 hmeet).2 hnone (List.forall_mem_cons.1 hboth).2
    have hagrees := agrees_of_alike (isBisimulation_equals h x y hequal) hseq hobject
    exact hbut.with_pair hrest (.inl (alike_of_agrees hagrees))
  | case8 => cases hnone

theorem equals_of_differences_eq_nil
    (houtline : ∀ a b, Meets h left right (.object a) (.object b) → SameOutline h a b)
    (hnone : h.differences limit [] [.both "" left right] = []) : left.equals h right = true := by
  have hroot : ∀ p ∈ sharedPairs [.both "" left right], Meets h left right p.1 p.2 :=
    List.forall_mem_singleton.2 .root
  obtain ⟨R, hbut, hrelated⟩ := exists_alikeBut_of_differences houtline hroot hnone
  refine equals_iff_exists_isBisimulation.2 ⟨R, fun x y hr => ?_, hrelated (left, right) (.head _)⟩
  rcases hbut x y hr with halike | ⟨p, hp, -⟩
  · exact halike
  · cases hp

-- What a report on objects records: the differences it lists and those it only counts.
def Comparison.recorded : Comparison → Nat
  | .object _ _ differences truncated => differences.length + truncated
  | _ => 0

theorem recorded_compareObjects (config : Config) :
    (compareObjects h config left right).recorded =
      (h.differences config.previewItems [] [.both "" left right]).length := by
  simp only [compareObjects, Comparison.recorded, List.length_take]
  omega

-- Whenever the deep comparison is chosen for values that differ, its report records a difference, unless
-- the values have two objects at the same place whose type names differ, or which have the same names but not equally
-- many fields.
theorem object_report_records_difference (config : Config) (l r : Operand)
    (hstrategy : Strategy.select l r = .object) (hne : l.value.equals h r.value = false)
    (houtline : ∀ a b, Meets h l.value r.value (.object a) (.object b) → SameOutline h a b) :
    (compareOperands h config l r).strategy = .object ∧
      1 ≤ (compareOperands h config l r).recorded := by
  have hreport : compareOperands h config l r = compareObjects h config l.value r.value := by
    rw [compareOperands, hstrategy]
  rw [hreport, recorded_compareObjects]
  refine ⟨rfl, List.length_pos_iff.2 fun hnone => ?_⟩
  rw [equals_of_differences_eq_nil houtline hnone] at hne
  cases hne

-- Two lists that lead back to themselves, with different values in them.
def twoLoops : Heap :=
  ⟨#[⟨"Node", [("value", .int 1), ("next", .object 0)]⟩,
    ⟨"Node", [("value", .int 2), ("next", .object 1)]⟩]⟩

theorem two_loops_record_difference :
    (Value.object 0).equals twoLoops (.object 1) = false ∧
      1 ≤ (compareOperands twoLoops .standard (.untyped (.object 0)) (.untyped (.object 1))).recorded := by
  have hpairs : twoLoops.counterparts 0 1 = some [(.int 1, .int 2), (.object 0, .object 1)] := rfl
  have hne : (Value.object 0).equals twoLoops (.object 1) = false := by
    rw [Value.equals, Heap.allEqual, if_neg (by decide)]
    split
    case h_1 pairs hsome =>
      obtain rfl := Option.some_inj.1 (hpairs.symm.trans hsome)
      rw [List.cons_append, Heap.allEqual]
      · rfl
      · simp
      · simp
    case h_2 => rfl
  have hmeet : ∀ x y, Meets twoLoops (.object 0) (.object 1) x y →
      x = .object 0 ∧ y = .object 1 ∨ x = .int 1 ∧ y = .int 2 := by
    intro x y hxy
    induction hxy with
    | root => exact .inl ⟨rfl, rfl⟩
    | item _ _ ih => simp at ih
    | @field a b f v _ hf hv ih =>
      obtain ⟨⟨⟩, ⟨⟩⟩ | ⟨⟨⟩, -⟩ := ih
      obtain rfl | rfl : f = ("value", .int 1) ∨ f = ("next", .object 0) := by
        simpa [twoLoops, Heap.fields, Heap.record] using hf
      · exact .inr ⟨rfl, (Option.some_inj.1 hv).symm⟩
      · exact .inl ⟨rfl, (Option.some_inj.1 hv).symm⟩
  refine ⟨hne, (object_report_records_difference .standard _ _ rfl hne fun a b hab => ?_).2⟩
  obtain ⟨⟨⟩, ⟨⟩⟩ | ⟨⟨⟩, -⟩ := hmeet _ _ hab
  exact sameOutline_of_nodup rfl (by decide) (by decide)

-- An object, one of another type with the same fields, and one that has its field twice.
def threeAlike : Heap :=
  ⟨#[⟨"P", [("x", .int 1)]⟩, ⟨"Q", [("x", .int 1)]⟩, ⟨"P", [("x", .int 1), ("x", .int 1)]⟩]⟩

-- The deep comparison goes by the fields alone.
theorem retyped_or_repeated_records_nothing :
    Strategy.select (.untyped (.object 0)) (.untyped (.object 1)) = .object ∧
      (Value.object 0).equals threeAlike (.object 1) = false ∧
      (compareOperands threeAlike .standard (.untyped (.object 0)) (.untyped (.object 1))).recorded = 0 ∧
      Strategy.select (.untyped (.object 0)) (.untyped (.object 2)) = .object ∧
      (Value.object 0).equals threeAlike (.object 2) = false ∧
      (compareOperands threeAlike .standard (.untyped (.object 0)) (.untyped (.object 2))).recorded = 0 := by
  have hunequal (r : Ref) (hr : 0 ≠ r) (hshape : threeAlike.counterparts 0 r = none) :
      (Value.object 0).equals threeAlike (.object r) = false := by
    rw [Value.equals, Heap.allEqual, if_neg (by simp [hr])]
    split
    case h_1 pairs hsome =>
      rw [hshape] at hsome
      cases hsome
    case h_2 => rfl
  have hone : (Value.int 1).equals threeAlike (.int 1) = true := by
    rw [Value.equals, Heap.allEqual, Heap.allEqual]
    · rfl
    · simp
    · simp
  have hnone (r : Ref) (hr : 0 ≠ r)
      (hplaces : fieldPlaces "" (threeAlike.fields 0) (threeAlike.fields r) = [.both "x" (.int 1) (.int 1)]) :
      (compareOperands threeAlike .standard (.untyped (.object 0)) (.untyped (.object r))).recorded = 0 := by
    change (compareObjects threeAlike .standard (.object 0) (.object r)).recorded = 0
    rw [recorded_compareObjects, Heap.differences, if_neg (by simp [hr]), hplaces, List.singleton_append,
      Heap.differences, if_pos hone, Heap.differences, List.length_nil]
    · simp
    · simp
  exact ⟨rfl, hunequal 1 (by decide) rfl, hnone 1 (by decide) rfl, rfl, hunequal 2 (by decide) rfl,
    hnone 2 (by decide) rfl⟩

end Verdict
