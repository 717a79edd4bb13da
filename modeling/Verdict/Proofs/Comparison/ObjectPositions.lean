import Verdict.Proofs.Comparison.ObjectWalk

namespace Verdict

variable {h : Heap} {limit : Nat} {guarded : Bool} {opened opened' : List (Ref × Ref)}
  {todo places : List Place} {found : List Difference} {left right x y : Value} {p : Place}

-- A step into a value.
inductive PathStep where
  | field (name : String)
  | item (index : Nat)

def PathStep.extend (path : String) : PathStep → String
  | .field name => fieldPath path name
  | .item index => itemPath path index

def pathText (steps : List PathStep) : String := steps.foldl PathStep.extend ""

theorem pathText_snoc (steps : List PathStep) (step : PathStep) :
    pathText (steps ++ [step]) = step.extend (pathText steps) := by
  rw [pathText, List.foldl_append]
  rfl

-- What two values have one step further in. Items meet by index. A field of the left object meets the first
-- field of that name on the right, and fields that only the right object has come on their own. There is
-- nothing to step into if both are one and the same object.
inductive Inside (h : Heap) : Value → Value → PathStep → Option Value → Option Value → Prop where
  | item {xs ys : List Value} {i : Nat} (hi : i < max xs.length ys.length) :
    Inside h (.seq xs) (.seq ys) (.item i) xs[i]? ys[i]?
  | field {a b : Ref} {f : String × Value} (hne : a ≠ b) (hf : f ∈ h.fields a) :
    Inside h (.object a) (.object b) (.field f.1) (some f.2) (h.field? b f.1)
  | rightField {a b : Ref} {f : String × Value} (hne : a ≠ b) (hf : f ∈ h.fields b)
    (hnone : h.field? a f.1 = none) : Inside h (.object a) (.object b) (.field f.1) none (some f.2)

-- What stands at a position of `left` and of `right`, the two walked in step.
inductive Opposite (h : Heap) (left right : Value) :
    List PathStep → Option Value → Option Value → Prop where
  | root : Opposite h left right [] (some left) (some right)
  | inside {steps : List PathStep} {x y : Value} {step : PathStep} {u v : Option Value}
    (hsteps : Opposite h left right steps (some x) (some y)) (hinside : Inside h x y step u v) :
    Opposite h left right (steps ++ [step]) u v

-- A difference in itself: one side has nothing, or both have values that are not looked into and unequal.
inductive Differ (h : Heap) : Option Value → Option Value → Prop where
  | leftOnly {x : Value} : Differ h (some x) none
  | rightOnly {y : Value} : Differ h none (some y)
  | unequal {x y : Value} (hflat : Flat x y) (hne : x.equals h y = false) : Differ h (some x) (some y)

def sideText (h : Heap) (limit : Nat) : Option Value → String
  | some x => x.display h limit
  | none => "<missing>"

def Difference.shown (h : Heap) (limit : Nat) (path : String) (u v : Option Value) : Difference :=
  ⟨if path = "" then "(root)" else path, sideText h limit u, sideText h limit v⟩

namespace Place

def path : Place → String
  | .both path .. | .leftOnly path _ | .rightOnly path _ => path

def left? : Place → Option Value
  | .both _ x _ | .leftOnly _ x => some x
  | .rightOnly .. => none

def right? : Place → Option Value
  | .both _ _ y | .rightOnly _ y => some y
  | .leftOnly .. => none

theorem eq_iff {p q : Place} : p = q ↔ p.path = q.path ∧ p.left? = q.left? ∧ p.right? = q.right? := by
  cases p <;> cases q <;> simp [path, left?, right?]

end Place

theorem mem_itemPlaces_iff {path : String} {k : Nat} {xs ys : List Value} :
    p ∈ itemPlaces path k xs ys ↔ ∃ i, i < max xs.length ys.length ∧
      p.path = itemPath path (k + i) ∧ p.left? = xs[i]? ∧ p.right? = ys[i]? := by
  fun_induction itemPlaces path k xs ys with
  | case1 => simp
  | case2 k x xs ih | case3 k y ys ih | case4 k x xs y ys ih =>
    rw [List.mem_cons, ih, Place.eq_iff]
    refine Iff.trans (or_congr ?_ (exists_congr fun i => ?_)) Nat.or_exists_add_one
    · exact (and_iff_right (by simp)).symm
    · rw [Nat.add_right_comm k 1 i]
      exact and_congr (by simp) Iff.rfl

theorem mem_fieldPlaces_iff {path : String} {ls rs : List (String × Value)} :
    p ∈ fieldPlaces path ls rs ↔
      (∃ f ∈ ls, p.path = fieldPath path f.1 ∧ p.left? = some f.2 ∧ p.right? = rs.lookup f.1) ∨
      ∃ f ∈ rs, ls.lookup f.1 = none ∧ p.path = fieldPath path f.1 ∧ p.left? = none ∧
        p.right? = some f.2 := by
  rw [fieldPlaces, List.mem_append, List.mem_map, List.mem_map]
  refine or_congr (exists_congr fun f => and_congr_right fun hf => ?_)
    (exists_congr fun f => ?_)
  · rw [@eq_comm _ _ p]
    cases hlookup : rs.lookup f.1 <;> simp [Place.eq_iff, Place.path, Place.left?, Place.right?]
  · rw [List.mem_filter, and_assoc, @eq_comm _ _ p, Place.eq_iff]
    refine and_congr_right fun hf => and_congr ?_ Iff.rfl
    simp only [Bool.not_eq_true', List.any_eq_false, List.lookup_eq_none_iff, beq_iff_eq,
      bne_iff_ne, ne_comm (a := f.1)]

-- One place is directly inside another one.
def Place.Within (h : Heap) (q p : Place) : Prop :=
  ∃ x y step, p.left? = some x ∧ p.right? = some y ∧ Inside h x y step q.left? q.right? ∧
    q.path = step.extend p.path

theorem within_both_iff {path : String} :
    p.Within h (.both path x y) ↔
      ∃ step, Inside h x y step p.left? p.right? ∧ p.path = step.extend path := by
  simp [Place.Within, Place.left?, Place.right?, Place.path]

theorem mem_itemPlaces_iff_within {path : String} {xs ys : List Value} :
    p ∈ itemPlaces path 0 xs ys ↔ p.Within h (.both path (.seq xs) (.seq ys)) := by
  rw [mem_itemPlaces_iff, within_both_iff]
  constructor
  · rintro ⟨i, hi, hpath, hleft, hright⟩
    rw [Nat.zero_add] at hpath
    exact ⟨.item i, hleft ▸ hright ▸ .item hi, hpath⟩
  · rintro ⟨step, hinside, hpath⟩
    generalize hleft : p.left? = u, hright : p.right? = v at hinside ⊢
    cases hinside with
    | item hi => exact ⟨_, hi, by rwa [Nat.zero_add], rfl, rfl⟩

theorem mem_fieldPlaces_iff_within {path : String} {a b : Ref} (hne : a ≠ b) :
    p ∈ fieldPlaces path (h.fields a) (h.fields b) ↔ p.Within h (.both path (.object a) (.object b)) := by
  rw [mem_fieldPlaces_iff, within_both_iff]
  constructor
  · rintro (⟨f, hf, hpath, hleft, hright⟩ | ⟨f, hf, hnone, hpath, hleft, hright⟩)
    · exact ⟨.field f.1, hleft ▸ hright ▸ .field hne hf, hpath⟩
    · exact ⟨.field f.1, hleft ▸ hright ▸ .rightField hne hf hnone, hpath⟩
  · rintro ⟨step, hinside, hpath⟩
    generalize hleft : p.left? = u, hright : p.right? = v at hinside ⊢
    cases hinside with
    | field _ hf => exact .inl ⟨_, hf, hpath, rfl, rfl⟩
    | rightField _ hf hnone => exact .inr ⟨_, hf, hnone, hpath, rfl, rfl⟩

-- All that a look can answer, and when.
inductive Looks (h : Heap) (limit : Nat) (guarded : Bool) (opened : List (Ref × Ref)) :
    Place → Look → Prop where
  | entry {p : Place} (hdiffer : Differ h p.left? p.right?) :
    Looks h limit guarded opened p (.entry (.shown h limit p.path p.left? p.right?))
  | known {path : String} {a b : Ref} (hknown : a = b ∨ guarded = true ∧ (a, b) ∈ opened) :
    Looks h limit guarded opened (.both path (.object a) (.object b)) .nothing
  | equal {path : String} {x y : Value} (hflat : Flat x y) (hequal : x.equals h y = true) :
    Looks h limit guarded opened (.both path x y) .nothing
  | objects {path : String} {a b : Ref} (hne : a ≠ b) (hnew : guarded = true → (a, b) ∉ opened) :
    Looks h limit guarded opened (.both path (.object a) (.object b))
      (.inside ((a, b) :: opened) (fieldPlaces path (h.fields a) (h.fields b)))
  | items {path : String} {xs ys : List Value} :
    Looks h limit guarded opened (.both path (.seq xs) (.seq ys))
      (.inside opened (itemPlaces path 0 xs ys))

theorem looks_look (h : Heap) (limit : Nat) (guarded : Bool) (opened : List (Ref × Ref)) (p : Place) :
    Looks h limit guarded opened p (h.look limit guarded opened p) := by
  fun_cases Heap.look h limit guarded opened p with
  | case1 path x => exact .entry .leftOnly
  | case2 path y => exact .entry .rightOnly
  | case3 path a b hknown => exact .known (passedBy_iff.1 hknown)
  | case4 path a b hnew =>
    obtain ⟨hne, hnew⟩ := not_or.1 (mt passedBy_iff.2 hnew)
    exact .objects hne fun hguarded hmem => hnew ⟨hguarded, hmem⟩
  | case5 path xs ys => exact .items
  | case6 path x y hobject hseq hequal => exact .equal ⟨hobject, hseq⟩ hequal
  | case7 path x y hobject hseq hne =>
    exact .entry (p := .both path x y) (.unequal ⟨hobject, hseq⟩ (Bool.eq_false_iff.2 hne))

theorem looks_of_look {answer : Look} (hlook : h.look limit guarded opened p = answer) :
    Looks h limit guarded opened p answer :=
  hlook ▸ looks_look h limit guarded opened p

-- To look inside a place is to look at all the places within it.
theorem mem_iff_within_of_inside {o : List (Ref × Ref)} {q : Place}
    (hlook : h.look limit guarded opened p = .inside o places) : q ∈ places ↔ q.Within h p := by
  cases looks_of_look hlook with
  | objects hne => exact mem_fieldPlaces_iff_within hne
  | items => exact mem_itemPlaces_iff_within

-- The place stands at a position of the two values.
def Place.IsAt (h : Heap) (left right : Value) (p : Place) (steps : List PathStep) : Prop :=
  Opposite h left right steps p.left? p.right? ∧ p.path = pathText steps

theorem Place.IsAt.of_within {q : Place} {steps : List PathStep} (hp : p.IsAt h left right steps)
    (hwithin : q.Within h p) : ∃ step, q.IsAt h left right (steps ++ [step]) := by
  obtain ⟨hsteps, hpath⟩ := hp
  obtain ⟨x, y, step, hx, hy, hinside, hqpath⟩ := hwithin
  rw [hx, hy] at hsteps
  exact ⟨step, .inside hsteps hinside, by rw [hqpath, hpath, pathText_snoc]⟩

theorem exists_isAt_of_inside {o : List (Ref × Ref)}
    (hlook : h.look limit guarded opened p = .inside o places)
    (hp : ∃ steps, p.IsAt h left right steps) : ∀ q ∈ places, ∃ steps, q.IsAt h left right steps := by
  intro q hq
  obtain ⟨steps, hp⟩ := hp
  obtain ⟨step, hq⟩ := hp.of_within ((mem_iff_within_of_inside hlook).1 hq)
  exact ⟨steps ++ [step], hq⟩

-- What a walk finds belongs to the positions of its places.
theorem Walks.exists_position (hwalk : Walks h limit guarded opened todo found opened')
    (hplaces : ∀ p ∈ todo, ∃ steps, p.IsAt h left right steps) :
    ∀ d ∈ found, ∃ steps u v, Opposite h left right steps u v ∧ Differ h u v ∧
      d = .shown h limit (pathText steps) u v := by
  induction hwalk with
  | done => exact fun d hd => nomatch hd
  | entry hlook _ ih =>
    obtain ⟨⟨steps, hsteps, hpath⟩, hrest⟩ := List.forall_mem_cons.1 hplaces
    refine List.forall_mem_cons.2 ⟨?_, ih hrest⟩
    cases looks_of_look hlook with
    | entry hdiffer => exact ⟨steps, _, _, hsteps, hdiffer, by rw [hpath]⟩
  | nothing _ _ ih => exact ih (List.forall_mem_cons.1 hplaces).2
  | inside hlook _ _ ihinner ihrest =>
    obtain ⟨hp, hrest⟩ := List.forall_mem_cons.1 hplaces
    exact List.forall_mem_append.2 ⟨ihinner (exists_isAt_of_inside hlook hp), ihrest hrest⟩

theorem isAt_root (h : Heap) (left right : Value) :
    ∀ p ∈ [Place.both "" left right], ∃ steps, p.IsAt h left right steps :=
  List.forall_mem_singleton.2 ⟨[], .root, rfl⟩

-- The comparison ends with one list of differences, each of them at a position where the two values differ, and
-- a report lists the first of these and counts the others.
theorem object_report_lists_first_differences (h : Heap) (config : Config) (left right : Value) :
    ∃ all : List Difference,
      (∀ found, (∃ opened, Walks h config.previewItems true [] [.both "" left right] found opened) ↔
        found = all) ∧
      (∀ d ∈ all, ∃ steps u v, Opposite h left right steps u v ∧ Differ h u v ∧
        d = .shown h config.previewItems (pathText steps) u v) ∧
      ∀ n, compareObjects h { config with maxDifferences := n } left right =
        .object (left.display h config.previewItems) (right.display h config.previewItems) (all.take n)
          (all.drop n).length := by
  let all := h.differences config.previewItems [] [.both "" left right]
  refine ⟨all, fun found => exists_walks_iff, ?_, fun n => ?_⟩
  · obtain ⟨opened, hwalk⟩ := exists_walks_iff.2 (rfl : all = _)
    exact hwalk.exists_position (isAt_root h left right)
  · have hcount : all.length - (all.take n).length = (all.drop n).length := by
      rw [List.length_take, List.length_drop]
      omega
    rw [compareObjects, ← hcount]

end Verdict
