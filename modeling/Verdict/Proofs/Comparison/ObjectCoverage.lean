import Verdict.Proofs.Comparison.ObjectPositions

namespace Verdict

variable {h : Heap} {limit : Nat} {opened opened₁ opened' : List (Ref × Ref)}
  {todo : List Place} {inner found : List Difference} {left right : Value} {p : Place}
  {looked more : Set Place} {a b : Ref} {guarded : Bool} {steps : List PathStep} {u v : Option Value}

-- A pair of objects has been looked into: it counts as opened from the start, or there is a place with the pair
-- among those looked at, and all that is within it.
def LookedInto (h : Heap) (opened : List (Ref × Ref)) (looked : Set Place) (a b : Ref) : Prop :=
  (a, b) ∈ opened ∨ ∃ path, .both path (.object a) (.object b) ∈ looked ∧
    ∀ q : Place, q.Within h (.both path (.object a) (.object b)) → q ∈ looked

theorem LookedInto.mono (hinto : LookedInto h opened looked a b) (hsub : looked ⊆ more) :
    LookedInto h opened more a b := by
  rcases hinto with hopened | ⟨path, hp, hwithin⟩
  · exact .inl hopened
  · exact .inr ⟨path, hsub hp, fun q hq => hsub (hwithin q hq)⟩

theorem LookedInto.trans (hinto : LookedInto h opened₁ looked a b)
    (hopened : ∀ a b, (a, b) ∈ opened₁ → LookedInto h opened looked a b) :
    LookedInto h opened looked a b := by
  rcases hinto with hmem | hplace
  · exact hopened a b hmem
  · exact .inr hplace

-- All that is within the place is looked at, or its pair of objects is looked into.
def Covered (h : Heap) (opened : List (Ref × Ref)) (looked : Set Place) (p : Place) : Prop :=
  (∀ q : Place, q.Within h p → q ∈ looked) ∨
    ∃ path a b, p = .both path (.object a) (.object b) ∧ LookedInto h opened looked a b

theorem Covered.mono (hcovered : Covered h opened₁ looked p) (hsub : looked ⊆ more)
    (hopened : ∀ a b, (a, b) ∈ opened₁ → LookedInto h opened more a b) : Covered h opened more p := by
  rcases hcovered with hwithin | ⟨path, a, b, hp, hinto⟩
  · exact .inl fun q hq => hsub (hwithin q hq)
  · exact .inr ⟨path, a, b, hp, (hinto.mono hsub).trans hopened⟩

-- The places that a guarded walk looks at.
structure Trail (h : Heap) (limit : Nat) (left right : Value) (opened : List (Ref × Ref))
    (found : List Difference) (opened' : List (Ref × Ref)) (looked : Set Place) : Prop where
  position : ∀ p ∈ looked, ∃ steps, p.IsAt h left right steps
  listed : ∀ p ∈ looked, Differ h p.left? p.right? →
    .shown h limit p.path p.left? p.right? ∈ found
  covered : ∀ p ∈ looked, Covered h opened looked p
  opened : ∀ a b, (a, b) ∈ opened' → LookedInto h opened looked a b

theorem Trail.empty : Trail h limit left right opened found opened ∅ :=
  ⟨fun _ hp => hp.elim, fun _ hp => hp.elim, fun _ hp => hp.elim, fun _ _ => .inl⟩

theorem Trail.append (htrail : Trail h limit left right opened inner opened₁ looked)
    (hmore : Trail h limit left right opened₁ found opened' more) :
    Trail h limit left right opened (inner ++ found) opened' (looked ∪ more) := by
  have hopened (a b : Ref) (hmem : (a, b) ∈ opened₁) : LookedInto h opened (looked ∪ more) a b :=
    (htrail.opened a b hmem).mono Set.subset_union_left
  refine ⟨?_, ?_, ?_, fun a b hmem => ?_⟩
  · rintro p (hp | hp)
    · exact htrail.position p hp
    · exact hmore.position p hp
  · rintro p (hp | hp) hdiffer
    · exact List.mem_append_left _ (htrail.listed p hp hdiffer)
    · exact List.mem_append_right _ (hmore.listed p hp hdiffer)
  · rintro p (hp | hp)
    · exact (htrail.covered p hp).mono Set.subset_union_left fun _ _ => .inl
    · exact (hmore.covered p hp).mono Set.subset_union_right hopened
  · exact ((hmore.opened a b hmem).mono Set.subset_union_right).trans hopened

-- One more place that was looked at. It may be the one that accounts for a pair of objects opened at the start.
theorem Trail.with_place (htrail : Trail h limit left right opened₁ found opened' looked)
    (hposition : ∃ steps, p.IsAt h left right steps)
    (hlisted : Differ h p.left? p.right? → .shown h limit p.path p.left? p.right? ∈ found)
    (hcovered : Covered h opened (insert p looked) p)
    (hopened : ∀ a b, (a, b) ∈ opened₁ → LookedInto h opened (insert p looked) a b) :
    Trail h limit left right opened found opened' (insert p looked) := by
  have hsub : looked ⊆ insert p looked := Set.subset_insert p looked
  refine ⟨?_, ?_, ?_, fun a b hmem => ?_⟩
  · rintro q (rfl | hq)
    · exact hposition
    · exact htrail.position q hq
  · rintro q (rfl | hq)
    · exact hlisted
    · exact htrail.listed q hq
  · rintro q (rfl | hq)
    · exact hcovered
    · exact (htrail.covered q hq).mono hsub hopened
  · exact ((htrail.opened a b hmem).mono hsub).trans hopened

theorem Flat.not_inside {x y : Value} {step : PathStep} (hflat : Flat x y) :
    ¬ Inside h x y step u v := by
  intro hinside
  cases hinside with
  | item => exact hflat.not_seqs _ _ rfl rfl
  | field | rightField => exact hflat.not_objects _ _ rfl rfl

theorem Flat.not_within {x y : Value} {path : String} (hflat : Flat x y) :
    ¬ p.Within h (.both path x y) := by
  rw [within_both_iff]
  rintro ⟨step, hinside, -⟩
  exact hflat.not_inside hinside

theorem not_within_of_same {path : String} : ¬ p.Within h (.both path (.object a) (.object a)) := by
  rw [within_both_iff]
  rintro ⟨step, hinside, -⟩
  generalize p.left? = u, p.right? = v at hinside
  cases hinside with
  | field hne | rightField hne => exact hne rfl

theorem Differ.not_within {q : Place} (hdiffer : Differ h p.left? p.right?) : ¬ q.Within h p := by
  rintro ⟨x, y, step, hx, hy, hinside, -⟩
  rw [hx, hy] at hdiffer
  cases hdiffer with
  | unequal hflat => exact hflat.not_inside hinside

theorem not_differ_of_objects : ¬ Differ h (some (.object a)) (some (.object b)) := by
  intro hdiffer
  cases hdiffer with
  | unequal hflat => exact hflat.not_objects _ _ rfl rfl

theorem not_differ_of_nothing (hlook : h.look limit guarded opened p = .nothing) :
    ¬ Differ h p.left? p.right? := by
  cases looks_of_look hlook with
  | known => exact not_differ_of_objects
  | equal hflat hequal =>
    intro hdiffer
    cases hdiffer with
    | unequal _ hne => exact Bool.eq_false_iff.1 hne hequal

theorem not_differ_of_inside (hlook : h.look limit guarded opened p = .inside opened₁ todo) :
    ¬ Differ h p.left? p.right? := by
  cases looks_of_look hlook with
  | objects => exact not_differ_of_objects
  | items =>
    intro hdiffer
    cases hdiffer with
    | unequal hflat => exact hflat.not_seqs _ _ rfl rfl

-- A place that a guarded look finds nothing at is covered by what was looked into before.
theorem covered_of_nothing (hlook : h.look limit true opened p = .nothing) :
    Covered h opened looked p := by
  cases looks_of_look hlook with
  | @known path a b hknown =>
    rcases hknown with rfl | ⟨-, hmem⟩
    · exact .inl fun q hq => absurd hq not_within_of_same
    · exact .inr ⟨path, a, b, rfl, .inl hmem⟩
  | equal hflat => exact .inl fun q hq => absurd hq hflat.not_within

theorem Trail.single (hposition : ∃ steps, p.IsAt h left right steps)
    (hlisted : Differ h p.left? p.right? → .shown h limit p.path p.left? p.right? ∈ found)
    (hcovered : Covered h opened {p} p) : Trail h limit left right opened found opened {p} := by
  rw [← insert_empty_eq] at hcovered ⊢
  exact Trail.empty.with_place hposition hlisted hcovered fun _ _ => .inl

-- Looking inside covers the place, and its pair of objects if it has one.
theorem Trail.of_inside (htrail : Trail h limit left right opened₁ found opened' looked)
    (hlook : h.look limit guarded opened p = .inside opened₁ todo) (hsub : ∀ q ∈ todo, q ∈ looked)
    (hposition : ∃ steps, p.IsAt h left right steps) :
    Trail h limit left right opened found opened' (insert p looked) := by
  have hwithin (q : Place) (hq : q.Within h p) : q ∈ insert p looked :=
    .inr (hsub q ((mem_iff_within_of_inside hlook).2 hq))
  refine htrail.with_place hposition (fun hdiffer => absurd hdiffer (not_differ_of_inside hlook))
    (.inl hwithin) fun a b hmem => ?_
  cases looks_of_look hlook with
  | objects =>
    rcases List.mem_cons.1 hmem with hpair | hmem
    · obtain ⟨rfl, rfl⟩ := Prod.mk.inj hpair
      exact .inr ⟨_, .inl rfl, hwithin⟩
    · exact .inl hmem
  | items => exact .inl hmem

theorem Walks.exists_trail (hwalk : Walks h limit true opened todo found opened')
    (hplaces : ∀ p ∈ todo, ∃ steps, p.IsAt h left right steps) :
    ∃ looked : Set Place, (∀ p ∈ todo, p ∈ looked) ∧
      Trail h limit left right opened found opened' looked := by
  induction hwalk with
  | done => exact ⟨∅, by simp, .empty⟩
  | @entry opened opened' p rest d found hlook _ ih =>
    obtain ⟨hp, hrest⟩ := List.forall_mem_cons.1 hplaces
    obtain ⟨looked, hmem, htrail⟩ := ih hrest
    have hfirst : Trail h limit left right opened [d] opened {p} := by
      cases looks_of_look hlook with
      | entry hdiffer => exact .single hp (fun _ => .head _) (.inl fun q hq => absurd hq hdiffer.not_within)
    exact ⟨{p} ∪ looked, List.forall_mem_cons.2 ⟨.inl rfl, fun q hq => .inr (hmem q hq)⟩,
      hfirst.append htrail⟩
  | @nothing opened opened' p rest found hlook _ ih =>
    obtain ⟨hp, hrest⟩ := List.forall_mem_cons.1 hplaces
    obtain ⟨looked, hmem, htrail⟩ := ih hrest
    have hfirst : Trail h limit left right opened [] opened {p} :=
      .single hp (fun hdiffer => absurd hdiffer (not_differ_of_nothing hlook)) (covered_of_nothing hlook)
    exact ⟨{p} ∪ looked, List.forall_mem_cons.2 ⟨.inl rfl, fun q hq => .inr (hmem q hq)⟩,
      hfirst.append htrail⟩
  | @inside opened opened₁ opened₂ opened' p places rest inner found hlook _ _ ihinner ihrest =>
    obtain ⟨hp, hrest⟩ := List.forall_mem_cons.1 hplaces
    obtain ⟨within, hsub, hinner⟩ := ihinner (exists_isAt_of_inside hlook hp)
    obtain ⟨looked, hmem, htrail⟩ := ihrest hrest
    exact ⟨insert p within ∪ looked, List.forall_mem_cons.2 ⟨.inl (.inl rfl), fun q hq => .inr (hmem q hq)⟩,
      (hinner.of_inside hlook hsub hp).append htrail⟩

theorem Inside.ne_none {x y : Value} {step : PathStep} (hinside : Inside h x y step u v) :
    u = none → v ≠ none := by
  cases hinside with
  | item hi =>
    intro hu hv
    have := List.getElem?_eq_none_iff.1 hu
    have := List.getElem?_eq_none_iff.1 hv
    omega
  | field => nofun
  | rightField => nofun

theorem Place.exists_within {x y : Value} {step : PathStep} (hx : p.left? = some x)
    (hy : p.right? = some y) (hinside : Inside h x y step u v) :
    ∃ q : Place, q.Within h p ∧ q.path = step.extend p.path ∧ q.left? = u ∧ q.right? = v := by
  obtain ⟨q, hpath, hu, hv⟩ :
      ∃ q : Place, q.path = step.extend p.path ∧ q.left? = u ∧ q.right? = v := by
    match u, v with
    | some u, some v => exact ⟨.both _ u v, rfl, rfl, rfl⟩
    | some u, none => exact ⟨.leftOnly _ u, rfl, rfl, rfl⟩
    | none, some v => exact ⟨.rightOnly _ v, rfl, rfl, rfl⟩
    | none, none => exact absurd rfl (hinside.ne_none rfl)
  rw [← hu, ← hv] at hinside
  exact ⟨q, ⟨x, y, step, hx, hy, hinside, hpath⟩, hpath, hu, hv⟩

-- A step from a place that stands at a position leads to a place at the next position.
theorem Place.IsAt.exists_within {x y : Value} {step : PathStep} (hp : p.IsAt h left right steps)
    (hx : p.left? = some x) (hy : p.right? = some y) (hinside : Inside h x y step u v) :
    ∃ q : Place, q.Within h p ∧ q.IsAt h left right (steps ++ [step]) ∧ q.left? = u ∧ q.right? = v := by
  obtain ⟨hopposite, hpath⟩ := hp
  obtain ⟨q, hwithin, hqpath, rfl, rfl⟩ := Place.exists_within hx hy hinside
  rw [hx, hy] at hopposite
  refine ⟨q, hwithin, ⟨.inside hopposite hinside, ?_⟩, rfl, rfl⟩
  rw [hqpath, hpath, pathText_snoc]

-- The same two objects stand at both positions, or it is one position.
def SameMeeting (h : Heap) (left right : Value) (first other : List PathStep) : Prop :=
  first = other ∨ ∃ a b, Opposite h left right first (some (.object a)) (some (.object b)) ∧
    Opposite h left right other (some (.object a)) (some (.object b))

-- The comparison has looked at every position, or at a position inside the same two objects elsewhere.
theorem Trail.exists_isAt (htrail : Trail h limit left right [] found opened' looked)
    (hroot : .both "" left right ∈ looked) (hsteps : Opposite h left right steps u v) :
    ∃ first other rest, steps = first ++ rest ∧ SameMeeting h left right first other ∧
      ∃ p ∈ looked, p.IsAt h left right (other ++ rest) ∧ p.left? = u ∧ p.right? = v := by
  induction hsteps with
  | root => exact ⟨[], [], [], rfl, .inl rfl, _, hroot, ⟨.root, rfl⟩, rfl, rfl⟩
  | @inside steps x y step u v hsteps hinside ih =>
    obtain ⟨first, other, rest, rfl, hsame, p, hp, hat, hx, hy⟩ := ih
    rcases htrail.covered p hp with hwithin | ⟨path, a, b, rfl, hnever | ⟨path', hp', hwithin⟩⟩
    · obtain ⟨q, hq, hat, hleft, hright⟩ := hat.exists_within hx hy hinside
      rw [List.append_assoc] at hat ⊢
      exact ⟨first, other, rest ++ [step], rfl, hsame, q, hwithin q hq, hat, hleft, hright⟩
    · cases hnever
    · obtain ⟨rfl, rfl⟩ : .object a = x ∧ .object b = y := ⟨Option.some.inj hx, Option.some.inj hy⟩
      obtain ⟨elsewhere, hat'⟩ := htrail.position _ hp'
      obtain ⟨q, hq, hat, hleft, hright⟩ := hat'.exists_within rfl rfl hinside
      exact ⟨first ++ rest, elsewhere, [step], rfl, .inr ⟨a, b, hsteps, hat'.1⟩, q, hwithin q hq, hat,
        hleft, hright⟩

-- Every difference is listed where it is, or at the same step inside the same two objects elsewhere.
theorem exists_shown_of_differ (limit : Nat) (hsteps : Opposite h left right steps u v)
    (hdiffer : Differ h u v) :
    ∃ first other rest, steps = first ++ rest ∧ SameMeeting h left right first other ∧
      .shown h limit (pathText (other ++ rest)) u v ∈
        h.differences limit [] [.both "" left right] := by
  obtain ⟨opened, hwalk⟩ :=
    exists_walks_iff.2 (rfl : h.differences limit [] [.both "" left right] = _)
  obtain ⟨looked, hmem, htrail⟩ := hwalk.exists_trail (isAt_root h left right)
  obtain ⟨first, other, rest, hsplit, hsame, p, hp, ⟨-, hpath⟩, rfl, rfl⟩ :=
    htrail.exists_isAt (List.forall_mem_singleton.1 hmem) hsteps
  exact ⟨first, other, rest, hsplit, hsame, hpath ▸ htrail.listed p hp hdiffer⟩

end Verdict
