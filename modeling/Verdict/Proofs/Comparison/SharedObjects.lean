import Verdict.Proofs.Comparison.UnguardedWalk

namespace Verdict

variable {h : Heap} {limit : Nat} {guarded : Bool}
  {opened opened₁ opened' known known' : List (Ref × Ref)} {todo rest places : List Place}
  {all found : List Difference} {p : Place} {a b : Ref}

-- What a guarded walk finds of all that there is. `met` are the pairs it knows at first and those that the
-- unguarded walk opens, `known` the ones it knows in the end. As long as it has missed nothing, these are the
-- same among the objects that come to a difference, which is what the walk over the places after them asks for.
structure Shortened (h : Heap) (all : List Difference) (met : List (Ref × Ref))
    (found : List Difference) (known : List (Ref × Ref)) : Prop where
  found_sublist : found.Sublist all
  nodup : known.Nodup
  eq_iff : found = all ↔
    ∀ a b, Unlike h (some (.object a)) (some (.object b)) → met.count (a, b) ≤ 1
  count_eq : found = all →
    ∀ a b, Unlike h (some (.object a)) (some (.object b)) → known.count (a, b) = met.count (a, b)

theorem Shortened.refl (hnodup : known.Nodup) : Shortened h all known all known :=
  ⟨.refl _, hnodup, iff_of_true rfl fun a b _ => List.nodup_iff_count_le_one.1 hnodup (a, b),
    fun _ _ _ _ => rfl⟩

theorem Shortened.append {all₁ all₂ found₁ found₂ : List Difference} {met new : List (Ref × Ref)}
    (hfirst : Shortened h all₁ met found₁ known)
    (hsecond : Shortened h all₂ (new ++ known) found₂ known') :
    Shortened h (all₁ ++ all₂) (new ++ met) (found₁ ++ found₂) known' := by
  -- the two conditions come to the same once the first part is complete
  have hcount (hfound : found₁ = all₁) (a b : Ref)
      (hunlike : Unlike h (some (.object a)) (some (.object b))) :
      (new ++ known).count (a, b) = (new ++ met).count (a, b) := by
    rw [List.count_append, List.count_append, hfirst.count_eq hfound a b hunlike]
  have hsplit : found₁ ++ found₂ = all₁ ++ all₂ ↔ found₁ = all₁ ∧ found₂ = all₂ := by
    refine ⟨fun heq => ?_, fun ⟨hfound₁, hfound₂⟩ => by rw [hfound₁, hfound₂]⟩
    have hlength := congrArg List.length heq
    have hle₁ := hfirst.found_sublist.length_le
    have hle₂ := hsecond.found_sublist.length_le
    rw [List.length_append, List.length_append] at hlength
    exact ⟨hfirst.found_sublist.eq_of_length (by omega), hsecond.found_sublist.eq_of_length (by omega)⟩
  refine ⟨hfirst.found_sublist.append hsecond.found_sublist, hsecond.nodup, ?_, ?_⟩
  · rw [hsplit]
    constructor
    · rintro ⟨hfound₁, hfound₂⟩ a b hunlike
      rw [← hcount hfound₁ a b hunlike]
      exact hsecond.eq_iff.1 hfound₂ a b hunlike
    · intro hmet
      have hfound₁ : found₁ = all₁ := hfirst.eq_iff.2 fun a b hunlike =>
        Nat.le_trans ((List.sublist_append_right new met).count_le (a, b)) (hmet a b hunlike)
      refine ⟨hfound₁, hsecond.eq_iff.2 fun a b hunlike => ?_⟩
      rw [hcount hfound₁ a b hunlike]
      exact hmet a b hunlike
  · intro heq a b hunlike
    obtain ⟨hfound₁, hfound₂⟩ := hsplit.1 heq
    rw [hsecond.count_eq hfound₂ a b hunlike, hcount hfound₁ a b hunlike]

-- Passing by a known pair takes nothing away only if its objects do not come to a difference.
theorem Shortened.of_known {new : List (Ref × Ref)} (hnodup : known.Nodup) (hmem : (a, b) ∈ known)
    (hnew : (a, b) ∈ new) (hunlike : all ≠ [] → Unlike h (some (.object a)) (some (.object b)))
    (hnone : all = [] →
      ∀ a b, Unlike h (some (.object a)) (some (.object b)) → new.count (a, b) = 0) :
    Shortened h all (new ++ known) [] known := by
  have hcount (hnil : [] = all) (a b : Ref) (hunlike : Unlike h (some (.object a)) (some (.object b))) :
      known.count (a, b) = (new ++ known).count (a, b) := by
    rw [List.count_append, hnone hnil.symm a b hunlike, Nat.zero_add]
  refine ⟨List.nil_sublist _, hnodup, ?_, hcount⟩
  constructor
  · intro hnil a b hunlike
    rw [← hcount hnil a b hunlike]
    exact List.nodup_iff_count_le_one.1 hnodup (a, b)
  · intro hmet
    by_contra hne
    have htwice := hmet a b (hunlike (Ne.symm hne))
    have := List.count_pos_iff.2 hnew
    have := List.count_pos_iff.2 hmem
    rw [List.count_append] at htwice
    omega

-- A guarded walk over the same places shortens what the unguarded walk finds, whatever it knows at first.
def Shortens (h : Heap) (limit : Nat) (opened : List (Ref × Ref)) (todo : List Place)
    (all : List Difference) (opened' : List (Ref × Ref)) : Prop :=
  ∃ new, opened' = new ++ opened ∧ ∀ known : List (Ref × Ref), known.Nodup →
    ∃ found known', Walks h limit true known todo found known' ∧
      Shortened h all (new ++ known) found known'

theorem Shortens.of_same (hsame : ∀ known, Walks h limit true known todo all known) :
    Shortens h limit opened todo all opened :=
  ⟨[], rfl, fun known hnodup => ⟨all, known, hsame known, .refl hnodup⟩⟩

theorem Shortens.append {all₁ all₂ : List Difference}
    (hfirst : Shortens h limit opened todo all₁ opened₁)
    (hsecond : Shortens h limit opened₁ rest all₂ opened') :
    Shortens h limit opened (todo ++ rest) (all₁ ++ all₂) opened' := by
  obtain ⟨new₁, rfl, hfirst⟩ := hfirst
  obtain ⟨new₂, rfl, hsecond⟩ := hsecond
  refine ⟨new₂ ++ new₁, (List.append_assoc ..).symm, fun known hnodup => ?_⟩
  obtain ⟨found₁, known₁, hwalk₁, hshort₁⟩ := hfirst known hnodup
  obtain ⟨found₂, known₂, hwalk₂, hshort₂⟩ := hsecond known₁ hshort₁.nodup
  rw [List.append_assoc]
  exact ⟨_, known₂, hwalk₁.append hwalk₂, hshort₁.append hshort₂⟩

-- Whether a place has an entry, or nothing and no known pair, is the same for both walks.
theorem look_of_differ (hdiffer : Differ h p.left? p.right?) :
    h.look limit guarded opened p = .entry (.shown h limit p.path p.left? p.right?) := by
  cases p with
  | leftOnly | rightOnly => rfl
  | both path x y =>
    cases hdiffer with
    | unequal hflat hne => exact (look_of_flat hflat path).trans (if_neg (Bool.eq_false_iff.1 hne))

theorem look_nothing_of_unguarded (hlook : h.look limit false opened p = .nothing) :
    h.look limit guarded known p = .nothing := by
  cases looks_of_look hlook with
  | known hknown =>
    rcases hknown with rfl | ⟨⟨⟩, -⟩
    exact if_pos (passedBy_iff.2 (.inl rfl))
  | equal hflat hequal => exact (look_of_flat hflat _).trans (if_pos hequal)

theorem Shortens.of_inside (hlook : h.look limit false opened p = .inside opened₁ places)
    (hinner : Walks h limit false opened₁ places all opened')
    (hinside : Shortens h limit opened₁ places all opened') :
    Shortens h limit opened [p] all opened' := by
  obtain ⟨new, rfl, hinside⟩ := hinside
  cases looks_of_look hlook with
  | items =>
    refine ⟨new, rfl, fun known hnodup => ?_⟩
    obtain ⟨found, known', hguarded, hshort⟩ := hinside known hnodup
    exact ⟨found, known', hguarded.of_inside rfl, hshort⟩
  | @objects path a b hne =>
    refine ⟨new ++ [(a, b)], List.append_cons .., fun known hnodup => ?_⟩
    by_cases hmem : (a, b) ∈ known
    · refine ⟨[], known, .nothing (if_pos (passedBy_iff.2 (.inr ⟨rfl, hmem⟩))) .done,
        .of_known hnodup hmem (List.mem_append_right _ (.head _)) (fun hne => ?_) fun hnil a b hunlike => ?_⟩
      · by_contra hnone
        exact hne (hinner.of_inside hlook |>.eq_nil_iff.2 (List.forall_mem_singleton.2 hnone))
      · subst hnil
        have hcount := (hinner.of_inside hlook).count_opened_of_eq_nil hunlike
        rw [List.append_cons, List.count_append] at hcount
        omega
    · have hlook : h.look limit true known (.both path (.object a) (.object b)) =
          .inside ((a, b) :: known) (fieldPlaces path (h.fields a) (h.fields b)) :=
        if_neg (mt passedBy_iff.1 (not_or.2 ⟨hne, fun hknown => hmem hknown.2⟩))
      obtain ⟨found, known', hguarded, hshort⟩ := hinside _ (hnodup.cons hmem)
      rw [List.append_assoc]
      exact ⟨found, known', hguarded.of_inside hlook, hshort⟩

-- By what the unguarded walk does at each place.
theorem Walks.shortens (hwalk : Walks h limit false opened todo all opened') :
    Shortens h limit opened todo all opened' := by
  induction hwalk with
  | done => exact .of_same fun _ => .done
  | @entry opened opened' p rest d found hlook _ ih =>
    have hfirst : Shortens h limit opened [p] [d] opened := by
      cases looks_of_look hlook with
      | entry hdiffer => exact .of_same fun known => .entry (look_of_differ hdiffer) .done
    exact hfirst.append ih
  | @nothing opened opened' p rest found hlook _ ih =>
    have hfirst : Shortens h limit opened [p] [] opened :=
      .of_same fun known => .nothing (look_nothing_of_unguarded hlook) .done
    exact hfirst.append ih
  | inside hlook hinner _ ihinner ihrest => exact (ihinner.of_inside hlook hinner).append ihrest

-- On a graph without cycles, the walk without a record of opened pairs ends with one list, which shows the two
-- values at every position where they differ. The report is a part of it, in order, and it is the whole list if
-- and only if no two objects that come to a difference are opened twice. What the report leaves out is shown
-- inside the same two objects elsewhere.
theorem report_shows_shared_pairs_once (h : Heap) (config : Config) (left right : Value)
    (hacyclic : h.Acyclic) :
    ∃ all opened found,
      (∀ all' opened', Walks h config.previewItems false [] [.both "" left right] all' opened' ↔
        all' = all ∧ opened' = opened) ∧
      (∀ d, d ∈ all ↔ ∃ steps u v, Opposite h left right steps u v ∧ Differ h u v ∧
        d = .shown h config.previewItems (pathText steps) u v) ∧
      (∀ n, all.length ≤ n → compareObjects h { config with maxDifferences := n } left right =
        .object (left.display h config.previewItems) (right.display h config.previewItems) found 0) ∧
      found.Sublist all ∧
      (found = all ↔
        ∀ a b, Unlike h (some (.object a)) (some (.object b)) → opened.count (a, b) ≤ 1) ∧
      ∀ steps u v, Opposite h left right steps u v → Differ h u v →
        ∃ first other rest, steps = first ++ rest ∧ SameMeeting h left right first other ∧
          .shown h config.previewItems (pathText (other ++ rest)) u v ∈ found := by
  obtain ⟨all, opened, hwalk⟩ :=
    exists_walks_of_acyclic hacyclic config.previewItems [] [.both "" left right]
  obtain ⟨new, hnew, hshort⟩ := hwalk.shortens
  obtain ⟨found, known, hguarded, hshort⟩ := hshort [] .nil
  have hfound : found = h.differences config.previewItems [] [.both "" left right] :=
    exists_walks_iff.1 ⟨known, hguarded⟩
  rw [← hnew] at hshort
  refine ⟨all, opened, found, fun all' opened' => ⟨hwalk.unique, ?_⟩, fun d => hwalk.mem_iff,
    fun n hn => ?_, hshort.found_sublist, hshort.eq_iff, fun steps u v hsteps hdiffer => ?_⟩
  · rintro ⟨rfl, rfl⟩
    exact hwalk
  · have hlength : found.length ≤ n := hshort.found_sublist.length_le.trans hn
    rw [compareObjects]
    simp only [← hfound, List.take_of_length_le hlength, Nat.sub_self]
  · exact hfound ▸ exists_shown_of_differ config.previewItems hsteps hdiffer

-- Two objects that have one object in both fields each.
def twins : Heap :=
  ⟨#[⟨"Leaf", [("v", .int 1)]⟩, ⟨"Leaf", [("v", .int 2)]⟩,
    ⟨"Pair", [("x", .object 0), ("y", .object 0)]⟩, ⟨"Pair", [("x", .object 1), ("y", .object 1)]⟩]⟩

theorem twins_acyclic : twins.Acyclic := by
  refine Heap.acyclic_of_lt fun r s ⟨f, hf, hmentions⟩ => ?_
  have hr : r < 4 := Heap.lt_size_of_mem_fields hf
  have hfields : ∀ f ∈ twins.fields r, (∃ n, f.2 = .int n) ∨ ∃ t < r, f.2 = .object t := by
    match r, hr with
    | 0, _ | 1, _ | 2, _ | 3, _ => simp [twins, Heap.fields, Heap.record]
  obtain ⟨n, hint⟩ | ⟨t, ht, hobject⟩ := hfields f hf
  · rw [hint] at hmentions
    cases hmentions
  · rw [hobject] at hmentions
    cases hmentions
    exact ht

theorem twins_values_differ : Differ twins (some (.int 1)) (some (.int 2)) := by
  refine .unequal ⟨by simp, by simp⟩ ?_
  rw [Value.equals, Heap.allEqual]
  · rfl
  · simp
  · simp

-- A walk opens the two inner objects where it does not know them, and finds a difference there.
theorem twins_walk_inner (path : String) (hnew : guarded = true → (0, 1) ∉ known) :
    Walks twins 10 guarded known [.both path (.object 0) (.object 1)]
      [.atPath (fieldPath path "v") "1" "2"] ((0, 1) :: known) := by
  have hlook : twins.look 10 guarded known (.both path (.object 0) (.object 1)) =
      .inside ((0, 1) :: known) [.both (fieldPath path "v") (.int 1) (.int 2)] := by
    rw [Heap.look, if_neg (by simpa using hnew)]
    rfl
  have hshown (path : String) :
      .shown twins 10 path (some (.int 1)) (some (.int 2)) = Difference.atPath path "1" "2" := by
    rw [Difference.shown, sideText, sideText, Value.display, Value.display, Value.shown, Value.shown]
    rfl
  exact .of_inside hlook (.entry (hshown _ ▸ look_of_differ twins_values_differ) .done)

theorem twins_look_outer : twins.look 10 guarded [] (.both "" (.object 2) (.object 3)) =
    .inside [(2, 3)] [.both "x" (.object 0) (.object 1), .both "y" (.object 0) (.object 1)] := by
  rw [Heap.look, if_neg (by simp)]
  rfl

theorem twins_walk : Walks twins 10 false [] [.both "" (.object 2) (.object 3)]
    [⟨"x.v", "1", "2"⟩, ⟨"y.v", "1", "2"⟩] [(0, 1), (0, 1), (2, 3)] := by
  have hx : Walks twins 10 false [(2, 3)] [.both "x" (.object 0) (.object 1)] [⟨"x.v", "1", "2"⟩]
    [(0, 1), (2, 3)] := twins_walk_inner "x" nofun
  have hy : Walks twins 10 false [(0, 1), (2, 3)] [.both "y" (.object 0) (.object 1)]
    [⟨"y.v", "1", "2"⟩] [(0, 1), (0, 1), (2, 3)] := twins_walk_inner "y" nofun
  exact .of_inside twins_look_outer (hx.append hy)

theorem twins_guarded_walk : Walks twins 10 true [] [.both "" (.object 2) (.object 3)]
    [⟨"x.v", "1", "2"⟩] [(0, 1), (2, 3)] := by
  have hx : Walks twins 10 true [(2, 3)] [.both "x" (.object 0) (.object 1)] [⟨"x.v", "1", "2"⟩]
    [(0, 1), (2, 3)] := twins_walk_inner "x" (by simp)
  have hy : Walks twins 10 true [(0, 1), (2, 3)] [.both "y" (.object 0) (.object 1)] []
    [(0, 1), (2, 3)] := .nothing (by rw [Heap.look, if_pos (by simp)]) .done
  exact .of_inside twins_look_outer (hx.append hy)

-- The graph has no cycle, but no limit makes the report list what the unguarded walk finds.
theorem twins_report_misses_path :
    twins.Acyclic ∧
      Walks twins 10 false [] [.both "" (.object 2) (.object 3)]
        [⟨"x.v", "1", "2"⟩, ⟨"y.v", "1", "2"⟩] [(0, 1), (0, 1), (2, 3)] ∧
      ∀ n, 1 ≤ n → compareObjects twins { Config.standard with maxDifferences := n } (.object 2) (.object 3) =
        .object ((Value.object 2).display twins 10) ((Value.object 3).display twins 10)
          [⟨"x.v", "1", "2"⟩] 0 := by
  refine ⟨twins_acyclic, twins_walk, fun n hn => ?_⟩
  have hfound := exists_walks_iff.1 ⟨_, twins_guarded_walk⟩
  have htake := List.take_of_length_le (l := [(⟨"x.v", "1", "2"⟩ : Difference)]) hn
  simp only [compareObjects, Config.standard, ← hfound, htake, Nat.sub_self]

theorem twins_report_is_part :
    twins.Acyclic ∧ ∃ found,
      (∀ n, 2 ≤ n → compareObjects twins { Config.standard with maxDifferences := n } (.object 2) (.object 3) =
        .object ((Value.object 2).display twins 10) ((Value.object 3).display twins 10) found 0) ∧
      found.Sublist [⟨"x.v", "1", "2"⟩, ⟨"y.v", "1", "2"⟩] ∧
      found ≠ [⟨"x.v", "1", "2"⟩, ⟨"y.v", "1", "2"⟩] := by
  obtain ⟨all, opened, found, hwalk, -, hreport, hsub, heq, -⟩ :=
    report_shows_shared_pairs_once twins .standard (.object 2) (.object 3) twins_acyclic
  obtain ⟨rfl, rfl⟩ := (hwalk _ _).1 twins_walk
  refine ⟨twins_acyclic, found, hreport, hsub, fun hfound => ?_⟩
  have hunlike : Unlike twins (some (.object 0)) (some (.object 1)) :=
    .inside (.field (f := ("v", .int 1)) (by simp) (.head _)) (.here twins_values_differ)
  exact absurd (heq.1 hfound 0 1 hunlike) (by decide)

end Verdict
