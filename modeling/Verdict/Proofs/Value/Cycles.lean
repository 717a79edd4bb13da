import Verdict.Proofs.Value.Printing

namespace Verdict

variable {h : Heap} {limit : Nat} {enclosing inner : List Ref} {v w : Value} {r : Ref} {path : List Nat}

namespace Value

-- What a value has in it, in the order in which it is shown.
def parts (h : Heap) (limit : Nat) : Value → List Value
  | .seq items => previewed limit items
  | .object r => (h.fields r).map (·.2)
  | _ => []

-- The objects that enclose the parts of a value, the innermost first.
def enclosingParts (enclosing : List Ref) : Value → List Ref
  | .object r => r :: enclosing
  | _ => enclosing

-- The value that one comes to from part to part, and the objects that enclose it there. An object inside itself has
-- its parts again, so that there may be ways of any length.
def occurrence? (h : Heap) (limit : Nat) (enclosing : List Ref) (v : Value) : List Nat → Option (List Ref × Value)
  | [] => some (enclosing, v)
  | i :: path => ((v.parts h limit)[i]?).bind fun w => w.occurrence? h limit (v.enclosingParts enclosing) path

theorem IsFlat.parts_eq_nil (hflat : v.IsFlat) : v.parts h limit = [] := by
  cases v with
  | seq | object => cases hflat
  | _ => rfl

theorem suffix_enclosingParts (v : Value) (enclosing : List Ref) :
    enclosing <:+ v.enclosingParts enclosing := by
  cases v with
  | object r => exact List.suffix_cons r enclosing
  | _ => exact List.suffix_rfl

theorem suffix_of_occurrence (hoccurs : v.occurrence? h limit enclosing path = some (inner, w)) :
    enclosing <:+ inner := by
  induction path generalizing v enclosing with
  | nil =>
    cases hoccurs
    exact List.suffix_rfl
  | cons i path ih =>
    obtain ⟨part, -, hoccurs⟩ := Option.bind_eq_some_iff.1 hoccurs
    exact (v.suffix_enclosingParts enclosing).trans (ih hoccurs)

end Value

theorem getElem?_of_forall₂ {α β : Type} {R : α → β → Prop} {xs : List α} {ys : List β}
    (hall : List.Forall₂ R xs ys) (i : Nat) :
    xs[i]? = none ∧ ys[i]? = none ∨ ∃ x y, xs[i]? = some x ∧ ys[i]? = some y ∧ R x y := by
  induction hall generalizing i with
  | nil => exact .inl ⟨rfl, rfl⟩
  | @cons x y xs ys hxy _ ih =>
    cases i with
    | zero => exact .inr ⟨x, y, rfl, rfl, hxy⟩
    | succ i => exact ih i

theorem Writes.iff {guarded : Bool} {stack stack' : List Ref} {todo : List Value} {layouts : List Layout}
    (hwrites : Writes h limit guarded stack todo layouts stack) {layouts' : List Layout} :
    Writes h limit guarded stack todo layouts' stack' ↔ layouts' = layouts ∧ stack' = stack := by
  constructor
  · intro hwrites'
    exact ⟨hwrites.unique hwrites', hwrites'.stack_eq⟩
  · rintro ⟨rfl, rfl⟩
    exact hwrites

namespace Layout

variable {layout node : Layout}

def parts : Layout → List Layout
  | .items slots _ => slots
  | .object _ parts => parts
  | .flat _ | .cycle _ => []

def at? (layout : Layout) : List Nat → Option Layout
  | [] => some layout
  | i :: path => (layout.parts[i]?).bind fun part => part.at? path

-- The layout of a value that is enclosed by the given objects, leaving aside those of its parts.
inductive Fits (h : Heap) (limit : Nat) (enclosing : List Ref) : Value → Layout → Prop where
  | flat {v : Value} (hflat : v.IsFlat) : Fits h limit enclosing v (.flat (v.display h limit))
  | items {items : List Value} {slots : List Layout} (hslots : slots.length = (previewed limit items).length) :
    Fits h limit enclosing (.seq items) (.items slots (decide (limit < items.length)))
  | cycle {r : Ref} (hr : r ∈ enclosing) : Fits h limit enclosing (.object r) (.cycle r)
  | object {r : Ref} {parts : List Layout} (hr : r ∉ enclosing) (hparts : parts.length = (h.fields r).length) :
    Fits h limit enclosing (.object r) (.object r parts)

theorem Fits.eq_cycle_iff (hfits : node.Fits h limit enclosing w) :
    node = .cycle r ↔ w = .object r ∧ r ∈ enclosing := by
  cases hfits with
  | flat hflat =>
    refine iff_of_false nofun ?_
    rintro ⟨rfl, -⟩
    cases hflat
  | items => exact iff_of_false nofun nofun
  | cycle hr =>
    rw [Layout.cycle.injEq, Value.object.injEq]
    exact ⟨fun heq => ⟨heq, heq ▸ hr⟩, And.left⟩
  | object hr =>
    refine iff_of_false nofun ?_
    rintro ⟨heq, hmem⟩
    cases heq
    exact hr hmem

-- The layout has the places of the value at which no object is enclosed by itself on the way there, and says at each
-- of them what fits.
structure Follows (h : Heap) (limit : Nat) (enclosing : List Ref) (v : Value) (layout : Layout) : Prop where
  exists_at_iff : ∀ path, (∃ node, layout.at? path = some node) ↔
    ∃ inner w, v.occurrence? h limit enclosing path = some (inner, w) ∧ inner.Nodup
  fits : ∀ path node inner w, layout.at? path = some node →
    v.occurrence? h limit enclosing path = some (inner, w) → node.Fits h limit inner w

theorem Follows.of_parts (hnodup : enclosing.Nodup) (hfits : layout.Fits h limit enclosing v)
    (hparts : List.Forall₂ (Follows h limit (v.enclosingParts enclosing)) (v.parts h limit) layout.parts) :
    Follows h limit enclosing v layout := by
  constructor
  · intro path
    cases path with
    | nil => exact iff_of_true ⟨layout, rfl⟩ ⟨enclosing, v, rfl, hnodup⟩
    | cons i path =>
      rw [at?, Value.occurrence?]
      rcases getElem?_of_forall₂ hparts i with ⟨hv, hlayout⟩ | ⟨w, part, hv, hlayout, hfollows⟩
      · rw [hv, hlayout]
        exact iff_of_false nofun nofun
      · rw [hv, hlayout]
        exact hfollows.exists_at_iff path
  · intro path node inner w hnode hoccurs
    cases path with
    | nil =>
      cases hnode
      cases hoccurs
      exact hfits
    | cons i path =>
      rw [at?] at hnode
      rw [Value.occurrence?] at hoccurs
      rcases getElem?_of_forall₂ hparts i with ⟨hv, -⟩ | ⟨w, part, hv, hlayout, hfollows⟩
      · rw [hv] at hoccurs
        cases hoccurs
      · rw [hlayout] at hnode
        rw [hv] at hoccurs
        exact hfollows.fits path node inner _ hnode hoccurs

-- What an object that is cut has in it is enclosed by the object twice.
theorem Follows.of_cycle (hnodup : enclosing.Nodup) (hr : r ∈ enclosing) :
    Follows h limit enclosing (.object r) (.cycle r) := by
  constructor
  · intro path
    cases path with
    | nil => exact iff_of_true ⟨_, rfl⟩ ⟨enclosing, _, rfl, hnodup⟩
    | cons i path =>
      refine iff_of_false nofun ?_
      rintro ⟨inner, w, hoccurs, hinner⟩
      obtain ⟨part, -, hoccurs⟩ := Option.bind_eq_some_iff.1 hoccurs
      have hsuffix : r :: enclosing <:+ inner := Value.suffix_of_occurrence hoccurs
      exact (List.nodup_cons.1 (hinner.sublist hsuffix.sublist)).1 hr
  · intro path node inner w hnode hoccurs
    cases path with
    | nil =>
      cases hnode
      cases hoccurs
      exact .cycle hr
    | cons i path => cases hnode

end Layout

theorem Writes.follows {stack stack' : List Ref} {todo : List Value} {layouts : List Layout}
    (hwrites : Writes h limit true stack todo layouts stack') (hnodup : stack.Nodup) :
    List.Forall₂ (Layout.Follows h limit stack) todo layouts := by
  induction hwrites with
  | done => exact .nil
  | flat hflat _ ih =>
    refine .cons (.of_parts hnodup (.flat hflat) ?_) (ih hnodup)
    rw [hflat.parts_eq_nil]
    exact .nil
  | items _ _ ihitems ih =>
    have hslots := ihitems hnodup
    exact .cons (.of_parts hnodup (.items hslots.length_eq.symm) hslots) (ih hnodup)
  | cycle _ hr _ ih => exact .cons (.of_cycle hnodup hr) (ih hnodup)
  | object hr hfields _ ihfields ih =>
    have hparts := ihfields (List.nodup_cons.2 ⟨hr rfl, hnodup⟩)
    have hlength := hparts.length_eq.symm
    rw [List.length_map] at hlength
    rw [hfields.stack_eq] at ih
    exact .cons (.of_parts hnodup (.object (hr rfl) hlength) hparts) (ih hnodup)

-- Every value has a text, whatever the objects hold and however few slots a preview has. The places that are printed
-- are those that no object encloses twice, and the name of an object stands for it just where the object encloses
-- the place. Without cycles in the graph, a printer without a guard ends too and prints the same.
theorem display_cuts_at_cycles (h : Heap) (limit : Nat) (v : Value) :
    ∃ layout : Layout, layout.text h = v.display h limit ∧
      (∀ layouts stack, Writes h limit true [] [v] layouts stack ↔ layouts = [layout] ∧ stack = []) ∧
      (∀ path, (∃ node, layout.at? path = some node) ↔
        ∃ enclosing w, v.occurrence? h limit [] path = some (enclosing, w) ∧ enclosing.Nodup) ∧
      (∀ path node enclosing w, layout.at? path = some node →
        v.occurrence? h limit [] path = some (enclosing, w) →
          node.Fits h limit enclosing w ∧ ∀ r, node = .cycle r ↔ w = .object r ∧ r ∈ enclosing) ∧
      (h.Acyclic →
        ∀ layouts stack, Writes h limit false [] [v] layouts stack ↔ layouts = [layout] ∧ stack = []) := by
  obtain ⟨layout, hwrites⟩ := exists_writes h limit [] v
  have htext := hwrites.texts_eq
  have hfollows : layout.Follows h limit [] v := (List.forall₂_cons.1 (hwrites.follows .nil)).1
  refine ⟨layout, List.singleton_inj.1 htext, fun layouts stack => hwrites.iff, hfollows.exists_at_iff,
    fun path node enclosing w hnode hoccurs => ?_, fun hacyclic layouts stack => ?_⟩
  · have hfits := hfollows.fits path node enclosing w hnode hoccurs
    exact ⟨hfits, fun r => hfits.eq_cycle_iff⟩
  · exact (hwrites.unguarded hacyclic nofun).iff

-- An object in two places of another one, once on its own and once in a sequence.
def sharedLeaf : Heap :=
  ⟨#[⟨"Leaf", [("v", .int 1)]⟩, ⟨"Pair", [("x", .object 0), ("y", .seq [.object 0])]⟩]⟩

theorem sharedLeaf_acyclic : sharedLeaf.Acyclic := by
  refine Heap.acyclic_of_lt fun r s ⟨f, hf, hmentions⟩ => ?_
  have hr : r < 2 := Heap.lt_size_of_mem_fields hf
  have hfields : ∀ f ∈ sharedLeaf.fields r,
      f.2 = .int 1 ∨ r = 1 ∧ (f.2 = .object 0 ∨ f.2 = .seq [.object 0]) := by
    match r, hr with
    | 0, _ | 1, _ => simp [sharedLeaf, Heap.fields, Heap.record]
  obtain hint | ⟨rfl, hobject | hseq⟩ := hfields f hf
  · rw [hint] at hmentions
    cases hmentions
  · rw [hobject] at hmentions
    cases hmentions
    exact Nat.one_pos
  · rw [hseq] at hmentions
    cases hmentions with
    | item hv hmentions =>
      rw [List.mem_singleton.1 hv] at hmentions
      cases hmentions
      exact Nat.one_pos

theorem shared_leaf_is_shown_twice :
    sharedLeaf.Acyclic ∧ ∃ layout : Layout,
      layout.text sharedLeaf = "Pair \x7b x: Leaf \x7b v: 1 \x7d, y: [Leaf \x7b v: 1 \x7d] \x7d" ∧
      ∀ layouts stack, Writes sharedLeaf 10 false [] [.object 1] layouts stack ↔
        layouts = [layout] ∧ stack = [] := by
  obtain ⟨layout, htext, -, -, -, hunguarded⟩ := display_cuts_at_cycles sharedLeaf 10 (.object 1)
  refine ⟨sharedLeaf_acyclic, layout, htext.trans ?_, hunguarded sharedLeaf_acyclic⟩
  cbv

example : (Value.object 0).display ⟨#[⟨"Node", [("next", .seq [.object 0])]⟩]⟩ 10 =
    "Node \x7b next: [<cycle: Node>] \x7d" := by cbv

end Verdict
