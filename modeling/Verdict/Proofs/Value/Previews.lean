import Verdict.Proofs.Value.Cycles

namespace Verdict

variable {h : Heap} {limit : Nat} {stack stack' enclosing inner : List Ref} {todo items : List Value}
  {layouts : List Layout} {layout part node : Layout} {v w : Value} {path : List Nat} {i : Nat}

theorem Writes.forall₂ (hwrites : Writes h limit true stack todo layouts stack') :
    List.Forall₂ (fun v layout => Writes h limit true stack [v] [layout] stack) todo layouts := by
  induction hwrites with
  | done => exact .nil
  | flat hflat _ ih => exact .cons (.flat hflat .done) ih
  | items hitems _ _ ih => exact .cons (.items hitems .done) ih
  | cycle hguarded hr _ ih => exact .cons (.cycle hguarded hr .done) ih
  | object hr hfields _ _ ih =>
    rw [hfields.stack_eq, List.tail_cons] at ih
    refine .cons (.object hr hfields ?_) ih
    rw [hfields.stack_eq, List.tail_cons]
    exact .done

-- The parts of a value are printed one after the other, all of them inside the same objects.
theorem Writes.exists_part (hwrites : Writes h limit true enclosing [v] [layout] stack)
    (hpart : layout.parts[i]? = some part) :
    ∃ w, (v.parts h limit)[i]? = some w ∧
      Writes h limit true (v.enclosingParts enclosing) [w] [part] (v.enclosingParts enclosing) := by
  have hparts : List.Forall₂ (fun w part =>
      Writes h limit true (v.enclosingParts enclosing) [w] [part] (v.enclosingParts enclosing))
      (v.parts h limit) layout.parts := by
    cases hwrites with
    | flat hflat =>
      rw [hflat.parts_eq_nil]
      exact .nil
    | items hitems => exact hitems.forall₂
    | cycle => cases hpart
    | object _ hfields => exact hfields.forall₂
  rcases getElem?_of_forall₂ hparts i with ⟨-, hnone⟩ | ⟨w, part', hw, hpart', hwritten⟩
  · rw [hnone] at hpart
    cases hpart
  · rw [hpart'] at hpart
    cases hpart
    exact ⟨w, hw, hwritten⟩

theorem Writes.exists_occurrence (hwrites : Writes h limit true enclosing [v] [layout] enclosing)
    (hnode : layout.at? path = some node) :
    ∃ inner w, v.occurrence? h limit enclosing path = some (inner, w) ∧
      Writes h limit true inner [w] [node] inner := by
  induction path generalizing v enclosing layout with
  | nil =>
    cases hnode
    exact ⟨enclosing, v, rfl, hwrites⟩
  | cons i path ih =>
    obtain ⟨part, hpart, hnode⟩ := Option.bind_eq_some_iff.1 hnode
    obtain ⟨w, hw, hwritten⟩ := hwrites.exists_part hpart
    rw [Value.occurrence?, hw]
    exact ih hwritten hnode

namespace Layout

-- The texts between the brackets of a printed sequence.
def slotTexts (h : Heap) : Layout → List String
  | .items slots ellipsis => slots.map (text h) ++ if ellipsis then [ellipsisText] else []
  | _ => []

-- A sequence is shown as it should be: all its items if the limit allows, and else the first ones, with the ellipsis
-- for the last slot. There are no more slots than the limit says, unless there is no slot for the ellipsis.
structure Previews (h : Heap) (limit : Nat) (enclosing : List Ref) (items : List Value) (node : Layout) : Prop where
  text_eq : node.text h = "[" ++ commaSeparated (node.slotTexts h) ++ "]"
  all : items.length ≤ limit → node.slotTexts h = items.map (Value.shown h limit enclosing)
  first : limit < items.length →
    node.slotTexts h = (items.take (limit - 1)).map (Value.shown h limit enclosing) ++ [ellipsisText]
  length_le_iff : (node.slotTexts h).length ≤ limit ↔ items = [] ∨ 0 < limit

theorem text_items (slots : List Layout) (ellipsis : Bool) :
    (Layout.items slots ellipsis).text h =
      "[" ++ commaSeparated ((Layout.items slots ellipsis).slotTexts h) ++ "]" := by
  rw [text, slotTexts, texts_eq_map]

end Layout

theorem length_previewSlots_le_iff {α : Type} (items : List α) (shown : α → String) :
    (previewSlots limit items shown).length ≤ limit ↔ items = [] ∨ 0 < limit := by
  rw [← List.length_eq_zero_iff]
  unfold previewSlots
  split
  · rw [List.length_map]
    omega
  · rw [List.length_append, List.length_map, List.length_take, List.length_singleton]
    omega

theorem Writes.previews (hwrites : Writes h limit true enclosing [.seq items] [node] stack) :
    ∃ slots, node = .items slots (decide (limit < items.length)) ∧ node.Previews h limit enclosing items := by
  cases hwrites with
  | flat hflat => cases hflat
  | @items _ _ _ _ _ slots _ hitems =>
    have hslots : (Layout.items slots (decide (limit < items.length))).slotTexts h =
        previewSlots limit items (Value.shown h limit enclosing) := by
      rw [Layout.slotTexts, hitems.texts_eq, previewSlots_eq]
      simp only [decide_eq_true_eq]
    refine ⟨slots, rfl, Layout.text_items slots _, fun hfits => ?_, fun hlonger => ?_, ?_⟩
    · rw [hslots, previewSlots, if_pos hfits]
    · rw [hslots, previewSlots, if_neg (Nat.not_le.2 hlonger)]
    · rw [hslots]
      exact length_previewSlots_le_iff items _

-- At each place in the text of a value stands the text of what the value has there. Each sequence shows what it
-- should, and has more slots than the limit says only if the limit is zero and the sequence is not empty.
theorem previews_have_their_slots (h : Heap) (limit : Nat) (v : Value) :
    (∀ items, previewList h limit items = (Value.seq items).display h limit) ∧
    ∃ layout : Layout, layout.text h = v.display h limit ∧
      (∀ layouts stack, Writes h limit true [] [v] layouts stack ↔ layouts = [layout] ∧ stack = []) ∧
      ∀ path node, layout.at? path = some node →
        ∃ enclosing w, v.occurrence? h limit [] path = some (enclosing, w) ∧
          node.text h = w.shown h limit enclosing ∧
          ∀ items, w = .seq items →
            ∃ slots, node = .items slots (decide (limit < items.length)) ∧
              node.Previews h limit enclosing items := by
  refine ⟨fun items => (shown_seq items).symm, ?_⟩
  obtain ⟨layout, hwrites⟩ := exists_writes h limit [] v
  have htext : layout.text h = v.display h limit := List.singleton_inj.1 hwrites.texts_eq
  refine ⟨layout, htext, fun layouts stack => hwrites.iff, fun path node hnode => ?_⟩
  obtain ⟨enclosing, w, hoccurs, hwritten⟩ := hwrites.exists_occurrence hnode
  have hnodeText : node.text h = w.shown h limit enclosing := List.singleton_inj.1 hwritten.texts_eq
  refine ⟨enclosing, w, hoccurs, hnodeText, fun items hseq => ?_⟩
  rw [hseq] at hwritten
  exact hwritten.previews

-- A sequence inside a sequence inside an object.
def boxedRows : Heap :=
  ⟨#[⟨"Box", [("rows", .seq [.seq [.int 1, .int 2, .int 3], .int 4])]⟩]⟩

theorem inner_row_is_cut :
    ∃ layout node : Layout, layout.text boxedRows = "Box \x7b rows: [[1, ...], 4] \x7d" ∧
      layout.at? [0, 0] = some node ∧
      node.Previews boxedRows 2 [0] [.int 1, .int 2, .int 3] := by
  obtain ⟨-, layout, htext, hlayout, hnodes⟩ := previews_have_their_slots boxedRows 2 (.object 0)
  have hwrites : Writes boxedRows 2 true [] [.object 0]
      [.object 0 [.items [.items [.flat ((Value.int 1).display boxedRows 2)] true,
        .flat ((Value.int 4).display boxedRows 2)] false]] [] :=
    .object (fun _ => List.not_mem_nil) (.items (.items (.flat trivial .done) (.flat trivial .done)) .done) .done
  obtain ⟨heq, -⟩ := (hlayout _ _).1 hwrites
  cases heq
  obtain ⟨enclosing, w, hoccurs, -, hpreviews⟩ := hnodes [0, 0] _ rfl
  cases hoccurs
  obtain ⟨slots, -, hpreview⟩ := hpreviews _ rfl
  exact ⟨_, _, htext.trans (by cbv), rfl, hpreview⟩

-- One slot where there should be none.
theorem ellipsis_is_beyond_zero :
    Writes ⟨#[]⟩ 0 true [] [.seq [.int 1]] [.items [] true] [] ∧
      (Value.seq [.int 1]).display ⟨#[]⟩ 0 = "[...]" ∧ previewList ⟨#[]⟩ 0 [.int 1] = "[...]" ∧
      (Layout.items [] true).text ⟨#[]⟩ = "[...]" ∧ ((Layout.items [] true).slotTexts ⟨#[]⟩).length = 1 := by
  refine ⟨.items .done .done, ?_, ?_, ?_, rfl⟩
  · cbv
  · cbv
  · cbv

end Verdict
