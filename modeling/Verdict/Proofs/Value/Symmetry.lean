import Verdict.Proofs.Comparison.ObjectDiff
import Verdict.Proofs.Value.Order
import Mathlib.Data.List.Nodup
import Mathlib.Data.List.Perm.Subperm

namespace Verdict

variable {h : Heap} {a b : Value} {R : Value → Value → Prop} {name : String} {v : Value}
  {fields ls rs : List (String × Value)}

def DistinctNames (fields : List (String × Value)) : Prop := (fields.map Prod.fst).Nodup

theorem mem_of_lookup (hlookup : fields.lookup name = some v) : (name, v) ∈ fields := by
  obtain ⟨before, after, rfl, -⟩ := List.lookup_eq_some_iff.1 hlookup
  exact List.mem_append_right _ List.mem_cons_self

theorem lookup_of_mem (hnames : DistinctNames fields) (hmem : (name, v) ∈ fields) :
    fields.lookup name = some v := by
  have hsome : (fields.lookup name).isSome := List.lookup_isSome_iff.2 ⟨_, hmem, beq_self_eq_true name⟩
  obtain ⟨w, hw⟩ := Option.isSome_iff_exists.1 hsome
  obtain ⟨-, rfl⟩ := Prod.mk.inj (List.inj_on_of_nodup_map hnames hmem (mem_of_lookup hw) rfl)
  exact hw

-- Distinct names that are all found among equally many others leave none of those over.
theorem perm_names (hnames : DistinctNames ls) (hcount : ls.length = rs.length)
    (hfound : ∀ f ∈ ls, ∃ v, rs.lookup f.1 = some v) :
    (ls.map Prod.fst).Perm (rs.map Prod.fst) := by
  have hsub : ls.map Prod.fst ⊆ rs.map Prod.fst := by
    intro name hname
    obtain ⟨f, hf, rfl⟩ := List.mem_map.1 hname
    obtain ⟨v, hv⟩ := hfound f hf
    exact List.mem_map.2 ⟨_, mem_of_lookup hv, rfl⟩
  refine (List.subperm_of_subset hnames hsub).perm_of_length_le ?_
  rw [List.length_map, List.length_map, hcount]

theorem fields_symm (hnames : DistinctNames ls) (hcount : ls.length = rs.length)
    (hfields : ∀ f ∈ ls, ∃ v, rs.lookup f.1 = some v ∧ R f.2 v) :
    ∀ g ∈ rs, ∃ v, ls.lookup g.1 = some v ∧ R v g.2 := by
  have hperm := perm_names hnames hcount fun f hf => (hfields f hf).imp fun v hv => hv.1
  intro g hg
  obtain ⟨f, hf, hname⟩ := List.mem_map.1 (hperm.mem_iff.2 (List.mem_map_of_mem hg))
  obtain ⟨v, hv, hr⟩ := hfields f hf
  rw [hname, lookup_of_mem (hperm.nodup_iff.1 hnames) hg] at hv
  obtain rfl := Option.some_inj.1 hv
  exact ⟨f.2, hname ▸ lookup_of_mem hnames hf, hr⟩

-- The bisimulation for the other side relates the equal pairs that stand at one place, turned round; that
-- they stand at one place is what the assumption on names asks of them.
theorem equals_symm
    (hnames : ∀ r s, Meets h a b (.object r) (.object s) → DistinctNames (h.fields r))
    (hequal : a.equals h b = true) : b.equals h a = true := by
  refine equals_iff_exists_isBisimulation.2
    ⟨fun y x => x.equals h y = true ∧ Meets h a b x y, ?_, hequal, .root⟩
  rintro y x ⟨hxy, hmeet⟩
  cases equals_iff_alike.1 hxy with
  | number hx hy hsame => exact .number hy hx hsame.symm
  | null => exact .null
  | bool => exact .bool
  | char => exact .char
  | text => exact .text
  | raw => exact .raw
  | moment hseconds hnanos => exact .moment hseconds.symm hnanos.symm
  | @seq xs ys hitems =>
    obtain ⟨hlen, hitems⟩ := List.forall₂_iff_zip.1 hitems
    refine .seq (List.Forall₂.flip (List.forall₂_iff_zip.2 ⟨hlen, fun hxy => ?_⟩))
    exact ⟨hitems hxy, .item hmeet hxy⟩
  | same => exact .same
  | @object r s htype hcount hfields =>
    have hmeets : ∀ f ∈ h.fields r, ∃ v, (h.fields s).lookup f.1 = some v ∧
        f.2.equals h v = true ∧ Meets h a b f.2 v := by
      intro f hf
      obtain ⟨v, hv, hequal⟩ := hfields f hf
      exact ⟨v, hv, hequal, .field hmeet hf hv⟩
    exact .object htype.symm hcount.symm
      (fields_symm (R := fun x y => x.equals h y = true ∧ Meets h a b x y) (hnames r s hmeet) hcount hmeets)

theorem map_fst_setIn (name : String) (v : Value) (fields : List (String × Value)) :
    (Heap.setIn name v fields).map Prod.fst =
      if name ∈ fields.map Prod.fst then fields.map Prod.fst else fields.map Prod.fst ++ [name] := by
  induction fields with
  | nil => rfl
  | cons f rest ih =>
    by_cases hname : f.1 = name
    · simp [Heap.setIn, hname]
    · simp only [Heap.setIn, if_neg hname, List.map_cons, ih, List.mem_cons, Ne.symm hname, false_or]
      split <;> rfl

theorem DistinctNames.setIn (hnames : DistinctNames fields) (name : String) (v : Value) :
    DistinctNames (Heap.setIn name v fields) := by
  rw [DistinctNames, map_fst_setIn]
  split
  · exact hnames
  · rename_i hnew
    refine List.nodup_append.2 ⟨hnames, List.nodup_singleton name, ?_⟩
    rintro k hk l hl rfl
    exact hnew (List.mem_singleton.1 hl ▸ hk)

namespace Heap

theorem fields_add (h : Heap) (typeName : String) (fields : List (String × Value)) (r : Ref) :
    (h.add typeName fields).2.fields r = if r = h.size then fields else h.fields r := by
  by_cases hr : r = h.records.size <;>
    simp [Heap.fields, record, add, size, Array.getElem?_push, hr]

-- Setting a field of an object outside of the graph does nothing.
theorem fields_setField (h : Heap) (s : Ref) (name : String) (v : Value) (r : Ref) :
    (h.setField s name v).fields r =
      if r = s ∧ r < h.size then setIn name v (h.fields r) else h.fields r := by
  by_cases hrs : r = s
  · by_cases hlt : s < h.records.size <;>
      simp [Heap.fields, record, setField, size, Array.getElem_modify, hrs, hlt]
  · simp [Heap.fields, record, setField, Array.getElem?_modify, hrs, Ne.symm hrs]

-- Graphs put together by adding objects, none with two fields of one name, and by setting fields.
inductive Assembled : Heap → Prop where
  | empty : Assembled .empty
  | add {h : Heap} (hh : Assembled h) (typeName : String) {fields : List (String × Value)}
    (hnames : DistinctNames fields) : Assembled (h.add typeName fields).2
  | setField {h : Heap} (hh : Assembled h) (r : Ref) (name : String) (v : Value) :
    Assembled (h.setField r name v)

theorem Assembled.distinctNames (hh : h.Assembled) (r : Ref) : DistinctNames (h.fields r) := by
  induction hh with
  | empty => exact List.nodup_nil
  | add hh typeName hnames ih =>
    rw [fields_add]
    split
    · exact hnames
    · exact ih
  | setField hh s name v ih =>
    rw [fields_setField]
    split
    · exact ih.setIn name v
    · exact ih

end Heap

-- Equality is symmetric unless an object that stands at the same place as another has two fields of one
-- name, in one of the two values or in the other.
theorem equals_comm_of_distinctNames (h : Heap) (a b : Value)
    (hleft : ∀ r s, Meets h a b (.object r) (.object s) → DistinctNames (h.fields r))
    (hright : ∀ r s, Meets h b a (.object r) (.object s) → DistinctNames (h.fields r)) :
    a.equals h b = true ↔ b.equals h a = true :=
  ⟨equals_symm hleft, equals_symm hright⟩

-- Two objects that lead to each other.
def ring : Heap :=
  (((Heap.empty.add "Node" [("id", .int 1)]).2.add "Node" [("id", .int 1)]).2.setField 0 "next"
    (.object 1)).setField 1 "next" (.object 0)

theorem ring_equals_both_ways :
    (∀ r, DistinctNames (ring.fields r)) ∧ (Value.object 0).equals ring (.object 1) = true ∧
      (Value.object 1).equals ring (.object 0) = true := by
  have hid : DistinctNames [("id", .int 1)] := List.nodup_singleton "id"
  have hring : ring.Assembled := .setField (.setField (.add (.add .empty _ hid) _ hid) ..) ..
  have hequal : (Value.object 0).equals ring (.object 1) = true := by
    -- What is related: the two objects, either way round, and the numbers in them.
    refine equals_iff_exists_isBisimulation.2 ⟨fun x y => x = .object 0 ∧ y = .object 1 ∨
      x = .object 1 ∧ y = .object 0 ∨ x = .int 1 ∧ y = .int 1, ?_, .inl ⟨rfl, rfl⟩⟩
    rintro _ _ (⟨rfl, rfl⟩ | ⟨rfl, rfl⟩ | ⟨rfl, rfl⟩)
    · exact .object rfl rfl (List.forall_mem_cons.2 ⟨⟨.int 1, rfl, .inr (.inr ⟨rfl, rfl⟩)⟩,
        List.forall_mem_singleton.2 ⟨.object 0, rfl, .inr (.inl ⟨rfl, rfl⟩)⟩⟩)
    · exact .object rfl rfl (List.forall_mem_cons.2 ⟨⟨.int 1, rfl, .inr (.inr ⟨rfl, rfl⟩)⟩,
        List.forall_mem_singleton.2 ⟨.object 1, rfl, .inl ⟨rfl, rfl⟩⟩⟩)
    · exact .number rfl rfl .whole
  exact ⟨hring.distinctNames, hequal, (equals_comm_of_distinctNames ring _ _
    (fun r _ _ => hring.distinctNames r) (fun r _ _ => hring.distinctNames r)).1 hequal⟩

-- An object that has its only field twice, and one with another field in the second place.
def repeatedName : Heap :=
  ((Heap.empty.add "P" [("x", .int 1), ("x", .int 1)]).2.add "P" [("x", .int 1), ("y", .int 2)]).2

-- Both names of the first are found in the second, but not the other way round.
theorem repeated_name_equals_one_way :
    (Value.object 0).equals repeatedName (.object 1) = true ∧
      (Value.object 1).equals repeatedName (.object 0) = false := by
  constructor
  · refine equals_iff_exists_isBisimulation.2 ⟨fun x y => x = .object 0 ∧ y = .object 1 ∨
      x = .int 1 ∧ y = .int 1, ?_, .inl ⟨rfl, rfl⟩⟩
    rintro _ _ (⟨rfl, rfl⟩ | ⟨rfl, rfl⟩)
    · exact .object rfl rfl (List.forall_mem_cons.2 ⟨⟨.int 1, rfl, .inr ⟨rfl, rfl⟩⟩,
        List.forall_mem_singleton.2 ⟨.int 1, rfl, .inr ⟨rfl, rfl⟩⟩⟩)
    · exact .number rfl rfl .whole
  · refine Bool.eq_false_iff.2 fun hequal => ?_
    cases equals_iff_alike.1 hequal with
    | number hx => cases hx
    | object htype hcount hfields =>
      -- no field of the first has the second name
      obtain ⟨v, hv, -⟩ := hfields ("y", .int 2) (List.mem_cons_of_mem _ List.mem_cons_self)
      cases hv

end Verdict
