import Verdict.Value.Display
import Verdict.Proofs.Value.Acyclic
import Mathlib.Data.List.Forall2

namespace Verdict

-- How the text of a value is made up.
inductive Layout where
  | flat (text : String)
  -- the slots of a preview, with an ellipsis behind them if there are more items
  | items (slots : List Layout) (ellipsis : Bool)
  | object (ref : Ref) (parts : List Layout)
  -- no more than the name, as the object is being printed already
  | cycle (ref : Ref)

variable {h : Heap} {limit : Nat} {guarded : Bool} {stack stack' stack'' : List Ref}
  {todo rest : List Value} {layouts slots : List Layout} {v : Value} {r : Ref}

namespace Layout

mutual

def text (h : Heap) : Layout → String
  | .flat text => text
  | .items slots ellipsis =>
    "[" ++ commaSeparated (texts h slots ++ if ellipsis then [ellipsisText] else []) ++ "]"
  | .object r parts =>
    recordText (h.typeName r) (List.zipWith (fun f part => f.1 ++ ": " ++ part) (h.fields r) (texts h parts))
  | .cycle r => "<cycle: " ++ (if h.typeName r = "" then "object" else h.typeName r) ++ ">"

def texts (h : Heap) : List Layout → List String
  | [] => []
  | layout :: rest => layout.text h :: texts h rest

end

theorem texts_eq_map (layouts : List Layout) : texts h layouts = layouts.map (text h) := by
  induction layouts with
  | nil => rfl
  | cons layout rest ih => rw [texts, ih, List.map_cons]

end Layout

namespace Value

def IsFlat : Value → Prop
  | .seq _ | .object _ => False
  | _ => True

end Value

-- The items of a sequence that have a slot of their own.
def previewed {α : Type} (limit : Nat) (items : List α) : List α :=
  if items.length ≤ limit then items else items.take (limit - 1)

theorem previewSlots_eq {α : Type} (limit : Nat) (items : List α) (shown : α → String) :
    previewSlots limit items shown =
      (previewed limit items).map shown ++ if limit < items.length then [ellipsisText] else [] := by
  unfold previewSlots previewed
  by_cases hfits : items.length ≤ limit
  · rw [if_pos hfits, if_pos hfits, if_neg (Nat.not_lt.2 hfits), List.append_nil]
  · rw [if_neg hfits, if_neg hfits, if_pos (Nat.lt_of_not_le hfits)]

-- From a stack, the values are printed with these layouts, one after the other, and leave a stack. An object is pushed
-- before its fields and popped after them, while the items of a sequence get a copy of the stack, which is thrown
-- away. Only a guarded printer looks whether an object is on the stack.
inductive Writes (h : Heap) (limit : Nat) (guarded : Bool) :
    List Ref → List Value → List Layout → List Ref → Prop where
  | done {stack : List Ref} : Writes h limit guarded stack [] [] stack
  | flat {stack stack' : List Ref} {v : Value} {rest : List Value} {layouts : List Layout}
    (hflat : v.IsFlat) (hrest : Writes h limit guarded stack rest layouts stack') :
    Writes h limit guarded stack (v :: rest) (.flat (v.display h limit) :: layouts) stack'
  | items {stack stack₁ stack' : List Ref} {items rest : List Value} {slots layouts : List Layout}
    (hitems : Writes h limit guarded stack (previewed limit items) slots stack₁)
    (hrest : Writes h limit guarded stack rest layouts stack') :
    Writes h limit guarded stack (.seq items :: rest)
      (.items slots (decide (limit < items.length)) :: layouts) stack'
  | cycle {stack stack' : List Ref} {r : Ref} {rest : List Value} {layouts : List Layout}
    (hguarded : guarded = true) (hr : r ∈ stack) (hrest : Writes h limit guarded stack rest layouts stack') :
    Writes h limit guarded stack (.object r :: rest) (.cycle r :: layouts) stack'
  | object {stack stack₁ stack' : List Ref} {r : Ref} {rest : List Value} {parts layouts : List Layout}
    (hr : guarded = true → r ∉ stack)
    (hfields : Writes h limit guarded (r :: stack) ((h.fields r).map (·.2)) parts stack₁)
    (hrest : Writes h limit guarded stack₁.tail rest layouts stack') :
    Writes h limit guarded stack (.object r :: rest) (.object r parts :: layouts) stack'

namespace Writes

-- Whatever was pushed has been popped.
theorem stack_eq (hwrites : Writes h limit guarded stack todo layouts stack') : stack' = stack := by
  induction hwrites with
  | done => rfl
  | flat _ _ ih | items _ _ _ ih | cycle _ _ _ ih => exact ih
  | object _ _ _ ihfields ihrest => rw [ihrest, ihfields, List.tail_cons]

theorem unique {layouts' : List Layout} (hwrites : Writes h limit guarded stack todo layouts stack')
    (hwrites' : Writes h limit guarded stack todo layouts' stack'') : layouts' = layouts := by
  induction hwrites generalizing layouts' stack'' with
  | done =>
    cases hwrites'
    rfl
  | flat hflat _ ih =>
    cases hwrites' with
    | flat _ hrest => rw [ih hrest]
    | items | cycle | object => cases hflat
  | items _ _ ihitems ihrest =>
    cases hwrites' with
    | flat hflat => cases hflat
    | items hitems hrest => rw [ihitems hitems, ihrest hrest]
  | cycle hguarded hr _ ih =>
    cases hwrites' with
    | flat hflat => cases hflat
    | cycle _ _ hrest => rw [ih hrest]
    | object hr' => exact absurd hr (hr' hguarded)
  | object hr hfields hrest ihfields ihrest =>
    cases hwrites' with
    | flat hflat => cases hflat
    | cycle hguarded hr' => exact absurd hr' (hr hguarded)
    | object _ hfields' hrest' =>
      rw [hfields.stack_eq] at ihrest hrest
      rw [hfields'.stack_eq] at hrest'
      rw [ihfields hfields', ihrest hrest']

theorem cons {layout : Layout} (hfirst : Writes h limit guarded stack [v] [layout] stack)
    (hrest : Writes h limit guarded stack rest layouts stack) :
    Writes h limit guarded stack (v :: rest) (layout :: layouts) stack := by
  cases hfirst with
  | flat hflat => exact .flat hflat hrest
  | items hitems => exact .items hitems hrest
  | cycle hguarded hr => exact .cycle hguarded hr hrest
  | object hr hfields =>
    refine .object hr hfields ?_
    rwa [hfields.stack_eq]

theorem exists_of_forall (hall : ∀ v ∈ todo, ∃ layout, Writes h limit guarded stack [v] [layout] stack) :
    ∃ layouts, Writes h limit guarded stack todo layouts stack := by
  induction todo with
  | nil => exact ⟨[], .done⟩
  | cons v rest ih =>
    obtain ⟨hfirst, hrest⟩ := List.forall_mem_cons.1 hall
    obtain ⟨layout, hfirst⟩ := hfirst
    obtain ⟨layouts, hrest⟩ := ih hrest
    exact ⟨layout :: layouts, hfirst.cons hrest⟩

end Writes

theorem mem_of_mem_previewed {items : List Value} (hv : v ∈ previewed limit items) : v ∈ items := by
  unfold previewed at hv
  split at hv
  · exact hv
  · exact List.mem_of_mem_take hv

theorem shown_of_flat (hflat : v.IsFlat) : v.shown h limit stack = v.display h limit := by
  cases v with
  | seq | object => cases hflat
  | _ => rw [Value.display, Value.shown, Value.shown]

theorem shown_seq (items : List Value) : (Value.seq items).shown h limit stack =
    "[" ++ commaSeparated (previewSlots limit items (Value.shown h limit stack)) ++ "]" := by
  rw [Value.shown, previewSlots, previewSlots, List.length_attach, List.map_take, List.map_take,
    List.attach_map_val]

theorem shown_cycle (hr : r ∈ stack) :
    (Value.object r).shown h limit stack = (Layout.cycle r).text h := by
  rw [Value.shown, dif_pos hr]
  rfl

theorem shown_object (hr : r ∉ stack) : (Value.object r).shown h limit stack =
    recordText (h.typeName r)
      ((h.fields r).map fun f => f.1 ++ ": " ++ f.2.shown h limit (r :: stack)) := by
  rw [Value.shown, dif_neg hr]
  exact congrArg _ (List.attach_map_val (f := fun f : String × Value => f.1 ++ ": " ++ f.2.shown h limit (r :: stack)))

-- The recursion is the one of the text: inside an object fewer objects are left that are not on the stack, and inside
-- a sequence there are smaller values.
theorem exists_writes (h : Heap) (limit : Nat) (stack : List Ref) (v : Value) :
    ∃ layout, Writes h limit true stack [v] [layout] stack := by
  fun_induction Value.shown h limit stack v with
  | case10 stack items ih =>
    obtain ⟨slots, hitems⟩ := Writes.exists_of_forall fun v hv => ih v (mem_of_mem_previewed hv)
    exact ⟨_, .items hitems .done⟩
  | case11 stack r hr => exact ⟨_, .cycle rfl hr .done⟩
  | case12 stack r hr ih =>
    have hfields : ∀ w ∈ (h.fields r).map (·.2),
        ∃ layout, Writes h limit true (r :: stack) [w] [layout] (r :: stack) :=
      List.forall_mem_map.2 fun f hf => ih f.1 f.2 hf
    obtain ⟨parts, hparts⟩ := Writes.exists_of_forall hfields
    exact ⟨_, .object (fun _ => hr) hparts .done⟩
  | _ => exact ⟨_, .flat trivial .done⟩

theorem Writes.texts_eq (hwrites : Writes h limit true stack todo layouts stack') :
    layouts.map (Layout.text h) = todo.map (Value.shown h limit stack) := by
  induction hwrites with
  | done => rfl
  | flat hflat _ ih => rw [List.map_cons, List.map_cons, ih, Layout.text, shown_of_flat hflat]
  | items hitems _ ihitems ih =>
    rw [List.map_cons, List.map_cons, ih, Layout.text, Layout.texts_eq_map, ihitems, shown_seq,
      previewSlots_eq]
    simp only [decide_eq_true_eq]
  | cycle _ hr _ ih => rw [List.map_cons, List.map_cons, ih, shown_cycle hr]
  | object hr hfields _ ihfields ih =>
    rw [hfields.stack_eq, List.tail_cons] at ih
    rw [List.map_cons, List.map_cons, ih, Layout.text, Layout.texts_eq_map, ihfields, shown_object (hr rfl),
      List.map_map, List.zipWith_map_right, List.zipWith_self]
    rfl

-- Without cycles a guarded printer never finds what it looks for, as every object on its stack leads to all that is
-- left to print inside.
theorem Writes.unguarded (hacyclic : h.Acyclic) (hwrites : Writes h limit true stack todo layouts stack')
    (hbelow : ∀ s ∈ stack, ∀ v ∈ todo, ∀ r, v.Mentions r → Relation.TransGen h.Leads s r) :
    Writes h limit false stack todo layouts stack' := by
  induction hwrites with
  | done => exact .done
  | flat hflat _ ih => exact .flat hflat (ih fun s hs v hv => hbelow s hs v (.tail _ hv))
  | items _ _ ihitems ih =>
    refine .items (ihitems fun s hs v hv r hr => ?_) (ih fun s hs v hv => hbelow s hs v (.tail _ hv))
    exact hbelow s hs _ (.head _) r (.item (mem_of_mem_previewed hv) hr)
  | cycle _ hr => exact absurd (hbelow _ hr _ (.head _) _ .object) (hacyclic _)
  | @object stack stack₁ stack' r rest parts layouts _ hfields _ ihfields ih =>
    refine .object nofun (ihfields ?_) (ih ?_)
    · intro s hs v hv t ht
      obtain ⟨f, hf, rfl⟩ := List.mem_map.1 hv
      have hleads : h.Leads r t := ⟨f, hf, ht⟩
      rcases List.mem_cons.1 hs with rfl | hs
      · exact .single hleads
      · exact (hbelow s hs _ (.head _) r .object).tail hleads
    · rw [hfields.stack_eq]
      exact fun s hs v hv => hbelow s hs v (.tail _ hv)

end Verdict
