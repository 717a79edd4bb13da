import Verdict.Value.Basic
import Mathlib.Data.Fintype.EquivFin
import Mathlib.Logic.Relation

namespace Verdict

variable {h : Heap} {r s : Ref}

-- The object is the value, or stands in it with only sequences around.
inductive Value.Mentions (r : Ref) : Value → Prop where
  | object : Mentions r (.object r)
  | item {items : List Value} {v : Value} (hv : v ∈ items) (hmentions : Mentions r v) :
    Mentions r (.seq items)

-- A field of the first object mentions the second one.
def Heap.Leads (h : Heap) (r s : Ref) : Prop := ∃ f ∈ h.fields r, Value.Mentions s f.2

def Heap.Acyclic (h : Heap) : Prop := ∀ r, ¬ Relation.TransGen h.Leads r r

theorem Heap.Leads.lt_size (hleads : h.Leads r s) : r < h.size := by
  obtain ⟨f, hf, -⟩ := hleads
  exact lt_size_of_mem_fields hf

-- There is no endless way through a finite graph that is acyclic.
theorem Heap.Acyclic.wellFounded (hacyclic : h.Acyclic) : WellFounded fun s r => h.Leads r s := by
  have hwell : WellFounded fun s r : Fin h.size => Relation.TransGen h.Leads r s :=
    have : IsTrans (Fin h.size) fun s r => Relation.TransGen h.Leads r s :=
      ⟨fun _ _ _ hab hbc => hbc.trans hab⟩
    have : Std.Irrefl fun s r : Fin h.size => Relation.TransGen h.Leads r s := ⟨fun r => hacyclic r⟩
    Finite.wellFounded_of_trans_of_irrefl _
  -- an object outside the heap leads nowhere
  have hout {r : Ref} (hr : ¬ r < h.size) : Acc (fun s r => h.Leads r s) r :=
    ⟨r, fun _ hleads => absurd hleads.lt_size hr⟩
  have hin (r : Fin h.size) : Acc (fun s r => h.Leads r s) r := by
    induction r using hwell.induction with
    | _ r ih =>
      refine ⟨_, fun s hleads => ?_⟩
      by_cases hs : s < h.size
      · exact ih ⟨s, hs⟩ (.single hleads)
      · exact hout hs
  refine ⟨fun r => ?_⟩
  by_cases hr : r < h.size
  · exact hin ⟨r, hr⟩
  · exact hout hr

-- A graph is acyclic if its objects come in an order that every reference goes down.
theorem Heap.acyclic_of_lt (hlt : ∀ r s, h.Leads r s → s < r) : h.Acyclic := by
  have hdown {r s : Ref} (hpath : Relation.TransGen h.Leads r s) : s < r := by
    induction hpath with
    | single hleads => exact hlt _ _ hleads
    | tail _ hleads ih => exact Nat.lt_trans (hlt _ _ hleads) ih
  exact fun r hcycle => Nat.lt_irrefl r (hdown hcycle)

end Verdict
