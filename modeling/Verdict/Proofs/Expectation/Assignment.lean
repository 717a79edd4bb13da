import Verdict.Expectation.Satisfies
import Verdict.Proofs.Expectation.Checks
import Verdict.Proofs.Matching.Number
import Mathlib.Data.List.ProdSigma

namespace Verdict

namespace Satisfies

variable {σ ι : Type} {shown : ι → String} {subject : String} {items : List ι} {checks : List (Check σ ι)}
  {accepts : Nat → Nat → Bool}

-- The verdict of every check on every item, by position and index.
def Verdicts (shown : ι → String) (subject : String) (items : List ι) (checks : List (Check σ ι))
    (accepts : Nat → Nat → Bool) : Prop :=
  ∀ (p i : Nat) (c : Check σ ι) (x : ι), checks[p]? = some c → items[i]? = some x →
    c.HasVerdict shown x (itemSubject subject i) (accepts p i)

def acceptedItems (accepts : Nat → Nat → Bool) (items p : Nat) : List Nat :=
  (List.range items).filter (accepts p)

-- The accepted items of the first so many checks.
def verdictEdges (accepts : Nat → Nat → Bool) (checks items : Nat) : List (List Nat) :=
  (List.range checks).map (acceptedItems accepts items)

theorem mem_acceptedItems {n p i : Nat} :
    i ∈ acceptedItems accepts n p ↔ i < n ∧ accepts p i = true := by
  simp [acceptedItems]

@[simp] theorem length_verdictEdges (accepts : Nat → Nat → Bool) (n m : Nat) :
    (verdictEdges accepts n m).length = n := by
  simp [verdictEdges]

theorem take_verdictEdges (accepts : Nat → Nat → Bool) (m : Nat) {k n : Nat} (hk : k ≤ n) :
    (verdictEdges accepts n m).take k = verdictEdges accepts k m := by
  rw [verdictEdges, ← List.map_take, List.take_range, Nat.min_eq_left hk, verdictEdges]

theorem getElem?_verdictEdges (accepts : Nat → Nat → Bool) (m : Nat) {p n : Nat} (hp : p < n) :
    (verdictEdges accepts n m)[p]? = some (acceptedItems accepts m p) := by
  simp [verdictEdges, hp]

theorem hasEdge_verdictEdges_iff {n m p i : Nat} :
    HasEdge (verdictEdges accepts n m) p i ↔ p < n ∧ i < m ∧ accepts p i = true := by
  constructor
  · rintro ⟨es, hes, hi⟩
    have hp : p < n := by
      have h := (List.getElem?_eq_some_iff.1 hes).1
      rwa [length_verdictEdges] at h
    rw [getElem?_verdictEdges accepts m hp] at hes
    cases hes
    exact ⟨hp, mem_acceptedItems.1 hi⟩
  · rintro ⟨hp, hi⟩
    exact ⟨_, getElem?_verdictEdges accepts m hp, mem_acceptedItems.2 hi⟩

theorem exists_edges (k : Nat) (checks : List (Check σ ι)) (s : σ)
    (hverdicts : ∀ (p i : Nat) (c : Check σ ι) (x : ι), checks[p]? = some c → items[i]? = some x →
      c.HasVerdict shown x (itemSubject subject i) (accepts (k + p) i)) :
    ∃ s', (edges shown subject items checks).run s =
        (.ok ((List.range' k checks.length).map (acceptedItems accepts items.length)), s') ∧
      ∀ log, (edges (fun x => shown x.1) subject items.zipIdx
          ((checks.zipIdx k).map fun c => c.1.noted c.2)).run (log, s) =
        (.ok ((List.range' k checks.length).map (acceptedItems accepts items.length)),
          (log ++ List.range' k checks.length ×ˢ List.range items.length, s')) := by
  induction checks generalizing k s with
  | nil => exact ⟨s, rfl, fun log => by simp [edges]; rfl⟩
  | cons c checks ih =>
    obtain ⟨results, s₁, hresults, hpassed, hlog⟩ := c.exists_results shown subject k (accepts k) 0 items s
      fun i x hx => by
        rw [Nat.zero_add]
        exact hverdicts 0 i c x rfl hx
    obtain ⟨s', hrest, hrestlog⟩ := ih (k + 1) s₁ fun p i c' x hc hx => by
      have h := hverdicts (p + 1) i c' x hc hx
      rwa [← Nat.add_assoc, Nat.add_right_comm] at h
    have hlength : results.length = items.length := by simpa using congrArg List.length hpassed
    have haccepted : accepted results = acceptedItems accepts items.length k := by
      rw [← hlength] at hpassed
      rw [accepted, indexedWhere_fst results (accepts k) hpassed, hlength, acceptedItems]
    refine ⟨s', ?_, fun log => ?_⟩
    · rw [edges, Run.bind_ok hresults, Run.bind_ok hrest, haccepted, List.length_cons,
        List.range'_succ, List.map_cons]
      rfl
    · rw [List.zipIdx_cons, List.map_cons, edges, Run.bind_ok (hlog log), Run.bind_ok (hrestlog _),
        haccepted, List.length_cons, List.range'_succ, List.map_cons, List.product_cons,
        List.append_assoc, List.range_eq_range']
      rfl

-- The lines know a check by its name only.
def SameNames {τ κ : Type} (checks : List (Check σ ι)) (checks' : List (Check τ κ)) : Prop :=
  List.Forall₂ (fun c c' => ∀ position, c.name position = c'.name position) checks checks'

theorem unmatchedRows_of_sameNames {τ κ : Type} {checks' : List (Check τ κ)}
    (hnames : SameNames checks checks') (k : Nat) (ys : List (List Nat × Option Nat)) :
    (((checks.zip ys).zipIdx k).filter fun c => c.1.2.2.isNone).map
        (fun c => Line.nested (c.1.1.name c.2 ++ " " ++ blame c.1.2.1)) =
      (((checks'.zip ys).zipIdx k).filter fun c => c.1.2.2.isNone).map
        fun c => Line.nested (c.1.1.name c.2 ++ " " ++ blame c.1.2.1) := by
  induction hnames generalizing k ys with
  | nil => rfl
  | cons hname _ ih =>
    cases ys with
    | nil => rfl
    | cons y ys =>
      simp only [List.zip_cons_cons, List.zipIdx_cons, List.filter_cons]
      by_cases hy : y.2.isNone = true
      · simp [hy, ih, hname]
      · simp [hy, ih]

theorem unmatchedLines_of_sameNames {τ κ : Type} {checks' : List (Check τ κ)}
    (hnames : SameNames checks checks') (edges : List (List Nat)) (assignment : List (Option Nat)) :
    unmatchedLines checks edges assignment = unmatchedLines checks' edges assignment :=
  unmatchedRows_of_sameNames hnames 0 _

theorem sameNames_noted (checks : List (Check σ ι)) (k : Nat) :
    SameNames ((checks.zipIdx k).map fun c => c.1.noted c.2) checks := by
  induction checks generalizing k with
  | nil => exact .nil
  | cons c checks ih => exact .cons (c.name_noted k) (ih (k + 1))

-- What a check is called in the report on its failure: by its own text, or else by its number.
inductive Called : Check σ ι → Nat → String → Prop where
  | byText {text : String} {test : ι → Run σ Bool} {p : Nat} :
    Called (.predicate text test) p ("`" ++ text ++ "`")
  | byNumber {expectation : ι → Expectation σ} {p : Nat} :
    Called (.satisfying expectation) p ("expectation #" ++ toString (p + 1))

-- What is said of a check without an item of its own, by the items that it accepts.
inductive Blames : List Nat → String → Prop where
  | accepted {i : Nat} {is : List Nat} :
    Blames (i :: is)
      ("only matched items already taken: [" ++ ", ".intercalate ((i :: is).map toString) ++ "]")
  | nothing : Blames [] "matched no item"

theorem called_name (c : Check σ ι) (p : Nat) : Called c p (c.name p) := by
  cases c with
  | predicate text test => exact .byText
  | satisfying expectation => exact .byNumber

theorem blames_blame (accepted : List Nat) : Blames accepted (blame accepted) := by
  cases accepted with
  | nil => exact .nothing
  | cons i is =>
    have hblame : blame (i :: is) = "only matched items already taken: [" ++
        ", ".intercalate ((i :: is).map toString) ++ "]" := by
      rw [blame, indexList, ← String.append_assoc, ← String.append_assoc]
      rfl
    rw [hblame]
    exact .accepted

theorem exists_unmatchedLines {edges : List (List Nat)} {assignment : List (Option Nat)}
    (hedges : edges.length = checks.length) (hassigned : Assigned edges assignment) :
    ∃ unmatched : List Nat, unmatched.Pairwise (· < ·) ∧
      (∀ p, p ∈ unmatched ↔ p < checks.length ∧ ¬Raises edges p) ∧
      List.Forall₂ (fun p line => ∃ c es, checks[p]? = some c ∧ edges[p]? = some es ∧
          line = .nested (c.name p ++ " " ++ blame es))
        unmatched (unmatchedLines checks edges assignment) := by
  let rows := (checks.zip (edges.zip assignment)).zipIdx
  let left := rows.filter fun c => c.1.2.2.isNone
  have hrow {row : (Check σ ι × List Nat × Option Nat) × Nat} :
      row ∈ rows ↔ checks[row.2]? = some row.1.1 ∧ edges[row.2]? = some row.1.2.1 ∧
        assignment[row.2]? = some row.1.2.2 := by
    rw [List.mem_zipIdx_iff_getElem?, List.getElem?_zip_eq_some, List.getElem?_zip_eq_some]
  refine ⟨left.map (·.2), ?_, fun p => ?_, ?_⟩
  · have hsorted : (rows.map (·.2)).Pairwise (· < ·) := by
      rw [List.zipIdx_map_snd]
      exact List.pairwise_lt_range'
    exact hsorted.sublist (List.filter_sublist.map _)
  · rw [← hedges, ← hassigned.unmatched p, List.mem_map]
    constructor
    · rintro ⟨row, hmem, rfl⟩
      obtain ⟨hmem, hnone⟩ := List.mem_filter.1 hmem
      rw [(hrow.1 hmem).2.2, Option.isNone_iff_eq_none.1 hnone]
    · intro hp
      have hlt : p < assignment.length := (List.getElem?_eq_some_iff.1 hp).1
      rw [hassigned.length] at hlt
      have hlt' : p < checks.length := hedges ▸ hlt
      refine ⟨((checks[p], edges[p], none), p), List.mem_filter.2 ⟨hrow.2 ⟨?_, ?_, hp⟩, rfl⟩, rfl⟩
      · exact List.getElem?_eq_getElem hlt'
      · exact List.getElem?_eq_getElem hlt
  · rw [unmatchedLines, List.forall₂_map_left_iff, List.forall₂_map_right_iff, List.forall₂_same]
    intro row hmem
    obtain ⟨hc, he, -⟩ := hrow.1 (List.mem_filter.1 hmem).1
    exact ⟨row.1.1, row.1.2.1, hc, he, rfl⟩

-- A failure names the checks that did not raise the number of those that can be matched, and all items that
-- such a check accepts were given to others.
def Explained (subject : String) (items : Nat) (checks : List (Check σ ι)) (accepts : Nat → Nat → Bool)
    (result : Result) : Prop :=
  ∃ assignment unmatched lines,
    maximumMatching? (verdictEdges accepts checks.length items) items = some assignment ∧
    result = .detailed subject (some false)
      (⟨0, "Expected " ++ toString checks.length ++ " checks to each match a distinct item, but only " ++
        toString (matchingNumber (verdictEdges accepts checks.length items)) ++ " could be matched:"⟩ :: lines) ∧
    unmatched.Pairwise (· < ·) ∧
    (∀ p, p ∈ unmatched ↔ p < checks.length ∧
      matchingNumber (verdictEdges accepts (p + 1) items) = matchingNumber (verdictEdges accepts p items)) ∧
    List.Forall₂ (fun p line => ∃ c called blamed, checks[p]? = some c ∧ Called c p called ∧
      Blames (acceptedItems accepts items p) blamed ∧ line = ⟨1, called ++ " " ++ blamed⟩) unmatched lines ∧
    ∀ p ∈ unmatched, ∀ i ∈ acceptedItems accepts items p, ∃ q, q ≠ p ∧ assignment[q]? = some (some i)

theorem explained {assignment : List (Option Nat)} {m : Nat}
    (hsome : maximumMatching? (verdictEdges accepts checks.length m) m = some assignment)
    (hassigned : Assigned (verdictEdges accepts checks.length m) assignment) :
    Explained subject m checks accepts (.detailed subject (some false)
      (.top (summary checks.length (matchingNumber (verdictEdges accepts checks.length m))) ::
        unmatchedLines checks (verdictEdges accepts checks.length m) assignment)) := by
  obtain ⟨unmatched, hsorted, hmem, hlines⟩ :=
    exists_unmatchedLines (length_verdictEdges accepts checks.length m) hassigned
  refine ⟨assignment, unmatched, _, hsome, rfl, hsorted, fun p => ?_, hlines.imp ?_, ?_⟩
  · rw [hmem]
    refine and_congr_right fun hp => ?_
    rw [not_raises_iff, take_verdictEdges accepts m hp, take_verdictEdges accepts m hp.le]
  · rintro p line ⟨c, es, hc, hes, rfl⟩
    have hp := (List.getElem?_eq_some_iff.1 hc).1
    rw [getElem?_verdictEdges accepts m hp] at hes
    cases hes
    exact ⟨c, _, _, hc, called_name c p, blames_blame _, rfl⟩
  · intro p hp i hi
    obtain ⟨hlt, hraises⟩ := (hmem p).1 hp
    have hnone : assignment[p]? = some none := by
      rw [hassigned.unmatched, length_verdictEdges]
      exact ⟨hlt, hraises⟩
    exact hassigned.taken hnone (hasEdge_verdictEdges_iff.2 ⟨hlt, mem_acceptedItems.1 hi⟩)

theorem matchingNumber_verdictEdges_iff (accepts : Nat → Nat → Bool) (n m : Nat) :
    matchingNumber (verdictEdges accepts n m) = n ↔
      ∃ f : Fin n → Fin m, Function.Injective f ∧ ∀ p, accepts p.val (f p).val = true := by
  have hiff : matchingNumber (verdictEdges accepts n m) = (verdictEdges accepts n m).length ↔ _ :=
    matchingNumber_eq_length_iff
  rw [length_verdictEdges] at hiff
  rw [hiff]
  constructor
  · rintro ⟨f, hinj, hedge⟩
    have hedge (p : Fin n) := hasEdge_verdictEdges_iff.1 (hedge p)
    refine ⟨fun p => ⟨f p, (hedge p).2.1⟩, fun p q heq => ?_, fun p => (hedge p).2.2⟩
    exact hinj (congrArg Fin.val heq)
  · rintro ⟨f, hinj, haccepts⟩
    refine ⟨fun p => (f p).val, fun p q heq => hinj (Fin.ext heq), fun p => ?_⟩
    exact hasEdge_verdictEdges_iff.2 ⟨p.isLt, (f p).isLt, haccepts p⟩

-- Distinct items remain distinct when checks and items change places.
theorem exists_distinct_of_equiv {accepts' : Nat → Nat → Bool} {n n' m m' : Nat} (π : Fin n' ≃ Fin n)
    (ρ : Fin m ≃ Fin m') (hsame : ∀ p i, accepts' p.val (ρ i).val = accepts (π p).val i.val) :
    (∃ f : Fin n → Fin m, Function.Injective f ∧ ∀ p, accepts p.val (f p).val = true) →
      ∃ f : Fin n' → Fin m', Function.Injective f ∧ ∀ p, accepts' p.val (f p).val = true := by
  rintro ⟨f, hinj, haccepts⟩
  refine ⟨fun p => ρ (f (π p)), ?_, fun p => ?_⟩
  · exact ρ.injective.comp (hinj.comp π.injective)
  · rw [hsame]
    exact haccepts (π p)

theorem passed_decided (text : String) (holds : Bool) (line : Line) (lines : List Line) :
    (Result.decided text holds (line :: lines)).passed = holds := by
  cases holds <;> rfl

-- A run has its outcome, its explanation, and a log of the pairs that met.
theorem exists_satisfies (hverdicts : Verdicts shown subject items checks accepts) (s : σ) :
    ∃ result s', (Expectation.satisfies shown items checks subject).run s = (.ok result, s') ∧
      (Expectation.satisfies (fun x => shown x.1) items.zipIdx
          (checks.zipIdx.map fun c => c.1.noted c.2) subject).run ([], s) =
        (.ok result, (List.range checks.length ×ˢ List.range items.length, s')) ∧
      (result.passed = true ↔
        matchingNumber (verdictEdges accepts checks.length items.length) = checks.length) ∧
      (result.passed = false → Explained subject items.length checks accepts result) := by
  let graph := verdictEdges accepts checks.length items.length
  have hshifted (p i : Nat) (c : Check σ ι) (x : ι) (hc : checks[p]? = some c)
      (hx : items[i]? = some x) : c.HasVerdict shown x (itemSubject subject i) (accepts (0 + p) i) := by
    rw [Nat.zero_add]
    exact hverdicts p i c x hc hx
  obtain ⟨s', hedges, hlog⟩ := exists_edges 0 checks s hshifted
  have hlog := hlog []
  rw [← List.range_eq_range'] at hedges hlog
  rw [List.nil_append] at hlog
  obtain ⟨assignment, hsome, hassigned⟩ := exists_assigned graph items.length fun p i hedge =>
    (hasEdge_verdictEdges_iff.1 hedge).2.1
  have hgetD : (maximumMatching? graph items.length).getD [] = assignment := by rw [hsome]; rfl
  refine ⟨.decided subject (matchingNumber graph == checks.length)
    (.top (summary checks.length (matchingNumber graph)) :: unmatchedLines checks graph assignment),
    s', ?_, ?_, ?_, fun hfailed => ?_⟩
  · rw [Expectation.satisfies, Run.bind_ok hedges, ← hassigned.count, ← hgetD]
    rfl
  · rw [Expectation.satisfies, Run.bind_ok hlog, ← hassigned.count, ← hgetD,
      ← unmatchedLines_of_sameNames (sameNames_noted checks 0), List.length_zipIdx, List.length_map, List.length_zipIdx]
    rfl
  · rw [passed_decided, beq_iff_eq]
  · rw [passed_decided] at hfailed
    rw [hfailed]
    exact explained hsome hassigned

-- It passes just if the checks can be given distinct items that they accept, in whatever order checks and items
-- come; it runs every check on every item once; and it explains a failure.
theorem decides_distinct_assignment (shown : ι → String) (subject : String)
    (items : List ι) (checks : List (Check σ ι)) (accepts : Nat → Nat → Bool)
    (hverdicts : Verdicts shown subject items checks accepts) (s : σ) :
    ∃ result s', (Expectation.satisfies shown items checks subject).run s = (.ok result, s') ∧
      (∃ asked : List (Nat × Nat), asked.Nodup ∧
        (∀ p i, (p, i) ∈ asked ↔ p < checks.length ∧ i < items.length) ∧
        (Expectation.satisfies (fun x => shown x.1) items.zipIdx
          (checks.zipIdx.map fun c => c.1.noted c.2) subject).run ([], s) = (.ok result, (asked, s'))) ∧
      (result.passed = true ↔ ∃ f : Fin checks.length → Fin items.length,
        Function.Injective f ∧ ∀ p, accepts p.val (f p).val = true) ∧
      (∀ (items' : List ι) (checks' : List (Check σ ι)) (accepts' : Nat → Nat → Bool)
        (π : Fin checks'.length ≃ Fin checks.length) (ρ : Fin items'.length ≃ Fin items.length),
        Verdicts shown subject items' checks' accepts' →
        (∀ p i, accepts' p.val i.val = accepts (π p).val (ρ i).val) →
        ∀ s₁ result₁ s₁', (Expectation.satisfies shown items' checks' subject).run s₁ =
          (.ok result₁, s₁') → result₁.passed = result.passed) ∧
      (result.passed = false → Explained subject items.length checks accepts result) := by
  obtain ⟨result, s', hrun, hnoted, hpassed, hfailed⟩ := exists_satisfies hverdicts s
  refine ⟨result, s', hrun, ⟨_, ?_, ?_, hnoted⟩, ?_, ?_, hfailed⟩
  · exact List.nodup_range.product List.nodup_range
  · intro p i
    rw [List.mem_product, List.mem_range, List.mem_range]
  · rw [hpassed, matchingNumber_verdictEdges_iff]
  · intro items' checks' accepts' π ρ hverdicts' hsame s₁ result₁ s₁' hrun₁
    obtain ⟨result₂, s₂, hrun₂, -, hpassed₂, -⟩ := exists_satisfies hverdicts' s₁
    rw [hrun₁] at hrun₂
    cases hrun₂
    rw [Bool.eq_iff_iff, hpassed, hpassed₂, matchingNumber_verdictEdges_iff,
      matchingNumber_verdictEdges_iff]
    constructor
    · exact exists_distinct_of_equiv π.symm ρ fun p i => by rw [hsame, Equiv.apply_symm_apply]
    · exact exists_distinct_of_equiv π ρ.symm fun p i => by rw [hsame, Equiv.apply_symm_apply]

-- Two checks that accept one and the same of two items.
def evenAndTwo : List (Check Unit Nat) :=
  [.predicate "x is even" fun x => return x % 2 == 0, .predicate "x == 2" fun x => return x == 2]

theorem even_and_two_share_an_item :
    Verdicts toString "xs" [2, 3] evenAndTwo (fun _ i => i == 0) ∧
      ∃ result, (Expectation.satisfies toString [2, 3] evenAndTwo "xs").run () = (.ok result, ()) ∧
        result.passed = false ∧ Explained "xs" 2 evenAndTwo (fun _ i => i == 0) result ∧
        result = .detailed "xs" (some false)
          [⟨0, "Expected 2 checks to each match a distinct item, but only 1 could be matched:"⟩,
            ⟨1, "`x == 2` only matched items already taken: [0]"⟩] := by
  have hverdicts : Verdicts toString "xs" [2, 3] evenAndTwo (fun _ i => i == 0) := by
    intro p i c x hc hx s r s' hrun
    match p, i with
    | 0, 0 | 0, 1 | 1, 0 | 1, 1 => cases hc; cases hx; cases hrun; rfl
    | _, i + 2 => cases hx
    | p + 2, _ => cases hc
  obtain ⟨result, s', hrun, -, hpassed, -, hexplained⟩ :=
    decides_distinct_assignment toString "xs" [2, 3] evenAndTwo _ hverdicts ()
  have hfailed : result.passed = false := by
    rw [Bool.eq_false_iff, ne_eq, hpassed]
    rintro ⟨f, hinj, haccepts⟩
    let even : Fin evenAndTwo.length := ⟨0, Nat.two_pos⟩
    let two : Fin evenAndTwo.length := ⟨1, Nat.one_lt_two⟩
    have heven : (f even).val = 0 := beq_iff_eq.1 (haccepts even)
    have htwo : (f two).val = 0 := beq_iff_eq.1 (haccepts two)
    have hsame : even = two := hinj (Fin.ext (heven.trans htwo.symm))
    exact absurd (congrArg Fin.val hsame) Nat.zero_ne_one
  have hmatching : maximumMatching? [[0], [0]] 2 = some [some 0, none] := by cbv
  refine ⟨hverdicts, result, hrun, hfailed, hexplained hfailed, ?_⟩
  cases hrun
  let assignment := (maximumMatching? [[0], [0]] 2).getD []
  change Result.decided "xs" (assignment.countP (·.isSome) == 2)
    (.top (summary 2 (assignment.countP (·.isSome))) ::
      unmatchedLines evenAndTwo [[0], [0]] assignment) = _
  rw [show assignment = [some 0, none] from congrArg (·.getD []) hmatching]
  rfl

end Satisfies

end Verdict
