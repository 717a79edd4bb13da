import Verdict.Proofs.Comparison.ObjectDiff

namespace Verdict

variable {h : Heap} {limit : Nat} {guarded : Bool} {opened opened₁ opened' : List (Ref × Ref)}
  {todo rest places : List Place} {all inner found : List Difference} {p : Place}

-- What a place asks of a walk: to record a difference, nothing, or to look at the places inside first, with
-- the pairs of objects that count as opened from then on.
inductive Look where
  | entry (d : Difference)
  | nothing
  | inside (opened : List (Ref × Ref)) (places : List Place)

-- Two objects are passed by if they are one object, or if the walk is guarded and has opened them before.
def passedBy (guarded : Bool) (opened : List (Ref × Ref)) (a b : Ref) : Bool :=
  a == b || guarded && opened.contains (a, b)

@[simp] theorem passedBy_iff {a b : Ref} :
    passedBy guarded opened a b = true ↔ a = b ∨ guarded = true ∧ (a, b) ∈ opened := by
  simp [passedBy]

def Heap.look (h : Heap) (limit : Nat) (guarded : Bool) (opened : List (Ref × Ref)) : Place → Look
  | .leftOnly path x => .entry (.atPath path (x.display h limit) missingText)
  | .rightOnly path y => .entry (.atPath path missingText (y.display h limit))
  | .both path (.object a) (.object b) =>
    if passedBy guarded opened a b then .nothing
    else .inside ((a, b) :: opened) (fieldPlaces path (h.fields a) (h.fields b))
  | .both path (.seq xs) (.seq ys) => .inside opened (itemPlaces path 0 xs ys)
  | .both path x y =>
    if x.equals h y then .nothing
    else .entry (.atPath path (x.display h limit) (y.display h limit))

-- Two values that the comparison does not look into.
structure Flat (x y : Value) : Prop where
  not_objects : ∀ a b, x = .object a → y = .object b → False
  not_seqs : ∀ xs ys, x = .seq xs → y = .seq ys → False

theorem look_of_flat {x y : Value} (hflat : Flat x y) (path : String) :
    h.look limit guarded opened (.both path x y) =
      if x.equals h y then .nothing
      else .entry (.atPath path (x.display h limit) (y.display h limit)) := by
  rw [Heap.look]
  · exact hflat.not_objects
  · exact hflat.not_seqs

-- A walk that ends, by what it has to look at and what it finds.
inductive Walks (h : Heap) (limit : Nat) (guarded : Bool) :
    List (Ref × Ref) → List Place → List Difference → List (Ref × Ref) → Prop where
  | done {opened : List (Ref × Ref)} : Walks h limit guarded opened [] [] opened
  | entry {opened opened' : List (Ref × Ref)} {p : Place} {rest : List Place} {d : Difference}
    {found : List Difference} (hlook : h.look limit guarded opened p = .entry d)
    (hrest : Walks h limit guarded opened rest found opened') :
    Walks h limit guarded opened (p :: rest) (d :: found) opened'
  | nothing {opened opened' : List (Ref × Ref)} {p : Place} {rest : List Place}
    {found : List Difference} (hlook : h.look limit guarded opened p = .nothing)
    (hrest : Walks h limit guarded opened rest found opened') :
    Walks h limit guarded opened (p :: rest) found opened'
  | inside {opened opened₁ opened₂ opened' : List (Ref × Ref)} {p : Place} {places rest : List Place}
    {inner found : List Difference} (hlook : h.look limit guarded opened p = .inside opened₁ places)
    (hinner : Walks h limit guarded opened₁ places inner opened₂)
    (hrest : Walks h limit guarded opened₂ rest found opened') :
    Walks h limit guarded opened (p :: rest) (inner ++ found) opened'

-- The step of the comparison is a guarded look.
theorem differences_cons (p : Place) (rest : List Place) : h.differences limit opened (p :: rest) =
    match h.look limit true opened p with
    | .entry d => d :: h.differences limit opened rest
    | .nothing => h.differences limit opened rest
    | .inside opened places => h.differences limit opened (places ++ rest) := by
  fun_cases Heap.look h limit true opened p with
  | case1 path x => rw [Heap.differences]
  | case2 path y => rw [Heap.differences]
  | case3 path a b hknown =>
    rw [Heap.differences, if_pos (by simpa using hknown)]
  | case4 path a b hnew =>
    rw [Heap.differences, if_neg (by simpa using hnew)]
  | case5 path xs ys => rw [Heap.differences]
  | case6 path x y hobject hseq hequal =>
    rw [Heap.differences, if_pos hequal]
    · exact hobject
    · exact hseq
  | case7 path x y hobject hseq hne =>
    rw [Heap.differences, if_neg hne]
    · exact hobject
    · exact hseq

theorem Walks.differences_append (hwalk : Walks h limit true opened todo found opened')
    (rest : List Place) :
    h.differences limit opened (todo ++ rest) = found ++ h.differences limit opened' rest := by
  induction hwalk generalizing rest with
  | done => rfl
  | entry hlook _ ih => rw [List.cons_append, differences_cons, hlook, ih, List.cons_append]
  | nothing hlook _ ih => rw [List.cons_append, differences_cons, hlook, ih]
  | inside hlook _ _ ihinner ihrest =>
    rw [List.cons_append, differences_cons, hlook]
    simp only [ihinner, ihrest, List.append_assoc]

theorem Walks.append (hwalk : Walks h limit guarded opened todo inner opened₁)
    (hrest : Walks h limit guarded opened₁ rest found opened') :
    Walks h limit guarded opened (todo ++ rest) (inner ++ found) opened' := by
  induction hwalk with
  | done => exact hrest
  | entry hlook _ ih => exact .entry hlook (ih hrest)
  | nothing hlook _ ih => exact .nothing hlook (ih hrest)
  | inside hlook hinner _ _ ih =>
    rw [List.append_assoc]
    exact .inside hlook hinner (ih hrest)

theorem Walks.of_inside (hlook : h.look limit guarded opened p = .inside opened₁ places)
    (hinner : Walks h limit guarded opened₁ places found opened') :
    Walks h limit guarded opened [p] found opened' := by
  rw [← List.append_nil found]
  exact .inside hlook hinner .done

theorem walks_cons_iff :
    Walks h limit guarded opened (p :: rest) found opened' ↔
      match h.look limit guarded opened p with
      | .entry d => ∃ tail, found = d :: tail ∧ Walks h limit guarded opened rest tail opened'
      | .nothing => Walks h limit guarded opened rest found opened'
      | .inside opened₁ places => ∃ inner opened₂ tail, found = inner ++ tail ∧
        Walks h limit guarded opened₁ places inner opened₂ ∧
        Walks h limit guarded opened₂ rest tail opened' := by
  constructor
  · intro hwalk
    cases hwalk with
    | entry hlook hrest => rw [hlook]; exact ⟨_, rfl, hrest⟩
    | nothing hlook hrest => rw [hlook]; exact hrest
    | inside hlook hinner hrest => rw [hlook]; exact ⟨_, _, _, rfl, hinner, hrest⟩
  · intro hwalk
    cases hlook : h.look limit guarded opened p with
    | entry d =>
      rw [hlook] at hwalk
      obtain ⟨tail, rfl, hrest⟩ := hwalk
      exact .entry hlook hrest
    | nothing =>
      rw [hlook] at hwalk
      exact .nothing hlook hwalk
    | inside opened₁ places =>
      rw [hlook] at hwalk
      obtain ⟨inner, opened₂, tail, rfl, hinner, hrest⟩ := hwalk
      exact .inside hlook hinner hrest

theorem Walks.unique {all' : List Difference} {opened'' : List (Ref × Ref)}
    (hwalk : Walks h limit guarded opened todo all opened')
    (hwalk' : Walks h limit guarded opened todo all' opened'') : all' = all ∧ opened'' = opened' := by
  induction hwalk generalizing all' opened'' with
  | done =>
    cases hwalk'
    exact ⟨rfl, rfl⟩
  | entry hlook _ ih =>
    rw [walks_cons_iff, hlook] at hwalk'
    obtain ⟨tail, rfl, hrest⟩ := hwalk'
    obtain ⟨rfl, rfl⟩ := ih hrest
    exact ⟨rfl, rfl⟩
  | nothing hlook _ ih =>
    rw [walks_cons_iff, hlook] at hwalk'
    exact ih hwalk'
  | inside hlook _ _ ihinner ihrest =>
    rw [walks_cons_iff, hlook] at hwalk'
    obtain ⟨inner', opened₂', tail, rfl, hinner, hrest⟩ := hwalk'
    obtain ⟨rfl, rfl⟩ := ihinner hinner
    obtain ⟨rfl, rfl⟩ := ihrest hrest
    exact ⟨rfl, rfl⟩

theorem Walks.exists_split {places : List Place}
    (hwalk : Walks h limit guarded opened (places ++ rest) found opened') :
    ∃ first opened₁ second, Walks h limit guarded opened places first opened₁ ∧
      Walks h limit guarded opened₁ rest second opened' := by
  induction places generalizing opened found with
  | nil => exact ⟨[], opened, found, .done, hwalk⟩
  | cons p places ih =>
    cases hwalk with
    | entry hlook hrest =>
      obtain ⟨first, opened₁, second, hfirst, hsecond⟩ := ih hrest
      exact ⟨_, opened₁, second, .entry hlook hfirst, hsecond⟩
    | nothing hlook hrest =>
      obtain ⟨first, opened₁, second, hfirst, hsecond⟩ := ih hrest
      exact ⟨_, opened₁, second, .nothing hlook hfirst, hsecond⟩
    | inside hlook hinner hrest =>
      obtain ⟨first, opened₁, second, hfirst, hsecond⟩ := ih hrest
      exact ⟨_, opened₁, second, .inside hlook hinner hfirst, hsecond⟩

-- A guarded walk ends, whatever graph it goes through. The induction is that of the comparison: it opens a pair
-- of objects that was not opened before, or has less of the values left.
theorem exists_walks_guarded (h : Heap) (limit : Nat) (opened : List (Ref × Ref)) (todo : List Place) :
    ∃ found opened', Walks h limit true opened todo found opened' := by
  fun_induction Heap.differences h limit opened todo with
  | case1 opened => exact ⟨[], opened, .done⟩
  | case2 opened path x rest ih | case3 opened path x rest ih =>
    obtain ⟨found, opened', hrest⟩ := ih
    exact ⟨_, opened', .entry rfl hrest⟩
  | case4 opened path rest a b hknown ih =>
    obtain ⟨found, opened', hrest⟩ := ih
    exact ⟨found, opened', .nothing (if_pos (by simpa using hknown)) hrest⟩
  | case5 opened path rest a b hnew ih =>
    obtain ⟨found, opened', hwalk⟩ := ih
    obtain ⟨inner, opened₁, found, hinner, hrest⟩ := hwalk.exists_split
    exact ⟨_, opened', .inside (if_neg (by simpa using hnew)) hinner hrest⟩
  | case6 opened path rest xs ys ih =>
    obtain ⟨found, opened', hwalk⟩ := ih
    obtain ⟨inner, opened₁, found, hinner, hrest⟩ := hwalk.exists_split
    exact ⟨_, opened', .inside rfl hinner hrest⟩
  | case7 opened path rest x y hobject hseq hequal ih =>
    obtain ⟨found, opened', hrest⟩ := ih
    exact ⟨found, opened', .nothing ((look_of_flat ⟨hobject, hseq⟩ path).trans (if_pos hequal)) hrest⟩
  | case8 opened path rest x y hobject hseq hne ih =>
    obtain ⟨found, opened', hrest⟩ := ih
    exact ⟨_, opened', .entry ((look_of_flat ⟨hobject, hseq⟩ path).trans (if_neg hne)) hrest⟩

-- The comparison finds what the guarded walk finds, which is one list.
theorem exists_walks_iff {all : List Difference} :
    (∃ opened', Walks h limit true opened todo all opened') ↔ all = h.differences limit opened todo := by
  have hfound {found : List Difference} {opened' : List (Ref × Ref)}
      (hwalk : Walks h limit true opened todo found opened') : found = h.differences limit opened todo := by
    have happend := hwalk.differences_append []
    rw [List.append_nil, Heap.differences, List.append_nil] at happend
    exact happend.symm
  constructor
  · rintro ⟨opened', hwalk⟩
    exact hfound hwalk
  · rintro rfl
    obtain ⟨found, opened', hwalk⟩ := exists_walks_guarded h limit opened todo
    exact ⟨opened', hfound hwalk ▸ hwalk⟩

end Verdict
