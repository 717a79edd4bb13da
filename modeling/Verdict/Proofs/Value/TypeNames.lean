import Verdict.TypeName

namespace Verdict

namespace TypeName

variable {path tail a : List Char} {c : Char}

-- Behind the last pair of colons there is none.
theorem afterColons?_of_some (htail : afterColons? path = some tail) : afterColons? tail = none := by
  fun_induction afterColons? path with
  | case1 => cases htail
  | case2 c rest tail' hrest ih =>
    cases htail
    exact ih hrest
  | case3 c rest hrest hcolons ih =>
    cases htail
    cases rest with
    | nil => rfl
    | cons d rest =>
      rw [afterColons?] at hrest
      split at hrest
      · cases hrest
      · assumption
  | case4 c rest hrest hcolons ih => cases htail

theorem lastPart_lastPart (path : List Char) : lastPart (lastPart path) = lastPart path := by
  cases hpath : afterColons? path with
  | none =>
    have hself : lastPart path = path := by rw [lastPart, hpath, Option.getD_none]
    rw [hself, hself]
  | some tail =>
    have hlast : lastPart path = tail := by rw [lastPart, hpath, Option.getD_some]
    rw [hlast, lastPart, afterColons?_of_some hpath, Option.getD_none]

theorem suffix_of_afterColons? (htail : afterColons? path = some tail) : tail <:+ path := by
  fun_induction afterColons? path with
  | case1 => cases htail
  | case2 c rest tail' hrest ih =>
    cases htail
    exact (ih hrest).trans (List.suffix_cons c rest)
  | case3 c rest hrest hcolons ih =>
    cases htail
    exact (List.tail_suffix rest).trans (List.suffix_cons c rest)
  | case4 c rest hrest hcolons ih => cases htail

theorem lastPart_suffix (path : List Char) : lastPart path <:+ path := by
  cases hpath : afterColons? path with
  | none =>
    rw [lastPart, hpath]
    exact List.suffix_rfl
  | some tail =>
    rw [lastPart, hpath]
    exact suffix_of_afterColons? hpath

-- A separator ends the path that is open, whatever came before.
theorem shortenFrom_append_separator (hc : isPathChar c = false) (path a b : List Char) :
    shortenFrom path (a ++ c :: b) = shortenFrom path a ++ c :: shorten b := by
  fun_induction shortenFrom path a with
  | case1 path => rw [List.nil_append, shortenFrom, hc, if_neg Bool.false_ne_true, shorten]
  | case2 path d rest hd ih => rw [List.cons_append, shortenFrom, if_pos hd, ih]
  | case3 path d rest hd ih => rw [List.cons_append, shortenFrom, if_neg hd, ih, List.append_assoc, List.cons_append]

theorem shortenFrom_of_path (path : List Char) (ha : ∀ d ∈ a, isPathChar d = true) :
    shortenFrom path a = lastPart (path ++ a) := by
  induction a generalizing path with
  | nil => rw [shortenFrom, List.append_nil]
  | cons d rest ih =>
    obtain ⟨hd, hrest⟩ := List.forall_mem_cons.1 ha
    rw [shortenFrom, if_pos hd, ih (path ++ [d]) hrest, List.append_assoc, List.singleton_append]

theorem shorten_lastPart (hpath : ∀ d ∈ path, isPathChar d = true) : shorten (lastPart path) = lastPart path := by
  rw [shorten, shortenFrom_of_path [] fun d hd => hpath d ((lastPart_suffix path).subset hd), List.nil_append,
    lastPart_lastPart]

-- What is shortened once has nothing left to shorten, piece by piece.
theorem shorten_shortenFrom (a : List Char) (hpath : ∀ d ∈ path, isPathChar d = true) :
    shorten (shortenFrom path a) = shortenFrom path a := by
  fun_induction shortenFrom path a with
  | case1 path => exact shorten_lastPart hpath
  | case2 path d rest hd ih =>
    exact ih (List.forall_mem_append.2 ⟨hpath, List.forall_mem_singleton.2 hd⟩)
  | case3 path d rest hd ih =>
    rw [shorten, shortenFrom_append_separator (Bool.eq_false_iff.2 hd), ← shorten, shorten_lastPart hpath, ih nofun]

theorem shorten_wrapperPath_append (full : List Char) :
    shorten (DeclaredType.wrapperPath ++ full) = DeclaredType.wrapper ++ shorten full := by
  have hsplit : DeclaredType.wrapperPath = "core::option::Option".toList ++ ['<'] := by decide
  have hpath : ∀ d ∈ "core::option::Option".toList, isPathChar d = true := List.all_eq_true.1 (by decide)
  have hlast : lastPart "core::option::Option".toList = "Option".toList := by decide
  have hwrapper : DeclaredType.wrapper = "Option".toList ++ ['<'] := by decide
  rw [hsplit, List.append_assoc, List.singleton_append, shorten, shortenFrom_append_separator (by decide),
    shortenFrom_of_path [] hpath, List.nil_append, hlast, hwrapper, List.append_assoc, List.singleton_append]

end TypeName

theorem toList_shortTypeName (full : String) : (shortTypeName full).toList = TypeName.shorten full.toList := by
  rw [shortTypeName, String.toList_ofList]

namespace DeclaredType

-- The full name of the nullable wrapper around a type.
def wrapped (full : String) : String := String.ofList wrapperPath ++ full ++ ">"

theorem toList_wrapped (full : String) : (wrapped full).toList = wrapperPath ++ (full.toList ++ ['>']) := by
  have hclosing : ">".toList = ['>'] := by decide
  rw [wrapped, String.toList_append, String.toList_append, String.toList_ofList, hclosing, List.append_assoc]

theorem nullable_wrapped (full : String) : (ofFullName (wrapped full)).nullable = true := by
  rw [ofFullName, toList_wrapped]
  exact List.isPrefixOf_iff_prefix.2 (List.prefix_append _ _)

theorem toList_name_wrapped (full : String) :
    (ofFullName (wrapped full)).name.toList = wrapper ++ (TypeName.shorten full.toList ++ ['>']) := by
  have hclosing : TypeName.shorten (full.toList ++ ['>']) = TypeName.shorten full.toList ++ ['>'] :=
    TypeName.shortenFrom_append_separator (by decide) [] full.toList []
  rw [ofFullName, toList_shortTypeName, toList_wrapped, TypeName.shorten_wrapperPath_append, hclosing]

theorem unwrapped_wrapped (full : String) : (ofFullName (wrapped full)).unwrapped = (ofFullName full).name := by
  have hstrip : stripStart? wrapper (ofFullName (wrapped full)).name.toList =
      some (TypeName.shorten full.toList ++ ['>']) := stripStart?_eq_some_iff.2 (toList_name_wrapped full)
  rw [unwrapped, nullable_wrapped, hstrip]
  dsimp only
  rw [if_pos List.getLast?_concat, List.dropLast_concat]
  rfl

end DeclaredType

-- The short name of a text is made up of the short names of what stands between its separators. Nothing is left to
-- shorten in it, and the wrapper around a type, however it is put together, is nullable and has the short name of the
-- type inside.
theorem short_names_are_compositional :
    (∀ (a b : String) (c : Char), isAlphanumeric c = false → c ≠ '_' → c ≠ ':' →
      shortTypeName (a ++ String.singleton c ++ b) = shortTypeName a ++ String.singleton c ++ shortTypeName b) ∧
      (∀ a : String, shortTypeName (shortTypeName a) = shortTypeName a) ∧
      ∀ full : String, (DeclaredType.ofFullName (DeclaredType.wrapped full)).nullable = true ∧
        (DeclaredType.ofFullName (DeclaredType.wrapped full)).unwrapped = (DeclaredType.ofFullName full).name := by
  refine ⟨fun a b c halphanumeric hunderscore hcolon => ?_, fun a => ?_, fun full => ?_⟩
  · have hc : TypeName.isPathChar c = false := by
      rw [TypeName.isPathChar, halphanumeric, beq_false_of_ne hunderscore, beq_false_of_ne hcolon]
      rfl
    have hsplit := TypeName.shortenFrom_append_separator hc [] a.toList b.toList
    apply String.toList_inj.1
    simp only [toList_shortTypeName, String.toList_append, String.toList_singleton, List.append_assoc,
      List.singleton_append]
    exact hsplit
  · apply String.toList_inj.1
    rw [toList_shortTypeName, toList_shortTypeName]
    exact TypeName.shorten_shortenFrom a.toList nofun
  · exact ⟨DeclaredType.nullable_wrapped full, DeclaredType.unwrapped_wrapped full⟩

-- A generic type in other ones, with the path of each of them.
theorem nested_short_name :
    isAlphanumeric '<' = false ∧
      shortTypeName ("alloc::vec::Vec" ++ String.singleton '<' ++ "(model::User, &str)>") = "Vec<(User, &str)>" ∧
      (DeclaredType.ofFullName
        (DeclaredType.wrapped "alloc::vec::Vec<(model::User, &str)>")).unwrapped = "Vec<(User, &str)>" := by
  have hopening : isAlphanumeric '<' = false := by decide
  obtain ⟨hsplit, -, hwrapped⟩ := short_names_are_compositional
  refine ⟨hopening, (hsplit _ _ _ hopening (by decide) (by decide)).trans ?_, (hwrapped _).2.trans ?_⟩
  · decide
  · decide

end Verdict
