import Verdict.Text.Property
import Verdict.Value.Basic

namespace Verdict

namespace TypeName

-- What follows the last pair of colons, if there is one.
def afterColons? : List Char → Option (List Char)
  | [] => none
  | c :: rest =>
    match afterColons? rest with
    | some tail => some tail
    | none => if c = ':' ∧ rest.head? = some ':' then some rest.tail else none

-- The last part of a path.
def lastPart (path : List Char) : List Char := (afterColons? path).getD path

def isPathChar (c : Char) : Bool := isAlphanumeric c || c == '_' || c == ':'

-- Every path shortened to its last part, `path` being the one that is open; all between them is kept.
def shortenFrom (path : List Char) : List Char → List Char
  | [] => lastPart path
  | c :: rest =>
    if isPathChar c then shortenFrom (path ++ [c]) rest else lastPart path ++ c :: shortenFrom [] rest

def shorten (full : List Char) : List Char := shortenFrom [] full

end TypeName

def shortTypeName (full : String) : String := String.ofList (TypeName.shorten full.toList)

-- What is left of a text behind a beginning, if it has that beginning.
def stripStart? (start cs : List Char) : Option (List Char) :=
  if start.isPrefixOf cs then some (cs.drop start.length) else none

theorem stripStart?_eq_some_iff {start cs rest : List Char} :
    stripStart? start cs = some rest ↔ cs = start ++ rest := by
  constructor
  · intro h
    rw [stripStart?] at h
    split at h
    case isFalse => cases h
    case isTrue hstart =>
      obtain ⟨tail, rfl⟩ := List.isPrefixOf_iff_prefix.1 hstart
      rw [List.drop_left, Option.some.injEq] at h
      rw [h]
  · rintro rfl
    rw [stripStart?, if_pos (List.isPrefixOf_iff_prefix.2 (List.prefix_append _ _)), List.drop_left]

-- The static type of an operand.
structure DeclaredType where
  name : String
  nullable : Bool
  deriving DecidableEq, Repr

namespace DeclaredType

-- How the full name of a nullable type begins.
def wrapperPath : List Char := "core::option::Option<".toList

def wrapper : List Char := "Option<".toList

def ofFullName (full : String) : DeclaredType :=
  ⟨shortTypeName full, wrapperPath.isPrefixOf full.toList⟩

-- The type inside the nullable wrapper, or the name itself.
def unwrapped (d : DeclaredType) : String :=
  match d.nullable, stripStart? wrapper d.name.toList with
  | true, some inner =>
    if inner.getLast? = some '>' then String.ofList inner.dropLast else d.name
  | _, _ => d.name

-- Whether the type inside the wrapper is a text type, borrowed or not.
def isText (d : DeclaredType) : Bool :=
  let name := d.unwrapped.toList.dropWhile (· = '&')
  let name := (stripStart? "'static ".toList name).getD name
  name == "str".toList || name == "String".toList || name == "Cow<str>".toList

end DeclaredType

-- One side of a comparison: its value, and its declared type if that is known.
structure Operand where
  value : Value
  declared : Option DeclaredType

namespace Operand

def untyped (v : Value) : Operand := ⟨v, none⟩

def isNullable (o : Operand) : Bool := o.declared.any (·.nullable)

def unwrappedType? (o : Operand) : Option String := o.declared.map (·.unwrapped)

-- A text, or a null declared with a text type.
def isTextLike (o : Operand) : Bool :=
  match o.value with
  | .text _ => true
  | .null => o.declared.any (·.isText)
  | _ => false

end Operand

end Verdict
