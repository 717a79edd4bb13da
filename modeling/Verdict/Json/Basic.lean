import Verdict.Number.Binary64

namespace Verdict

inductive Json where
  | null
  | bool (b : Bool)
  | int (n : Int)
  | float (x : Binary64)
  | text (s : String)
  | array (items : List Json)
  | object (members : List (String × Json))
  deriving Inhabited

namespace Json

-- The members with one more among them; it takes the place of one of that name.
def putMember (name : String) (value : Json) : List (String × Json) → List (String × Json)
  | [] => [(name, value)]
  | (k, v) :: rest =>
    if name = k then (name, value) :: rest
    else if name < k then (name, value) :: (k, v) :: rest
    else (k, v) :: putMember name value rest

-- An object of members in any order; of several with one name the last counts.
def ofMembers (members : List (String × Json)) : Json :=
  .object (members.foldl (fun sorted m => putMember m.1 m.2 sorted) [])

-- A number that is not finite has no form and becomes null.
def ofFloat (x : Binary64) : Json :=
  match x with
  | .finite .. => .float x
  | _ => .null

def ofOption {α : Type} (f : α → Json) : Option α → Json
  | none => .null
  | some a => f a

def ofNat (n : Nat) : Json := .int n

def ofList {α : Type} (f : α → Json) (items : List α) : Json := .array (items.map f)

def isNull (j : Json) : Bool := j matches .null

def bool? : Json → Option Bool
  | .bool b => some b
  | _ => none

def int? : Json → Option Int
  | .int n => some n
  | _ => none

def nat? : Json → Option Nat
  | .int (.ofNat n) => some n
  | _ => none

def text? : Json → Option String
  | .text s => some s
  | _ => none

def items? : Json → Option (List Json)
  | .array items => some items
  | _ => none

-- A member of an object.
def member? (j : Json) (name : String) : Option Json :=
  match j with
  | .object members => members.lookup name
  | _ => none

-- A member that is there and not null.
def given? (j : Json) (name : String) : Option Json := (j.member? name).filter fun v => !v.isNull

def textAt? (j : Json) (name : String) : Option String := (j.member? name).bind (·.text?)

def natAt? (j : Json) (name : String) : Option Nat := (j.member? name).bind (·.nat?)

def itemsAt? (j : Json) (name : String) : Option (List Json) := (j.member? name).bind (·.items?)

-- Whether a member is true; one that is missing is not.
def holdsAt (j : Json) (name : String) : Bool := (j.member? name).any (·.bool? == some true)

end Json

end Verdict
