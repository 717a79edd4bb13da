import Verdict.Expr.Shape

namespace Verdict

-- What a hasher is fed, item by item.
inductive Mark where
  -- the kind of a node or of a call
  | tag (n : Nat)
  -- which value of an enumeration it is
  | choice (n : Nat)
  | length (n : Nat)
  | text (s : String)
  deriving DecidableEq, Repr, Hashable

namespace Mark

def ofOption : Option String → List Mark
  | none => [.choice 0]
  | some s => [.choice 1, .text s]

end Mark

-- What the fingerprint of an expression is made of: kinds, operators and texts. Of values only literals come in.
def Expr.marks {σ : Type} (h : Heap) (limit : Nat) : Expr σ → List Mark
  | .compare op l r => .tag 0 :: .choice (CompareOp.all.idxOf op) :: l.marks h limit ++ r.marks h limit
  | .logical .and l r => .tag 1 :: l.marks h limit ++ r.marks h limit
  | .logical .or l r => .tag 2 :: l.marks h limit ++ r.marks h limit
  | .not e => .tag 3 :: e.marks h limit
  | .member path _ => .tag 4 :: .length path.length :: path.map .text
  | .leaf text _ => [.tag 5, .text text]
  | .literal v _ => [.tag 6, .text (v.display h limit)]
  | .contains e item => .tag 7 :: e.marks h limit ++ .tag 0 :: item.marks h limit
  | .any e p => .tag 7 :: e.marks h limit ++ .tag 1 :: Mark.ofOption (p.map (·.text))
  | .all e p => .tag 7 :: e.marks h limit ++ [.tag 2, .text p.text]
  | .sequenceEqual e other c =>
    .tag 7 :: e.marks h limit ++ .tag 3 :: other.marks h limit ++ Mark.ofOption (c.map (·.text))

-- Shapes that were compiled before, by the fingerprints of their expressions.
structure ShapeCache where
  -- a hasher with everything it is fed
  digest : List Mark → UInt64
  -- the newest first, which stand for all older ones with the same key
  entries : List (UInt64 × Shape)

namespace ShapeCache

variable {σ : Type}

def empty (digest : List Mark → UInt64) : ShapeCache := ⟨digest, []⟩

-- The shape of an expression, and the cache as it is then. A shape is reused if the text at its root is that of the
-- expression; any other one under the same key gives way to a new one.
def compile (cache : ShapeCache) (h : Heap) (limit : Nat) (e : Expr σ) : Shape × ShapeCache :=
  let key := cache.digest (e.marks h limit)
  match (cache.entries.lookup key).filter (·.text 0 == e.text h limit) with
  | some shape => (shape, cache)
  | none =>
    let shape := Shape.of h limit e
    (shape, { cache with entries := (key, shape) :: cache.entries })

-- The cache of a process that has compiled these expressions, one after the other, each with the objects as they
-- were at that time.
def after (digest : List Mark → UInt64) (limit : Nat) (past : List (Heap × Expr σ)) : ShapeCache :=
  past.foldl (fun cache earlier => (cache.compile earlier.1 limit earlier.2).2) (.empty digest)

end ShapeCache

end Verdict
