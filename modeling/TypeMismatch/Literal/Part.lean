import TypeMismatch.Literal
import TypeMismatch.Literal.Token

/-!
# Parts of expressions

An expression is read from its first word on, and the words behind it are left. The rules for the
parts of an expression are stated here over a reader of the expressions inside of them.

Items have commas between them, and one comma may follow the last. An item may have a star before
it, or a name and the mark `:=`. A comprehension stands for its items by one item and the clauses
behind it; a clause has targets, a source and any number of conditions.

Source: `literal_eval`, the grammar of what stands inside of an expression.
-/

namespace TypeMismatch
namespace Literal

/-- A reader takes something from the start of the words and leaves the words behind it. -/
abbrev Reader (α : Type) := List Token → Option (α × List Token)

/-- An expression that others are made of. -/
inductive Part where
  | expression
  /-- Operands with operators of a level between them, or of tighter ones. -/
  | operation (level : Nat)
  /-- An operand with the signs before it. -/
  | operand
  /-- An atom with the calls and the choices of parts behind it. -/
  | primary
deriving DecidableEq, Repr

/-- The words behind a mark. -/
def behind? (m : String) : List Token → Option (List Token)
  | .mark s :: ts => if s = m then some ts else none
  | _ => none

/-- Whether words begin with a mark. -/
def begins (m : String) (ts : List Token) : Bool := (behind? m ts).isSome

/-- The operators between operands, looser ones first. -/
def operators : List (List (List String)) :=
  [[["or"]], [["and"]],
   [["not", "in"], ["is", "not"], ["in"], ["is"], ["=="], ["!="], ["<"], [">"], ["<="], [">="]],
   [["|"]], [["^"]], [["&"]], [["<<"], [">>"]], [["+"], ["-"]],
   [["*"], ["/"], ["//"], ["%"], ["@"]]]

/-- The level of comparisons, before which `not` may stand. -/
def comparisonLevel : Nat := 2

/-- The level of the operands of comparisons. -/
def bitwiseLevel : Nat := 3

/-- The operator of a level at the start of the words. -/
def operator? (level : Nat) (ts : List Token) : Option (List String × List Token) :=
  (operators.getD level []).findSome? fun words =>
    (words.foldlM (fun ts m => behind? m ts) ts).map fun rest => (words, rest)

/-- Further items, each behind a comma. Every item takes at least one word, and `fuel` bounds their
number. -/
def itemsBehind {α : Type} (item : Reader α) (isEnd : List Token → Bool) :
    Nat → Reader (List α)
  | 0, _ => none
  | fuel + 1, ts =>
    match behind? "," ts with
    | none => some ([], ts)
    | some rest =>
      if isEnd rest then some ([], rest)
      else do
        let (x, rest) ← item rest
        let (xs, rest) ← itemsBehind item isEnd fuel rest
        some (x :: xs, rest)

/-- At least one item. -/
def items {α : Type} (item : Reader α) (isEnd : List Token → Bool) : Reader (List α) := fun ts => do
  let (x, ts) ← item ts
  let (xs, ts) ← itemsBehind item isEnd (ts.length + 1) ts
  some (x :: xs, ts)

section

variable (read : Part → Reader Literal)

/-- An expression, with or without a name for what it stands for before it. -/
def named : Reader Literal
  | .name _ :: .mark ":=" :: ts => (read .expression ts).map fun (_, ts) => (other, ts)
  | ts => read .expression ts

/-- An expression with a star before it, if one stands there, or one without. -/
def starredOr (level : Part) (plain : Reader Literal) : Reader Literal := fun ts =>
  match behind? "*" ts with
  | some rest => (read level rest).map fun (e, ts) => (starred e, ts)
  | none => plain ts

/-- An item of a collection. -/
def item : Reader Literal := starredOr read (.operation bitwiseLevel) (named read)

/-- Whether a clause of a comprehension begins. -/
def beginsClause (ts : List Token) : Bool := begins "for" ts || begins "async" ts

/-- What a clause gives its items one after the other. -/
def target : Reader Literal := fun ts => do
  let (e, ts) ← starredOr read .primary (read .primary) ts
  if e.isTarget then some (e, ts) else none

/-- The words behind the conditions of a clause. Every condition takes at least one word, and `fuel`
bounds their number. -/
def behindConditions? : Nat → List Token → Option (List Token)
  | 0, _ => none
  | fuel + 1, ts =>
    match behind? "if" ts with
    | none => some ts
    | some rest => do
      let (_, rest) ← read (.operation 0) rest
      behindConditions? fuel rest

/-- The words behind the clauses of a comprehension. Every clause takes at least one word, and
`fuel` bounds their number. -/
def behindClauses? : Nat → List Token → Option (List Token)
  | 0, _ => none
  | fuel + 1, ts => do
    let ts ← behind? "for" ((behind? "async" ts).getD ts)
    let (_, ts) ← items (target read) (begins "in") ts
    let ts ← behind? "in" ts
    let (_, ts) ← read (.operation 0) ts
    let ts ← behindConditions? read (ts.length + 1) ts
    if beginsClause ts then behindClauses? fuel ts else some ts

/-- What follows the first item up to a closing bracket: the other items, or nothing if the whole is
a comprehension. -/
def itemsOrClauses (first : Literal) (closing : String) : Reader (Option (List Literal)) :=
  fun ts => do
    if beginsClause ts then
      if first matches starred _ then none
      let ts ← behindClauses? read (ts.length + 1) ts
      let ts ← behind? closing ts
      some (none, ts)
    else
      let (es, ts) ← itemsBehind (item read) (begins closing) (ts.length + 1) ts
      let ts ← behind? closing ts
      some (some es, ts)

/-- An argument of a call. -/
inductive Argument where
  | positional
  | starred
  | named
  | doubleStarred
deriving DecidableEq, Repr

/-- Whether one argument may stand somewhere before another. -/
def Argument.mayPrecede : Argument → Argument → Bool
  | named, positional | doubleStarred, positional | doubleStarred, starred => false
  | _, _ => true

/-- An argument of a call at the start of the words. -/
def argument : Reader Argument
  | .mark "**" :: ts => (read .expression ts).map fun (_, ts) => (.doubleStarred, ts)
  | .mark "*" :: ts => (read .expression ts).map fun (_, ts) => (.starred, ts)
  | .name _ :: .mark "=" :: ts => (read .expression ts).map fun (_, ts) => (.named, ts)
  | ts => (named read ts).map fun (_, ts) => (.positional, ts)

/-- The words behind the arguments of a call and the closing bracket. The only argument may be a
comprehension. -/
def behindArguments? (ts : List Token) : Option (List Token) := do
  let (first, ts) ← argument read ts
  if beginsClause ts then
    if first != .positional then none
    let ts ← behindClauses? read (ts.length + 1) ts
    behind? ")" ts
  else
    let (others, ts) ← itemsBehind (argument read) (begins ")") (ts.length + 1) ts
    if (first :: others).Pairwise (Argument.mayPrecede · ·) then behind? ")" ts else none

/-- The words behind a bound of a slice, which may be missing. -/
def behindBound? (ts : List Token) : Option (List Token) :=
  if begins ":" ts || begins "," ts || begins "]" ts then some ts
  else (read .expression ts).map (·.2)

/-- The words behind a slice, given those behind its first colon. -/
def behindSlice? (ts : List Token) : Option (List Token) := do
  let ts ← behindBound? read ts
  match behind? ":" ts with
  | some rest => behindBound? read rest
  | none => some ts

/-- What stands between square brackets for the choice of a part. -/
def choice : Reader Literal
  | .name s :: .mark ":=" :: ts => named read (.name s :: .mark ":=" :: ts)
  | .mark "*" :: ts => read .expression ts
  | ts => do
    let ts ← if begins ":" ts then some ts else (read .expression ts).map (·.2)
    match behind? ":" ts with
    | some rest => (behindSlice? read rest).map fun rest => (other, rest)
    | none => some (other, ts)

/-- A parameter of a function without a name. -/
inductive Parameter where
  | plain (hasDefault : Bool)
  /-- The mark behind parameters that cannot be named. -/
  | slash
  /-- The mark before parameters that must be named, or a parameter for all further arguments. -/
  | star (hasName : Bool)
  | doubleStar
deriving DecidableEq, Repr

/-- A parameter at the start of the words. -/
def parameter : Reader Parameter
  | .mark "/" :: ts => some (.slash, ts)
  | .mark "**" :: .name _ :: ts => some (.doubleStar, ts)
  | .mark "*" :: .name _ :: ts => some (.star true, ts)
  | .mark "*" :: ts => some (.star false, ts)
  | .name _ :: .mark "=" :: ts => (read .expression ts).map fun (_, ts) => (.plain true, ts)
  | .name _ :: ts => some (.plain false, ts)
  | _ => none

end

/-- Whether parameters can follow a star. -/
def areStarParameters : List Parameter → Bool
  | [] | [.doubleStar] => true
  | .plain _ :: ps => areStarParameters ps
  | _ => false

/-- Whether parameters can follow others: given whether there are some before, with a slash among
them, and with a default, which the plain ones behind it must then have as well. -/
def areParameters (isBehind isBehindSlash hasDefault : Bool) : List Parameter → Bool
  | [] | [.doubleStar] => true
  | .plain default :: ps =>
    (default || !hasDefault) && areParameters true isBehindSlash default ps
  | .slash :: ps => isBehind && !isBehindSlash && areParameters true true hasDefault ps
  | .star hasName :: ps =>
    (hasName || ps.head? matches some (.plain _)) && areStarParameters ps
  | .doubleStar :: _ => false

/-- The words behind the parameters of a function and the colon. -/
def behindParameters? (read : Part → Reader Literal) (ts : List Token) : Option (List Token) :=
  match behind? ":" ts with
  | some rest => some rest
  | none => do
    let (ps, ts) ← items (parameter read) (begins ":") ts
    if areParameters false false false ps then behind? ":" ts else none

end Literal
end TypeMismatch
