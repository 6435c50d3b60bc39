import TypeMismatch.Value.Key

/-!
# Mappings

An entry that is put under a key already present takes the place, and keeps the key, of the earlier
one; a new key goes to the end. One mapping is laid over another by putting its entries in turn,
except that where both hold a mapping under a key the two are combined in the same way. That has no
end where two mappings lie within themselves and meet again and again.

Source: `deep_update` (`lay`), `_section` (`sectionAt`), and the placing of one value in
`parse_overrides` (`isBlocked`, `place`).
-/

namespace TypeMismatch
namespace Mapping

/-- The value under a key. -/
def get? (m : Mapping) (k : Value) : Option Value :=
  (m.find? fun e => e.1.isSameKey k).map (·.2)

/-- The value under a key, or another if there is none. -/
def getD (m : Mapping) (k fallback : Value) : Value := (get? m k).getD fallback

/-- The mapping with a value put under a key. -/
def put : Mapping → Value → Value → Mapping
  | [], k, v => [(k, v)]
  | e :: m, k, v => if e.1.isSameKey k then (e.1, v) :: m else e :: put m k v

/-- The mapping with the entries of a list put in turn. -/
def putAll (m : Mapping) (es : List (Value × Value)) : Mapping :=
  es.foldl (fun m e => put m e.1 e.2) m

/-- The mapping of a list of entries. -/
def ofList (es : List (Value × Value)) : Mapping := putAll [] es

/-- The mapping under a key; nothing else under it counts. -/
def sectionAt (m : Mapping) (k : Value) : Mapping := (getD m k .null).entries

/-- A value laid over the one before it: mappings are combined in a given way, and anything else
takes the place of what was there. -/
def merged (combine : Mapping → Mapping → Mapping) (old : Option Value) (v : Value) : Value :=
  match old.map Value.opened, v.opened with
  | some (.map base), .map updates => .map (combine base updates)
  | _, _ => v

/-- The mapping with the entries of another put in turn, each laid over the value before it. -/
def putOver (value : Option Value → Value → Value) (base updates : Mapping) : Mapping :=
  updates.foldl (fun m e => put m e.1 (value (get? m e.1) e.2)) base

/-- A mapping laid over another one down to a number of levels, below which entries are only put. -/
def layLevels : Nat → Mapping → Mapping → Mapping
  | 0 => putAll
  | levels + 1 => putOver (merged (layLevels levels))

/-- Whether two values, and values under the same keys in them, are mappings down to a number of
levels. -/
def meet : Nat → Value → Value → Bool
  | levels, u, v =>
    match u.opened, v.opened with
    | .map base, .map updates =>
      match levels with
      | 0 => true
      | levels + 1 => updates.any fun e => (get? base e.1).any fun u => meet levels u e.2
    | _, _ => false

/-- How many levels two values can have on which mappings meet. If there are more, a pair of
mappings meets again below itself, and so without end. -/
def levels (u v : Value) : Nat := u.weight * v.weight

mutual

/-- A value laid over the one before it: mappings are combined, anything else replaces. A part of a
ring has no last level, and is laid down to the last one on which mappings can meet. -/
def layValue (old : Option Value) : Value → Value
  | .map updates =>
    match old.map Value.opened with
    | some (.map base) => .map (lay base updates)
    | _ => .map updates
  | .again isMap n parts =>
    let v := .again isMap n parts
    merged (layLevels ((old.map fun u => levels u v).getD 0)) old v
  | .null => .null
  | .bool b => .bool b
  | .int n => .int n
  | .float x => .float x
  | .nan place => .nan place
  | .complex re im => .complex re im
  | .text s => .text s
  | .broken t => .broken t
  | .bytes bs => .bytes bs
  | .ellipsis => .ellipsis
  | .date d => .date d
  | .moment m => .moment m
  | .list vs => .list vs
  | .tuple vs => .tuple vs
  | .set vs => .set vs

/-- The mapping with one entry laid over it. -/
def layEntry (base : Mapping) : Value × Value → Mapping
  | (k, v) => put base k (layValue (get? base k) v)

/-- The mapping with the entries of another laid over it. -/
def lay (base : Mapping) : List (Value × Value) → Mapping
  | [] => base
  | e :: updates => lay (layEntry base e) updates

end

/-- The value at the end of a path of keys. -/
def path? (m : Mapping) : List String → Option Value
  | [] => some (.map m)
  | [k] => get? m k
  | k :: path =>
    match get? m k with
    | some (.map n) => path? n path
    | _ => none

/-- Whether a path of keys runs into a value that is no mapping before its end. -/
def isBlocked (m : Mapping) : List String → Bool
  | [] => false
  | [_] => false
  | k :: path =>
    match get? m k with
    | none => false
    | some (.map n) => isBlocked n path
    | some _ => true

/-- The mapping with a value put at the end of a path of keys. Mappings that the path needs and that
are missing are made; what stands in the way is replaced. -/
def place (m : Mapping) : List String → Value → Mapping
  | [], _ => m
  | [k], v => put m k v
  | k :: path, v => put m k (.map (place (sectionAt m k) path v))

end Mapping
end TypeMismatch
