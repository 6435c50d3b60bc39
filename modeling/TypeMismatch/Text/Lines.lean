/-!
# Line breaks

A text may end its lines with a line feed, with a carriage return, or with both. Reading it makes
every one of these a line feed.

Source: `read_text` in `load_config` and `_load_config`.
-/

namespace TypeMismatch
namespace Text

/-- The text with every line break as a line feed. -/
def unifyBreaks : List Char → List Char
  | [] => []
  | [c] => [if c = '\r' then '\n' else c]
  | c :: d :: cs =>
    if c = '\r' then
      if d = '\n' then '\n' :: unifyBreaks cs else '\n' :: unifyBreaks (d :: cs)
    else c :: unifyBreaks (d :: cs)

/-- The lines of a text without carriage returns are as they are. -/
theorem unifyBreaks_of_notMem : ∀ {s : List Char}, '\r' ∉ s → unifyBreaks s = s
  | [], _ => rfl
  | [c], h => by
    have hc : c ≠ '\r' := fun e => h (by simp [e])
    simp [unifyBreaks, hc]
  | c :: d :: cs, h => by
    have hc : c ≠ '\r' := fun e => h (by simp [e])
    have ih := unifyBreaks_of_notMem (s := d :: cs) fun m => h (List.mem_cons_of_mem _ m)
    simp [unifyBreaks, hc, ih]

end Text
end TypeMismatch
