import TypeMismatch.Failure

/-!
# Results with records

A request that reads names offers records to the log on the way, whether or not it succeeds in the
end. The log decides which of them are shown.

Source: the calls of `debug` and `warning` in `_coerce`, `resolve_signatures` and
`describe_type_mismatch`.
-/

namespace TypeMismatch

/-- The records that a request offers, and its result. -/
structure Traced (α : Type) where
  records : List Record
  result : Except Failure α

namespace Traced

/-- A result without records. -/
def of {α : Type} (result : Except Failure α) : Traced α := ⟨[], result⟩

/-- The records that a log shows, and the result unless a handler fails before. -/
def shownIn {α : Type} (log : Log) (t : Traced α) : Traced α :=
  match log.shownUntilFault t.records with
  | (records, some fault) => ⟨records, .error (.log (.outlet fault))⟩
  | (records, none) => ⟨records, t.result⟩

/-- The records of a first request and of one that needs its result. -/
def andThen {α β : Type} (x : Traced α) (f : α → Traced β) : Traced β :=
  match x.result with
  | .ok a => ⟨x.records ++ (f a).records, (f a).result⟩
  | .error e => ⟨x.records, .error e⟩

instance : Monad Traced where
  pure a := of (.ok a)
  bind := andThen

end Traced
end TypeMismatch
