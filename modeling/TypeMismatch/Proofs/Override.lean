import TypeMismatch.Override
import TypeMismatch.Proofs.Result
import TypeMismatch.Proofs.Value.Place

/-!
# What overrides come to

An item of `parse_overrides` that can be read has a path and a value (`Reads`), and it is refused
for one of three causes (`Refuses`): it has no sign, its path has no key, or a part of its path
leads to something else than a mapping.  What a run of items leaves on the paths apart from theirs,
and where it puts values, follows item by item from what one item does (`placeItem_eq_ok_iff`).
Items whose paths are apart from each other can be taken in any order, since each leaves the paths
of the others free (`Independent.taken_perm`): the mapping is the same but for the order of its
entries.
-/

namespace TypeMismatch
namespace Override

variable {machine : Machine} {item : String} {items items' : List String} {m n : Mapping}
  {path p q : List String} {v w : Value} {e : OverrideFault}

/-! ### One item -/

/-- A literal within the reach of the machine is taken for its value. -/
theorem valueOf_of_ok {text : String} (reach : machine.exhausts? text = none)
    (h : Value.ofLiteral text = .ok v) : valueOf machine text = .ok v := by
  rw [valueOf, reach, h]

/-- A text within its reach that is no literal is taken as it is. -/
theorem valueOf_of_malformed {text : String} (reach : machine.exhausts? text = none)
    (h : Value.ofLiteral text = .error .malformed) : valueOf machine text = .ok (.text text) := by
  rw [valueOf, reach, h]

/-- How an item is read: the keys before its first sign, and the value behind it. -/
def Reads (machine : Machine) (item : String) (path : List String) (v : Value) : Prop :=
  ∃ key text, Text.cut? '=' item.toList = some (key, text) ∧ pathOf key = path ∧
    valueOf machine (String.ofList text) = .ok v

/-- Why an item is refused where others have been placed. -/
inductive Refuses (m : Mapping) (item : String) : OverrideFault → Prop
  /-- It has no sign. -/
  | noSign : Text.cut? '=' item.toList = none → Refuses m item (.noSign item)
  /-- Its path has no key. -/
  | noKey {key text} : Text.cut? '=' item.toList = some (key, text) → pathOf key = [] →
      Refuses m item .noKey
  /-- A part of its path that ends before it leads to something else than a mapping. -/
  | conflict {key text q v} : Text.cut? '=' item.toList = some (key, text) →
      q <+: pathOf key → q ≠ pathOf key → Mapping.path? m q = some v → (∀ n, v ≠ .map n) →
      Refuses m item (.conflict (String.ofList key))

/-- The text behind the sign of an item is that of a value, or of no literal at all. -/
def Evaluates (machine : Machine) (item : String) : Prop :=
  ∀ key text, Text.cut? '=' item.toList = some (key, text) →
    ∃ v, valueOf machine (String.ofList text) = .ok v

/-- The paths of two items are apart. -/
def Separate (machine : Machine) (item other : String) : Prop :=
  ∀ p v q w, Reads machine item p v → Reads machine other q w → Apart p q

/-- An item can be placed: it has a path, which is not blocked. -/
def Fits (machine : Machine) (m : Mapping) (item : String) : Prop :=
  ∃ path v, Reads machine item path v ∧ path ≠ [] ∧ Mapping.isBlocked m path = false

/-- A path leads along the path of an item, or on into the item's value. -/
def Reaches (machine : Machine) (item : String) (keys : List Value) : Prop :=
  ∃ path v, Reads machine item path v ∧
    (keys <+: path.map .text ∨ ∃ rest w, keys = path.map .text ++ rest ∧ v.at? rest = some w)

/-- An item has one path and one value. -/
theorem Reads.unique (h : Reads machine item p v) (h' : Reads machine item q w) :
    p = q ∧ v = w := by
  obtain ⟨key, text, hc, rfl, hv⟩ := h
  obtain ⟨key', text', hc', rfl, hw⟩ := h'
  obtain ⟨rfl, rfl⟩ := Prod.mk.inj (Option.some.inj (hc.symm.trans hc'))
  exact ⟨rfl, Except.ok.inj (hv.symm.trans hw)⟩

/-- Being separate is mutual. -/
theorem Separate.symm {other : String} (h : Separate machine item other) :
    Separate machine other item :=
  fun p v q w hp hq => (h q w p v hq hp).symm

/-- An item with a key is read as its path and its text. -/
theorem ofItem_of_key {key text : List Char} (hc : Text.cut? '=' item.toList = some (key, text))
    (hp : pathOf key ≠ []) :
    ofItem item = .ok ⟨String.ofList key, pathOf key, String.ofList text⟩ := by
  obtain ⟨k, ks, hk⟩ := List.exists_cons_of_ne_nil hp
  simp only [ofItem, hc, hk]

/-- An item without a key is at fault. -/
theorem ofItem_of_noKey {key text : List Char} (hc : Text.cut? '=' item.toList = some (key, text))
    (hp : pathOf key = []) : ofItem item = .error .noKey := by
  simp only [ofItem, hc, hp]

/-- An item without an equals sign is at fault. -/
theorem ofItem_of_noSign (hc : Text.cut? '=' item.toList = none) :
    ofItem item = .error (.noSign item) := by
  simp only [ofItem, hc]

/-- What an item with a path does. -/
theorem placeItem_of_key {key text : List Char} (hc : Text.cut? '=' item.toList = some (key, text))
    (hp : pathOf key ≠ []) :
    placeItem machine m item = if Mapping.isBlocked m (pathOf key) then
        .error (.conflict (String.ofList key))
      else valueOf machine (String.ofList text) >>= fun v =>
        .ok (Mapping.place m (pathOf key) v) := by
  rw [placeItem, ofItem_of_key hc hp]
  rfl

/-- An item that cannot be read is not placed. -/
theorem placeItem_of_ofItem (h : ofItem item = .error e) : placeItem machine m item = .error e := by
  rw [placeItem, h]
  rfl

/-- **An item is placed** at the end of its path if the path has a key and is not blocked. -/
theorem placeItem_eq_ok_iff : placeItem machine m item = .ok n ↔
    ∃ path v, Reads machine item path v ∧ path ≠ [] ∧ Mapping.isBlocked m path = false ∧
      n = Mapping.place m path v := by
  constructor
  · intro h
    cases hc : Text.cut? '=' item.toList with
    | none =>
      rw [placeItem_of_ofItem (ofItem_of_noSign hc)] at h
      cases h
    | some cut =>
      obtain ⟨key, text⟩ := cut
      by_cases hp : pathOf key = []
      · rw [placeItem_of_ofItem (ofItem_of_noKey hc hp)] at h
        cases h
      · rw [placeItem_of_key hc hp] at h
        split at h
        · cases h
        · rename_i free
          obtain ⟨v, hv, h⟩ := ok_of_bind h
          exact ⟨pathOf key, v, ⟨key, text, hc, rfl, hv⟩, hp, Bool.eq_false_iff.2 free,
            (Except.ok.inj h).symm⟩
  · rintro ⟨_, v, ⟨key, text, hc, rfl, hv⟩, hp, free, rfl⟩
    rw [placeItem_of_key hc hp, free, hv]
    rfl

/-- **An item whose value can be told fails exactly if it is refused.** -/
theorem placeItem_eq_error_iff (evaluates : Evaluates machine item) :
    placeItem machine m item = .error e ↔ Refuses m item e := by
  constructor
  · intro h
    cases hc : Text.cut? '=' item.toList with
    | none =>
      rw [placeItem_of_ofItem (ofItem_of_noSign hc)] at h
      exact Except.error.inj h ▸ .noSign hc
    | some cut =>
      obtain ⟨key, text⟩ := cut
      by_cases hp : pathOf key = []
      · rw [placeItem_of_ofItem (ofItem_of_noKey hc hp)] at h
        exact Except.error.inj h ▸ .noKey hc hp
      · rw [placeItem_of_key hc hp] at h
        split at h
        · rename_i blocked
          obtain ⟨q, v, hq, hne, hv, hl⟩ := Mapping.isBlocked_iff.1 blocked
          exact Except.error.inj h ▸ .conflict hc hq hne hv hl
        · obtain ⟨v, hv⟩ := evaluates key text hc
          rw [hv] at h
          cases h
  · intro h
    cases h with
    | noSign hc => exact placeItem_of_ofItem (ofItem_of_noSign hc)
    | noKey hc hp => exact placeItem_of_ofItem (ofItem_of_noKey hc hp)
    | @conflict key text q v hc hq hne hv hl =>
      have hp : pathOf key ≠ [] := fun he => hne ((List.prefix_nil.1 (he ▸ hq)).trans he.symm)
      rw [placeItem_of_key hc hp, Mapping.isBlocked_iff.2 ⟨q, v, hq, hne, hv, hl⟩]
      rfl

/-! ### A run of items -/

/-- The first item of a run that succeeds is placed, and the run goes on from there. -/
theorem exists_of_foldlM_cons (h : (item :: items).foldlM (placeItem machine) m = .ok n) :
    ∃ path v, Reads machine item path v ∧ path ≠ [] ∧ Mapping.isBlocked m path = false ∧
      items.foldlM (placeItem machine) (Mapping.place m path v) = .ok n := by
  rw [List.foldlM_cons] at h
  obtain ⟨_, hl, h⟩ := ok_of_bind h
  obtain ⟨path, v, hv, hp, free, rfl⟩ := placeItem_eq_ok_iff.1 hl
  exact ⟨path, v, hv, hp, free, h⟩

/-- So is any other item of it, where the ones before it have been placed. -/
theorem exists_of_foldlM_append {before after : List String}
    (h : (before ++ item :: after).foldlM (placeItem machine) m = .ok n) :
    ∃ l path v, before.foldlM (placeItem machine) m = .ok l ∧ Reads machine item path v ∧
      path ≠ [] ∧
      after.foldlM (placeItem machine) (Mapping.place l path v) = .ok n := by
  rw [List.foldlM_append] at h
  obtain ⟨l, hl, h⟩ := ok_of_bind h
  obtain ⟨path, v, hv, hp, -, h⟩ := exists_of_foldlM_cons h
  exact ⟨l, path, v, hl, hv, hp, h⟩

/-- What stands on a path stays as items are placed whose paths are apart from it. -/
theorem path?_of_foldlM (h : items.foldlM (placeItem machine) m = .ok n)
    (apart : ∀ item ∈ items, ∀ q w, Reads machine item q w → Apart path q) :
    Mapping.path? n path = Mapping.path? m path := by
  induction items generalizing m with
  | nil => exact congrArg (Mapping.path? · path) (Except.ok.inj h).symm
  | cons item items ih =>
    obtain ⟨here, rest⟩ := List.forall_mem_cons.1 apart
    obtain ⟨q, w, hq, -, free, h⟩ := exists_of_foldlM_cons h
    rw [ih h rest, Mapping.path?_eq_at?, Mapping.path?_eq_at?,
      Mapping.at?_place_of_apart (here q w hq) free]

/-- What is found after a run of items was there before, or one of the items reaches it. -/
theorem reaches_of_foldlM (h : items.foldlM (placeItem machine) m = .ok n) {keys : List Value}
    (hw : (Value.map n).at? keys = some w) :
    (∃ item ∈ items, Reaches machine item keys) ∨ ∃ x, (Value.map m).at? keys = some x := by
  induction items generalizing m with
  | nil => exact .inr ⟨w, Except.ok.inj h ▸ hw⟩
  | cons item items ih =>
    obtain ⟨path, v, hv, hp, free, h⟩ := exists_of_foldlM_cons h
    rcases ih h with ⟨other, mem, reaches⟩ | ⟨x, hx⟩
    · exact .inl ⟨other, List.mem_cons_of_mem _ mem, reaches⟩
    · rcases Mapping.at?_place_cases free hp hx with along | ⟨rest, hk, hr⟩ | before
      · exact .inl ⟨item, List.mem_cons_self, path, v, hv, .inl along⟩
      · exact .inl ⟨item, List.mem_cons_self, path, v, hv, .inr ⟨rest, x, hk, hr⟩⟩
      · exact .inr before

/-- **Items fail at the first one that is refused** where those before it have been placed. -/
theorem mapping_eq_error_iff (evaluates : ∀ item ∈ items, Evaluates machine item) :
    mapping machine items = .error e ↔ ∃ before item after m, items = before ++ item :: after ∧
      mapping machine before = .ok m ∧ Refuses m item e := by
  rw [mapping, foldlM_eq_error_iff]
  constructor
  · rintro ⟨before, item, after, m, rfl, hm, he⟩
    have mem : item ∈ before ++ item :: after := List.mem_append_cons_self
    exact ⟨before, item, after, m, rfl, hm, (placeItem_eq_error_iff (evaluates item mem)).1 he⟩
  · rintro ⟨before, item, after, m, rfl, hm, he⟩
    have mem : item ∈ before ++ item :: after := List.mem_append_cons_self
    exact ⟨before, item, after, m, rfl, hm, (placeItem_eq_error_iff (evaluates item mem)).2 he⟩

/-- The value of an item is found on its path, if later items keep apart from it. -/
theorem path?_of_mapping {before after : List String}
    (h : mapping machine (before ++ item :: after) = .ok m) (hv : Reads machine item path v)
    (apart : ∀ later ∈ after, ∀ q w, Reads machine later q w → Apart path q) :
    Mapping.path? m path = some v := by
  obtain ⟨l, _, _, -, hv', hp, h⟩ := exists_of_foldlM_append h
  obtain ⟨rfl, rfl⟩ := hv.unique hv'
  rw [path?_of_foldlM h apart, Mapping.path?_eq_at?, Mapping.at?_place hp]

/-- Paths lead nowhere but where an item reaches. -/
theorem reaches_of_mapping (h : mapping machine items = .ok m) {keys : List Value} (hk : keys ≠ [])
    (hw : (Value.map m).at? keys = some w) : ∃ item ∈ items, Reaches machine item keys := by
  rcases reaches_of_foldlM h hw with reached | ⟨x, hx⟩
  · exact reached
  · obtain ⟨k, keys, rfl⟩ := List.exists_cons_of_ne_nil hk
    cases hx

/-- Each item of a run that succeeds has a path. -/
theorem reads_of_mapping (h : mapping machine items = .ok m) :
    ∀ item ∈ items, ∃ path v, Reads machine item path v ∧ path ≠ [] := by
  intro item mem
  obtain ⟨before, after, rfl⟩ := List.append_of_mem mem
  obtain ⟨l, path, v, -, hv, hp, -⟩ := exists_of_foldlM_append h
  exact ⟨path, v, hv, hp⟩

/-! ### Items apart from each other -/

/-- Items that can be placed whatever the order: each fits, and their paths are apart. -/
structure Independent machine (m : Mapping) (items : List String) : Prop where
  fits : ∀ item ∈ items, Fits machine m item
  separate : items.Pairwise (Separate machine)

/-- Items that are independent are so in any order. -/
theorem Independent.perm (h : Independent machine m items) (hp : items.Perm items') :
    Independent machine m items' :=
  ⟨fun item mem => h.fits item (hp.mem_iff.2 mem), hp.pairwise h.separate Separate.symm⟩

/-- The first of independent items can be placed, and the others are independent then. -/
theorem Independent.head (h : Independent machine m (item :: items)) :
    ∃ path v, Reads machine item path v ∧ path ≠ [] ∧ Mapping.isBlocked m path = false ∧
      Independent machine (Mapping.place m path v) items := by
  obtain ⟨⟨path, v, hv, hp, free⟩, fits⟩ := List.forall_mem_cons.1 h.fits
  obtain ⟨apart, separate⟩ := List.pairwise_cons.1 h.separate
  refine ⟨path, v, hv, hp, free, fun other mem => ?_, separate⟩
  obtain ⟨q, w, hw, hq, still⟩ := fits other mem
  refine ⟨q, w, hw, hq, ?_⟩
  rw [Mapping.isBlocked_place (apart other mem path v q w hv hw).symm free, still]

/-- A run goes on where its first item was placed. -/
theorem foldlM_cons_of_reads (hv : Reads machine item path v) (hp : path ≠ [])
    (free : Mapping.isBlocked m path = false) (items : List String) :
    (item :: items).foldlM (placeItem machine) m =
      items.foldlM (placeItem machine) (Mapping.place m path v) := by
  rw [List.foldlM_cons, placeItem_eq_ok_iff.2 ⟨path, v, hv, hp, free, rfl⟩]
  rfl

/-- Independent items are taken, and come to the same from mappings but for the order of their
entries. -/
theorem Independent.taken (h : Independent machine m items) (hmn : Mapping.Reordered m n) :
    ∃ m' n', items.foldlM (placeItem machine) m = .ok m' ∧
      items.foldlM (placeItem machine) n = .ok n' ∧
      Mapping.Reordered m' n' := by
  induction items generalizing m n with
  | nil => exact ⟨m, n, rfl, rfl, hmn⟩
  | cons item items ih =>
    obtain ⟨path, v, hv, hp, free, rest⟩ := h.head
    rw [foldlM_cons_of_reads hv hp free, foldlM_cons_of_reads hv hp (hmn.isBlocked path ▸ free)]
    exact ih rest (hmn.place path v)

/-- **Independent items come to the same in any order**, but for the order of the entries. -/
theorem Independent.taken_perm (h : Independent machine m items) (perm : items.Perm items')
    (hmn : Mapping.Reordered m n) :
    ∃ m' n', items.foldlM (placeItem machine) m = .ok m' ∧
      items'.foldlM (placeItem machine) n = .ok n' ∧
      Mapping.Reordered m' n' := by
  induction perm generalizing m n with
  | nil => exact h.taken hmn
  | cons item _ ih =>
    obtain ⟨path, v, hv, hp, free, rest⟩ := h.head
    rw [foldlM_cons_of_reads hv hp free, foldlM_cons_of_reads hv hp (hmn.isBlocked path ▸ free)]
    exact ih rest (hmn.place path v)
  | swap first second items =>
    obtain ⟨q, w, hw, hq, qFree, h₁⟩ := h.head
    obtain ⟨p, v, hv, hp, pFree, h₂⟩ := h₁.head
    -- the same two items, the other one first
    obtain ⟨_, _, hv', -, pFirst, h₁'⟩ := (h.perm (.swap first second items)).head
    obtain ⟨_, _, hw', -, qSecond, -⟩ := h₁'.head
    obtain ⟨rfl, rfl⟩ := hv.unique hv'
    obtain ⟨rfl, rfl⟩ := hw.unique hw'
    have apart : Apart q p :=
      (List.pairwise_cons.1 h.separate).1 first List.mem_cons_self q w p v hw hv
    rw [foldlM_cons_of_reads hw hq qFree, foldlM_cons_of_reads hv hp pFree,
      foldlM_cons_of_reads hv hp (hmn.isBlocked p ▸ pFirst),
      foldlM_cons_of_reads hw hq ((hmn.place p v).isBlocked q ▸ qSecond)]
    exact h₂.taken ((Mapping.place_comm apart m w v).trans ((hmn.place p v).place q w))
  | trans perm _ ih ih' =>
    obtain ⟨a, b, ha, hb, hab⟩ := ih h (.refl m)
    obtain ⟨b', c, hb', hc, hbc⟩ := ih' (h.perm perm) hmn
    obtain rfl := Except.ok.inj (hb.symm.trans hb')
    exact ⟨a, c, ha, hc, hab.trans hbc⟩

/-- Items with paths, apart from each other, can be placed from the start. -/
theorem independent_nil (paths : ∀ item ∈ items, ∃ path v, Reads machine item path v ∧ path ≠ [])
    (separate : items.Pairwise (Separate machine)) : Independent machine [] items := by
  refine ⟨fun item mem => ?_, separate⟩
  obtain ⟨path, v, hv, hp⟩ := paths item mem
  exact ⟨path, v, hv, hp, Mapping.isBlocked_nil path⟩

/-- Items apart from each other succeed if each of them has a path. -/
theorem exists_mapping_iff (separate : items.Pairwise (Separate machine)) :
    (∃ m, mapping machine items = .ok m) ↔
      ∀ item ∈ items, ∃ path v, Reads machine item path v ∧ path ≠ [] := by
  constructor
  · rintro ⟨m, hm⟩
    exact reads_of_mapping hm
  · intro paths
    obtain ⟨m, -, hm, -⟩ := (independent_nil paths separate).taken (.refl [])
    exact ⟨m, hm⟩

/-- They come to the same in any order. -/
theorem mapping_perm (h : mapping machine items = .ok m)
    (separate : items.Pairwise (Separate machine)) (perm : items.Perm items') :
    ∃ m', mapping machine items' = .ok m' ∧ Mapping.Reordered m m' := by
  obtain ⟨a, b, ha, hb, hab⟩ :=
    (independent_nil (reads_of_mapping h) separate).taken_perm perm (.refl [])
  obtain rfl := Except.ok.inj (h.symm.trans ha)
  exact ⟨b, hb, hab⟩

/-- **Overrides are taken in order, and the last one for a path wins.**  For items whose values can
be told:

* they fail at the first item that is refused where those before it were placed, for the cause of
  that refusal, and never otherwise;
* the path of an item leads to its value, if the paths of later items are apart from it;
* a path leads somewhere only along the path of an item or on into an item's value;
* if their paths are apart from each other, they succeed as long as each item has a path, and in any
  other order they come to the same mapping but for the order of its entries. -/
theorem mapping_laws (machine : Machine) (items : List String)
    (evaluates : ∀ item ∈ items, Evaluates machine item) :
    (∀ e, mapping machine items = .error e ↔
      ∃ before item after m, items = before ++ item :: after ∧ mapping machine before = .ok m ∧
        Refuses m item e) ∧
    (∀ m, mapping machine items = .ok m →
      (∀ before item after path v, items = before ++ item :: after → Reads machine item path v →
        (∀ later ∈ after, ∀ q w, Reads machine later q w → Apart path q) →
        Mapping.path? m path = some v) ∧
      ∀ keys w, keys ≠ [] → (Value.map m).at? keys = some w →
        ∃ item ∈ items, Reaches machine item keys) ∧
    (items.Pairwise (Separate machine) →
      ((∃ m, mapping machine items = .ok m) ↔
        ∀ item ∈ items, ∃ path v, Reads machine item path v ∧ path ≠ []) ∧
      ∀ m, mapping machine items = .ok m → ∀ items', items.Perm items' →
        ∃ m', mapping machine items' = .ok m' ∧ Mapping.Reordered m m') := by
  refine ⟨fun e => mapping_eq_error_iff evaluates, fun m hm => ⟨?_, ?_⟩,
    fun separate => ⟨exists_mapping_iff separate, fun m hm items' perm => ?_⟩⟩
  · rintro before item after path v rfl hv apart
    exact path?_of_mapping hm hv apart
  · exact fun keys w hk hw => reaches_of_mapping hm hk hw
  · exact mapping_perm hm separate perm

/-! ### An instance -/

/-- An item that is read evaluates. -/
theorem Reads.evaluates (h : Reads machine item path v) : Evaluates machine item := by
  obtain ⟨key, text, hc, -, hv⟩ := h
  intro key' text' hc'
  obtain ⟨rfl, rfl⟩ := Prod.mk.inj (Option.some.inj (hc.symm.trans hc'))
  exact ⟨v, hv⟩

/-- Items whose paths are apart are separate. -/
theorem Reads.separate {other : String} (hp : Reads machine item p v) (hq : Reads machine other q w)
    (apart : Apart p q) : Separate machine item other := by
  intro p' v' q' w' hp' hq'
  obtain ⟨rfl, -⟩ := hp.unique hp'
  obtain ⟨rfl, -⟩ := hq.unique hq'
  exact apart

/-- Two items, of which the first has an empty key and a second sign, and the other a mapping as its
value. -/
def fewItems : List String := ["message..prefix=a=b", "logging=\x7b'level': 'INFO'\x7d"]

/-- What they come to. -/
def fewEntries : Mapping :=
  [("message", .map [("prefix", "a=b")]), ("logging", .map [("level", "INFO")])]

/-- The value behind a sign is known by a test that only this value passes. -/
theorem valueOf_eq_of_any {text : String} {f : Value → Bool} (only : ∀ x, f x = true → x = v)
    (h : (valueOf machine text).toOption.any f = true) : valueOf machine text = .ok v := by
  cases hx : valueOf machine text with
  | error e =>
    rw [hx] at h
    cases h
  | ok x =>
    rw [hx] at h
    rw [only x h]

/-- A text that is no literal is taken as it is. -/
theorem valueOf_pair : valueOf .ample "a=b" = .ok "a=b" :=
  valueOf_eq_of_any (f := fun x => x.key? = some (.text "a=b"))
    (fun _ h => Value.key?_eq_text_iff.1 (of_decide_eq_true h)) (by decide +kernel)

/-- A mapping in writing is read as a mapping. -/
theorem valueOf_level :
    valueOf .ample "\x7b'level': 'INFO'\x7d" = .ok (.map [("level", "INFO")]) := by
  refine valueOf_eq_of_any (f := fun x => (x.at? ["level"]).isSome &&
    x.entries.map (fun e => (e.1.key?, e.2.key?)) = [(some (.text "level"), some (.text "INFO"))])
    (fun x h => ?_) (by decide +kernel)
  rw [Bool.and_eq_true, decide_eq_true_eq, Option.isSome_iff_exists] at h
  obtain ⟨⟨y, hy⟩, entries⟩ := h
  obtain ⟨es, -, rfl, -, -⟩ := Value.at?_cons_eq_some hy
  obtain ⟨⟨k, v⟩, rfl, he⟩ := List.map_eq_singleton_iff.1 entries
  obtain ⟨hk, hv⟩ := Prod.mk.inj he
  obtain rfl := Value.key?_eq_text_iff.1 hk
  obtain rfl := Value.key?_eq_text_iff.1 hv
  rfl

/-- Empty parts of a path do not count, and a text that is no literal is the value. -/
theorem reads_message : Reads .ample "message..prefix=a=b" ["message", "prefix"] "a=b" :=
  ⟨"message..prefix".toList, "a=b".toList, by decide, by decide, valueOf_pair⟩

/-- This item places a mapping. -/
theorem reads_logging :
    Reads .ample "logging=\x7b'level': 'INFO'\x7d" ["logging"] (.map [("level", "INFO")]) :=
  ⟨"logging".toList, "\x7b'level': 'INFO'\x7d".toList, by decide, by decide, valueOf_level⟩

/-- These items give this mapping. -/
theorem mapping_fewItems : mapping .ample fewItems = .ok fewEntries := by
  rw [mapping, fewItems, foldlM_cons_of_reads reads_message (by decide) rfl,
    foldlM_cons_of_reads reads_logging (by decide) rfl]
  rfl

/-- The hypotheses are satisfiable: by items whose paths are apart from each other, and by the same
items with one more that runs into the value of the second. -/
theorem mapping_laws_few :
    (∀ item ∈ fewItems, Evaluates .ample item) ∧ fewItems.Pairwise (Separate .ample) ∧
      mapping .ample fewItems = .ok fewEntries ∧
      Mapping.path? fewEntries ["message", "prefix"] = some "a=b" ∧
      (∃ item ∈ fewItems, Reaches .ample item ["logging", "level"]) ∧
      (∃ m, mapping .ample fewItems.reverse = .ok m ∧ Mapping.Reordered fewEntries m) ∧
      mapping .ample (fewItems ++ ["logging.level.x=a=b"]) =
        .error (.conflict "logging.level.x") := by
  have evaluates : ∀ item ∈ fewItems, Evaluates .ample item :=
    List.forall_mem_cons.2 ⟨reads_message.evaluates,
      List.forall_mem_singleton.2 reads_logging.evaluates⟩
  have apart : Separate .ample "message..prefix=a=b" "logging=\x7b'level': 'INFO'\x7d" :=
    reads_message.separate reads_logging (by decide)
  have separate : fewItems.Pairwise (Separate .ample) := List.pairwise_pair.2 apart
  obtain ⟨-, holds, order⟩ := mapping_laws .ample fewItems evaluates
  obtain ⟨last, within⟩ := holds fewEntries mapping_fewItems
  refine ⟨evaluates, separate, mapping_fewItems, ?_, ?_, ?_, ?_⟩
  · exact last [] _ _ _ _ rfl reads_message
      (List.forall_mem_singleton.2 fun q w => apart _ _ q w reads_message)
  · exact within _ "INFO" (by decide) rfl
  · exact (order separate).2 fewEntries mapping_fewItems _ (List.reverse_perm _).symm
  · have cut : Text.cut? '=' "logging.level.x=a=b".toList =
        some ("logging.level.x".toList, "a=b".toList) := by decide
    have path : pathOf "logging.level.x".toList = ["logging", "level", "x"] := by decide
    have clashing : Reads .ample "logging.level.x=a=b" ["logging", "level", "x"] "a=b" :=
      ⟨_, _, cut, path, valueOf_pair⟩
    have all : ∀ item ∈ fewItems ++ ["logging.level.x=a=b"], Evaluates .ample item :=
      List.forall_mem_append.2 ⟨evaluates, List.forall_mem_singleton.2 clashing.evaluates⟩
    refine ((mapping_laws .ample _ all).1 _).2
      ⟨fewItems, _, [], fewEntries, rfl, mapping_fewItems, ?_⟩
    have level : Mapping.path? fewEntries ["logging", "level"] = some "INFO" := rfl
    exact .conflict cut (path ▸ ⟨["x"], rfl⟩) (path ▸ by decide) level nofun

end Override
end TypeMismatch
