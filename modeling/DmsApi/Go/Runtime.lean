import Mathlib.Data.List.AList

/-! # Maps and clocks of the Go runtime

A `map[string]V` is an association list with unique keys. Its iteration order is left open
by the language, so every loop over a map whose order matters takes that order as an input;
a loop that only deletes or copies the entries passing a test is its effect, `GoMap.filter`.
`time.Time` counts nanoseconds from the zero time and `time.Duration` is a signed count of
nanoseconds; `Sub` saturates at the bounds of a 64-bit duration as the library does. A `Clock`
gives the readings a call takes, one per `time.Now()` or `time.Since`; a model that reads one
`now` per call is the case of a clock that does not move.
-/

namespace DmsApi

/-- A Go `map[string]V`. -/
abbrev GoMap (V : Type) := AList (fun _ : String => V)

namespace GoMap

variable {V : Type}

/-- `m[k]`: the stored value, or the zero value when `k` is absent. -/
def index [Inhabited V] (m : GoMap V) (k : String) : V := (m.lookup k).getD default

/-- The entries of `m` that pass `keep`, as a deleting or copying loop over `m` leaves them. -/
def filter (keep : String → V → Bool) (m : GoMap V) : GoMap V :=
  ⟨m.entries.filter (fun e => keep e.1 e.2), m.nodupKeys.sublist (List.filter_sublist _)⟩

/-- `m[k] = f(m[k])` on a stored map value, done in place; an absent key stays absent. -/
def adjust (k : String) (f : V → V) (m : GoMap V) : GoMap V :=
  match m.lookup k with
  | none => m
  | some v => m.insert k (f v)

/-- The map with each value sent through `f`, as a loop copying `m` into a new map builds it. -/
def mapValues {W : Type} (f : V → W) (m : GoMap V) : GoMap W :=
  ⟨m.entries.map fun e => ⟨e.1, f e.2⟩, by
    simpa only [List.NodupKeys, List.keys, List.map_map] using m.nodupKeys⟩

theorem lookup_mapValues {W : Type} (f : V → W) (m : GoMap V) (k : String) :
    (mapValues f m).lookup k = (m.lookup k).map f :=
  @List.dlookup_map₂ String _ (fun _ => V) (fun _ => W) m.entries (fun _ => f) k

theorem lookup_filter (keep : String → V → Bool) (m : GoMap V) (k : String) :
    (filter keep m).lookup k = (m.lookup k).filter (keep k) := by
  obtain ⟨entries, nodup⟩ := m
  simp only [filter, AList.lookup]
  induction entries with
  | nil => rfl
  | cons e rest ih =>
    obtain ⟨key, v⟩ := e
    have tail := ih nodup.tail
    by_cases same : key = k
    · subst same
      have absent : List.dlookup key rest = none :=
        List.dlookup_eq_none.mpr (List.nodupKeys_cons.mp nodup).1
      by_cases kept : keep key v <;>
        simp [List.filter_cons, kept, List.dlookup_cons_eq, tail, absent, Option.filter]
    · have other : k ≠ key := Ne.symm same
      by_cases kept : keep key v <;>
        simp [List.filter_cons, kept, List.dlookup_cons_ne _ (⟨key, v⟩ : (_ : String) × V) other,
          tail]

theorem mem_filter {keep : String → V → Bool} {m : GoMap V} {k : String} :
    k ∈ filter keep m ↔ ∃ v, m.lookup k = some v ∧ keep k v = true := by
  rw [← AList.lookup_isSome, lookup_filter]
  cases m.lookup k <;> simp [Option.filter]

theorem lookup_adjust (k : String) (f : V → V) (m : GoMap V) (k' : String) :
    (adjust k f m).lookup k' = if k' = k then (m.lookup k).map f else m.lookup k' := by
  unfold adjust
  split
  · next absent =>
    split
    · next same => subst same; exact absent.symm ▸ rfl
    · rfl
  · next v stored =>
    split
    · next same => subst same; simp [AList.lookup_insert, stored]
    · next other => exact AList.lookup_insert_ne other

theorem mem_adjust {k k' : String} {f : V → V} {m : GoMap V} : k' ∈ adjust k f m ↔ k' ∈ m := by
  rw [← AList.lookup_isSome, ← AList.lookup_isSome, lookup_adjust]
  split
  · next same => subst same; simp
  · rfl

section Index

variable [Inhabited V]

@[simp] theorem index_empty (k : String) : (∅ : GoMap V).index k = default := rfl

theorem index_insert (m : GoMap V) (k : String) (v : V) (k' : String) :
    index (m.insert k v) k' = if k' = k then v else m.index k' := by
  by_cases same : k' = k
  · subst same; simp [index, AList.lookup_insert]
  · simp [index, AList.lookup_insert_ne same, same]

/-- A map of values by a function that fixes the zero value acts on the indexed value. -/
theorem index_mapValues {W : Type} [Inhabited W] {f : V → W} (fixes : f default = default)
    (m : GoMap V) (k : String) : (mapValues f m).index k = f (m.index k) := by
  simp only [index, lookup_mapValues]
  cases m.lookup k <;> simp [fixes]

/-- A deleting loop that tests keys only leaves each key's value or the zero value. -/
theorem index_filter (keep : String → Bool) (m : GoMap V) (k : String) :
    (filter (fun k _ => keep k) m).index k = if keep k then m.index k else default := by
  simp only [index, lookup_filter]
  cases keep k <;> cases m.lookup k <;> rfl

/-- An in-place update by a function that fixes the zero value acts on the indexed value. -/
theorem index_adjust {f : V → V} (fixes : f default = default) (k : String) (m : GoMap V)
    (k' : String) : (adjust k f m).index k' = if k' = k then f (m.index k) else m.index k' := by
  simp only [index, lookup_adjust]
  split
  · cases m.lookup k <;> simp [fixes]
  · rfl

end Index

/-- Keys a loop leaves when each step writes the key `key x` into the map `project` reads:
those there before and those it wrote. -/
theorem mem_foldl_writes {σ α : Type} (project : σ → GoMap V) (key : α → String)
    (f : σ → α → σ) (writes : ∀ acc x, ∃ v, project (f acc x) = (project acc).insert (key x) v)
    (xs : List α) (acc : σ) (k : String) :
    k ∈ project (xs.foldl f acc) ↔ k ∈ project acc ∨ ∃ x ∈ xs, key x = k := by
  induction xs generalizing acc with
  | nil => simp
  | cons x rest ih =>
    obtain ⟨v, written⟩ := writes acc x
    simp only [List.foldl_cons, ih, written, AList.mem_insert, List.mem_cons, exists_eq_or_imp]
    constructor
    · rintro ((same | mem) | found)
      · exact .inr (.inl same.symm)
      · exact .inl mem
      · exact .inr (.inr found)
    · rintro (mem | same | found)
      · exact .inl (.inr mem)
      · exact .inl (.inl same.symm)
      · exact .inr found

/-- Keys a loop of insertions leaves: those there before and those it wrote. -/
theorem mem_foldl_insert {α : Type} (key : α → String) (val : α → V) (xs : List α)
    (acc : GoMap V) (k : String) :
    k ∈ xs.foldl (fun m x => m.insert (key x) (val x)) acc ↔ k ∈ acc ∨ ∃ x ∈ xs, key x = k :=
  mem_foldl_writes id key _ (fun _ x => ⟨val x, rfl⟩) xs acc k

/-- Every value a loop leaves has `P` when each step keeps the map `project` reads or inserts
a value with `P` into it, and every value there before has it. -/
theorem lookup_foldl_inserts {σ α : Type} (project : σ → GoMap V) (P : V → Prop)
    (f : σ → α → σ)
    (writes : ∀ acc x, project (f acc x) = project acc ∨
      ∃ k v, project (f acc x) = (project acc).insert k v ∧ P v)
    (xs : List α) (acc : σ) (before : ∀ k v, (project acc).lookup k = some v → P v) :
    ∀ k v, (project (xs.foldl f acc)).lookup k = some v → P v :=
  List.foldlRecOn (motive := fun b => ∀ k v, (project b).lookup k = some v → P v) xs f acc
    before fun b held x _ k v found => by
      rcases writes b x with kept | ⟨k', v', written, holds⟩
      · exact held k v (kept ▸ found)
      rw [written] at found
      by_cases same : k = k'
      · subst same
        rw [AList.lookup_insert] at found
        exact Option.some.inj found ▸ holds
      · rw [AList.lookup_insert_ne same] at found
        exact held k v found

/-- A value a loop of insertions leaves was written by it or was there before. -/
theorem lookup_foldl_insert {α : Type} (key : α → String) (val : α → V) (xs : List α)
    (acc : GoMap V) {k : String} {v : V}
    (found : (xs.foldl (fun m x => m.insert (key x) (val x)) acc).lookup k = some v) :
    (∃ x ∈ xs, key x = k ∧ val x = v) ∨ acc.lookup k = some v := by
  induction xs generalizing acc with
  | nil => exact .inr found
  | cons x rest ih =>
    rcases ih _ found with ⟨y, mem, same, value⟩ | stored
    · exact .inl ⟨y, List.mem_cons_of_mem x mem, same, value⟩
    · by_cases written : key x = k
      · subst written
        rw [AList.lookup_insert] at stored
        exact .inl ⟨x, List.mem_cons_self x rest, rfl, Option.some.inj stored⟩
      · rw [AList.lookup_insert_ne (Ne.symm written)] at stored
        exact .inr stored

/-- After a loop that writes `val x` under `key x` for each `x` passing `keep`, a key holds
what the last such write put there, or what it held before the loop. -/
theorem lookup_foldl_insert_last {α : Type} (keep : α → Bool) (key : α → String)
    (val : α → V) (xs : List α) (acc : GoMap V) (k : String) :
    (xs.foldl (fun m x => if keep x then m.insert (key x) (val x) else m) acc).lookup k =
      ((xs.filter fun x => keep x && key x = k).getLast?.map val).or (acc.lookup k) := by
  induction xs using List.reverseRecOn with
  | nil => simp
  | append_singleton rest x ih =>
    rw [List.foldl_append, List.foldl_cons, List.foldl_nil, List.filter_append,
      List.getLast?_append]
    by_cases kept : keep x
    · by_cases same : key x = k
      · subst same; simp [kept, AList.lookup_insert]
      · simp [kept, same, AList.lookup_insert_ne (Ne.symm same), ih]
    · simp [kept, ih]

end GoMap

/-- A `time.Time`, in nanoseconds from the zero time. -/
abbrev Time := Int

/-- A `time.Duration`, in nanoseconds. -/
abbrev Duration := Int

def maxDuration : Duration := 9223372036854775807

def minDuration : Duration := -9223372036854775808

/-- `t.Sub(u)`: the exact difference, saturated to the range of a `Duration`. -/
def sub (t u : Time) : Duration := max minDuration (min maxDuration (t - u))

/-- `time.Second`. -/
def second : Duration := 1000000000

/-- `time.Second` as an integer, for arithmetic on durations. -/
theorem second_eq : second = (1000000000 : Int) := rfl

/-- An `int64` result of Go's wrapping arithmetic on the exact value `x`. -/
def wrapInt64 (x : Int) : Int :=
  (x + 9223372036854775808) % 18446744073709551616 - 9223372036854775808

/-- `t.Add(d)`: the exact sum, with its whole seconds from the zero time saturated at the
bounds of an `int64` as `addSec` does. -/
def add (t : Time) (d : Duration) : Time :=
  let sum := t + d
  if 9223372036854775807 < sum / second then 9223372036854775807 * second + sum % second
  else if sum / second < -9223372036854775808 then
    -9223372036854775807 * second + sum % second
  else sum

/-- `time.Since(t)` at the clock reading `now`. -/
def since (now t : Time) : Duration := sub now t

@[simp] theorem since_self (now : Time) : since now now = 0 := by
  simp [since, sub, maxDuration, minDuration]

/-- The readings one call takes of the monotonic clock, in order: its `i`-th `time.Now()` or
`time.Since` reads `read i`. -/
structure Clock where
  read : Nat → Time
  read_mono : ∀ {i j : Nat}, i ≤ j → read i ≤ read j

namespace Clock

/-- A clock that does not move while the call runs. -/
def stopped (now : Time) : Clock := ⟨fun _ => now, fun _ => Int.le_refl now⟩

/-- A clock that first reads `start` and moves on by `step` nanoseconds at each reading. -/
def ticking (start : Time) (step : Nat) : Clock where
  read i := start + (i * step : Nat)
  read_mono le := Int.add_le_add_left (Int.ofNat_le.mpr (Nat.mul_le_mul_right step le)) start

@[simp] theorem stopped_read (now : Time) (i : Nat) : (stopped now).read i = now := rfl

end Clock

end DmsApi
