import Mathlib.Data.List.Basic

/-! # The `strings` functions the services call

Go strings are modelled by Lean strings through their characters. Every separator the
source passes to `Split`, `Join` and `Cut` is one ASCII character, and cutting valid UTF-8
at an ASCII byte cuts its characters at the same place. `strings.Split` is `List.splitOn`,
with one more piece than there are separators, and `strings.Join` is `List.intercalate`,
so Mathlib's `splitOn_intercalate` inverts a join by a split.
-/

namespace DmsApi.Strings

/-- `strings.Split(s, sep)` for a one-character separator. -/
def split (s : String) (sep : Char) : List String :=
  (s.toList.splitOn sep).map String.mk

/-- `strings.Join(elems, sep)` for a one-character separator. -/
def join (elems : List String) (sep : Char) : String :=
  ⟨[sep].intercalate (elems.map String.toList)⟩

/-- The characters before the first `sep`, those after it, and whether there was one. -/
def cutChars (sep : Char) : List Char → List Char × List Char × Bool
  | [] => ([], [], false)
  | c :: rest =>
    if c = sep then ([], rest, true)
    else
      let (before, after, found) := cutChars sep rest
      (c :: before, after, found)

/-- `strings.Cut(s, sep)` for a one-character separator. -/
def cut (s : String) (sep : Char) : String × String × Bool :=
  let (before, after, found) := cutChars sep s.toList
  (⟨before⟩, ⟨after⟩, found)

/-- `strings.TrimPrefix(s, pfx)`. -/
def trimPrefix (s pfx : String) : String :=
  if pfx.toList.isPrefixOf s.toList then ⟨s.toList.drop pfx.length⟩ else s

/-- `strings.TrimSuffix(s, suffix)`. -/
def trimSuffix (s suffix : String) : String :=
  if suffix.toList.isSuffixOf s.toList then ⟨s.toList.take (s.length - suffix.length)⟩ else s

@[simp] theorem mk_toList (s : String) : String.mk s.toList = s := rfl

theorem trimPrefix_append (pfx s : String) : trimPrefix (pfx ++ s) pfx = s := by
  have chars : (pfx ++ s).toList = pfx.toList ++ s.toList := rfl
  rw [trimPrefix, if_pos (List.isPrefixOf_iff_prefix.mpr ⟨s.toList, chars.symm⟩), chars]
  exact congrArg String.mk (List.drop_left _ _)

theorem trimSuffix_append (s suffix : String) : trimSuffix (s ++ suffix) suffix = s := by
  have chars : (s ++ suffix).toList = s.toList ++ suffix.toList := rfl
  have kept : (s ++ suffix).length - suffix.length = s.toList.length := by
    show (s.toList ++ suffix.toList).length - suffix.toList.length = _
    rw [List.length_append, Nat.add_sub_cancel]
  rw [trimSuffix, if_pos (List.isSuffixOf_iff_suffix.mpr ⟨s.toList, chars.symm⟩), chars, kept]
  exact congrArg String.mk (List.take_left _ _)

/-- A string that does not end in `suffix` is left as it is. -/
theorem trimSuffix_of_not_suffix {s suffix : String} (absent : ¬suffix.toList <:+ s.toList) :
    trimSuffix s suffix = s := by
  rw [trimSuffix, if_neg (by rwa [List.isSuffixOf_iff_suffix])]

/-- Characters whose last piece is non-empty and free of `c` do not end in `c`. -/
theorem not_suffix_singleton {c : Char} {pre l : List Char} (nonempty : l ≠ []) (absent : c ∉ l) :
    ¬[c] <:+ pre ++ l := by
  rintro ⟨t, same⟩
  have last := congrArg List.getLast? same
  rw [List.getLast?_append, List.getLast?_append] at last
  obtain ⟨x, stored⟩ := Option.isSome_iff_exists.mp (List.getLast?_isSome.mpr nonempty)
  simp [stored] at last
  exact absent (last ▸ List.mem_of_getLast?_eq_some stored)

/-- Cutting at the first separator recovers the two sides. -/
theorem cutChars_append {sep : Char} {before : List Char} (absent : sep ∉ before)
    (after : List Char) : cutChars sep (before ++ sep :: after) = (before, after, true) := by
  induction before with
  | nil => simp [cutChars]
  | cons c rest ih =>
    have ne : c ≠ sep := fun same => absent (same ▸ List.mem_cons_self c rest)
    simp [cutChars, ne, ih (fun mem => absent (List.mem_cons_of_mem c mem))]

theorem cut_append {sep : Char} {before : String} (absent : sep ∉ before.toList)
    (after : String) :
    cut (before ++ ⟨[sep]⟩ ++ after) sep = (before, after, true) := by
  have chars : (before ++ ⟨[sep]⟩ ++ after).toList = before.toList ++ sep :: after.toList := by
    simp [String.toList]
  simp only [cut, chars, cutChars_append absent, mk_toList]

/-- A separator-free first piece and the separator after it are read back from the whole. -/
theorem append_sep_inj {sep : Char} {a a' b b' : String} (absent : sep ∉ a.toList)
    (absent' : sep ∉ a'.toList) :
    a ++ ⟨[sep]⟩ ++ b = a' ++ ⟨[sep]⟩ ++ b' ↔ a = a' ∧ b = b' := by
  refine ⟨fun same => ?_, fun ⟨first, second⟩ => first ▸ second ▸ rfl⟩
  have cuts := congrArg (cut · sep) same
  simp only [cut_append absent, cut_append absent', Prod.mk.injEq, and_true] at cuts
  exact cuts

/-- A string without the separator is split into itself. -/
theorem split_of_not_mem {s : String} {sep : Char} (absent : sep ∉ s.toList) :
    split s sep = [s] := by
  have single : s.toList.splitOn sep = [s.toList] :=
    List.splitOnP_eq_single _ _ fun c mem same => absent (eq_of_beq same ▸ mem)
  simp only [split, single, List.map_cons, List.map_nil, mk_toList]

/-- Splitting after a separator-free first piece peels that piece off. -/
theorem split_append {a : String} {sep : Char} (absent : sep ∉ a.toList) (b : String) :
    split (a ++ ⟨[sep]⟩ ++ b) sep = a :: split b sep := by
  have chars : (a ++ ⟨[sep]⟩ ++ b).toList = a.toList ++ sep :: b.toList := by
    simp [String.toList]
  have first := List.splitOnP_first (· == sep) a.toList
    (fun c mem same => absent (eq_of_beq same ▸ mem)) sep (beq_self_eq_true sep) b.toList
  simp only [split, chars, List.splitOn, first, List.map_cons, mk_toList]

/-- Splitting a join of separator-free pieces gives the pieces back. -/
theorem split_join {elems : List String} {sep : Char} (absent : ∀ x ∈ elems, sep ∉ x.toList)
    (nonempty : elems ≠ []) : split (join elems sep) sep = elems := by
  have pieces := List.splitOn_intercalate (elems.map String.toList) sep
    (by simpa using absent) (by simpa using nonempty)
  simp only [split, join, String.toList, pieces, List.map_map]
  exact List.map_id'' (fun _ => rfl) elems

/-- A join is empty only for no pieces or for one empty piece. -/
theorem join_eq_empty {elems : List String} {sep : Char} :
    (join elems sep).toList = [] ↔ elems = [] ∨ elems = [""] := by
  match elems with
  | [] => simp [join, List.intercalate]
  | [x] =>
    simp only [join, List.intercalate, List.map_cons, List.map_nil, List.intersperse_single,
      List.flatten_cons, List.flatten_nil, List.append_nil, List.cons.injEq, and_true,
      List.cons_ne_nil, false_or]
    exact String.ext_iff.symm
  | x :: y :: rest =>
    simp [join, List.intercalate, List.intersperse_cons_cons]

/-- A character of a join is the separator or a character of a piece. -/
theorem mem_join {c sep : Char} {elems : List String} (mem : c ∈ (join elems sep).toList) :
    c = sep ∨ ∃ x ∈ elems, c ∈ x.toList := by
  induction elems with
  | nil => simp [join, List.intercalate] at mem
  | cons x rest ih =>
    match rest, ih with
    | [], _ =>
      simp only [join, List.intercalate, List.map_cons, List.map_nil, List.intersperse_single,
        List.flatten_cons, List.flatten_nil, List.append_nil] at mem
      exact .inr ⟨x, List.mem_singleton_self x, mem⟩
    | y :: rest, ih =>
      have split : (join (x :: y :: rest) sep).toList = x.toList ++ [sep] ++
          (join (y :: rest) sep).toList := by
        simp [join, List.intercalate, List.intersperse_cons_cons, String.toList]
      rw [split, List.mem_append, List.mem_append, List.mem_singleton] at mem
      rcases mem with (inFirst | same) | inRest
      · exact .inr ⟨x, List.mem_cons_self x _, inFirst⟩
      · exact .inl same
      · rcases ih inRest with same | ⟨z, member, inZ⟩
        · exact .inl same
        · exact .inr ⟨z, List.mem_cons_of_mem x member, inZ⟩

end DmsApi.Strings
