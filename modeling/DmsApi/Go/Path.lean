import Mathlib.Data.List.Basic

/-! # The `path` functions the thumbnails call

`path.Clean` makes one pass over a path, writing into a buffer: it drops empty and `.`
elements, and `..` backs up over the element before it but never past `dotdot`, the leading
slash or the `../..` prefix. The buffer is a list, newest byte first, and copying an element is
a second mode of the one loop, which keeps the recursion structural. For a file name that is
one element, `Join` appends it to the cleaned directory, so `Base` gives the name back.
-/

namespace DmsApi.Path

/-- `out.w--` and the loop after it, on the written bytes: drop bytes up to and including the
last slash, but keep `dotdot` of them. -/
def backtrack (dotdot : Nat) : List Char → List Char
  | [] => []
  | c :: rest => if dotdot < rest.length ∧ c ≠ '/' then backtrack dotdot rest else rest

/-- A `..` element: back up over the last element when one is written past `dotdot`, and
otherwise, in an unrooted path, write `..` and move `dotdot` past it. -/
def dotDot (rooted : Bool) (out : List Char) (dotdot : Nat) : List Char × Nat :=
  if dotdot < out.length then (backtrack dotdot out, dotdot)
  else if !rooted then
    let out := if 0 < out.length then '/' :: out else out
    ('.' :: '.' :: out, out.length + 2)
  else (out, dotdot)

/-- The slash written before a real element, unless it is the path's first. -/
def separate (rooted : Bool) (out : List Char) : List Char :=
  if rooted && out.length != 1 || !rooted && out.length != 0 then '/' :: out else out

/-- `Clean`'s loop from the byte `r` on, `copying` inside a real element. Its result is the
bytes written and `dotdot`. The slash after a `.` or `..` element is read with it, as the next
round would skip it. -/
def cleanLoop (rooted : Bool) : Bool → List Char → List Char → Nat → List Char × Nat
  | _, [], out, dotdot => (out, dotdot)
  | true, '/' :: rest, out, dotdot => cleanLoop rooted false rest out dotdot
  | true, c :: rest, out, dotdot => cleanLoop rooted true rest (c :: out) dotdot
  | false, '/' :: rest, out, dotdot => cleanLoop rooted false rest out dotdot
  | false, ['.'], out, dotdot => (out, dotdot)
  | false, '.' :: '/' :: rest, out, dotdot => cleanLoop rooted false rest out dotdot
  | false, ['.', '.'], out, dotdot => dotDot rooted out dotdot
  | false, '.' :: '.' :: '/' :: rest, out, dotdot =>
    let (out, dotdot) := dotDot rooted out dotdot
    cleanLoop rooted false rest out dotdot
  | false, c :: rest, out, dotdot => cleanLoop rooted true rest (c :: separate rooted out) dotdot

/-- The end of `Clean`: the bytes written, or `.` when there are none. -/
def cleanResult (out : List Char) : String :=
  if out.length = 0 then "." else ⟨out.reverse⟩

/-- `path.Clean(path)`. -/
def clean (path : String) : String :=
  match path.toList with
  | [] => "."
  | c :: rest =>
    let rooted := c == '/'
    let (r, out, dotdot) := if rooted then (rest, ['/'], 1) else (c :: rest, [], 0)
    cleanResult (cleanLoop rooted false r out dotdot).1

/-- `path.Join(elem...)`: the elements under single slashes, with the empty ones before the
first non-empty one dropped, cleaned; `""` when every element is empty. -/
def join (elem : List String) : String :=
  let size := elem.foldl (fun size e => size + e.length) 0
  if size = 0 then ""
  else
    clean ⟨elem.foldl (fun buf e =>
      if 0 < buf.length ∨ e ≠ "" then (if 0 < buf.length then buf ++ ['/'] else buf) ++ e.toList
      else buf) []⟩

/-- `path.Base(path)`: the last element once trailing slashes are removed; `.` for the empty
path and `/` for a path of slashes. -/
def base (path : String) : String :=
  if path = "" then "."
  else
    let last := ((path.toList.reverse.dropWhile (· == '/')).takeWhile (· != '/')).reverse
    if last = [] then "/" else ⟨last⟩

/-- `path.Dir(path)`: what `Split` leaves before the last element, up to and including the last
slash, cleaned. -/
def dir (path : String) : String :=
  clean ⟨(path.toList.reverse.dropWhile (· != '/')).reverse⟩

/-- `path.Ext(path)`: the suffix of the last element from its last dot on, or `""` when the
last element has no dot. -/
def ext (path : String) : String :=
  let last := path.toList.reverse.takeWhile (· != '/')
  match last.findIdx? (· == '.') with
  | none => ""
  | some i => ⟨(last.take (i + 1)).reverse⟩

example : clean "/../a/b/../././/c" = "/a/c" := by decide
example : dir "a/b/index.m3u8" = "a/b" := by decide
example : ext "a.b/index.m3u8" = ".m3u8" := by decide
example : join ["a/..", "../b"] = "../b" := by decide

/-- A name `Clean` keeps as one element: not empty, without a slash, and not `.` or `..`. -/
structure Element (name : String) : Prop where
  nonempty : name.toList ≠ []
  noSlash : '/' ∉ name.toList
  notDot : name.toList ≠ ['.']
  notDotDot : name.toList ≠ ['.', '.']

/-! ## The loop -/

/-- Backing up keeps a suffix of the written bytes, and at least `dotdot` of them. -/
theorem backtrack_suffix {dotdot : Nat} :
    ∀ {out : List Char}, dotdot < out.length →
      backtrack dotdot out <:+ out ∧ dotdot ≤ (backtrack dotdot out).length
  | [], past => absurd past (Nat.not_lt_zero _)
  | c :: rest, past => by
    rw [backtrack]
    split
    · next more =>
      obtain ⟨suffix, long⟩ := backtrack_suffix more.1
      exact ⟨suffix.trans (List.suffix_cons c rest), long⟩
    · exact ⟨List.suffix_cons c rest, by simp only [List.length_cons] at past; omega⟩

/-- Inside a real element the loop copies every byte up to the next slash. -/
theorem cleanLoop_copy {rooted : Bool} {chars : List Char} (noSlash : '/' ∉ chars)
    (out : List Char) (dotdot : Nat) :
    cleanLoop rooted true chars out dotdot = (chars.reverse ++ out, dotdot) := by
  induction chars generalizing out with
  | nil => rw [cleanLoop]; rfl
  | cons c rest ih =>
    have other : c ≠ '/' := fun same => noSlash (same ▸ List.mem_cons_self c rest)
    rw [cleanLoop, ih (fun mem => noSlash (List.mem_cons_of_mem c mem))]
    · simp
    · exact other

/-- A one-element name, read from the start of an element, is written whole: after a slash
unless it is the path's first element. -/
theorem cleanLoop_element {rooted : Bool} {name : String} (elem : Element name)
    (out : List Char) (dotdot : Nat) :
    cleanLoop rooted false name.toList out dotdot =
      (name.toList.reverse ++ separate rooted out, dotdot) := by
  obtain ⟨c, rest, chars⟩ := List.exists_cons_of_ne_nil elem.nonempty
  have noSlash := elem.noSlash
  rw [chars] at noSlash ⊢
  rw [cleanLoop, cleanLoop_copy (fun mem => noSlash (List.mem_cons_of_mem c mem))]
  · simp
  · rintro rfl; exact noSlash (List.mem_cons_self _ _)
  · rintro rfl rfl; exact elem.notDot chars
  · rintro _ - rfl; simp at noSlash
  · rintro rfl rfl; exact elem.notDotDot chars
  · rintro _ - rfl; simp at noSlash

/-- The loop reads a path with a slash after `xs` as `xs` and then, from the start of an
element, what follows the slash. -/
theorem cleanLoop_append_slash (rooted : Bool) (ys : List Char) (copying : Bool)
    (xs out : List Char) (dotdot : Nat) :
    cleanLoop rooted copying (xs ++ '/' :: ys) out dotdot =
      cleanLoop rooted false ys (cleanLoop rooted copying xs out dotdot).1
        (cleanLoop rooted copying xs out dotdot).2 := by
  induction copying, xs, out, dotdot using cleanLoop.induct rooted with
  | case1 copying out dotdot => cases copying <;> rfl
  | case2 rest out dotdot ih => rw [List.cons_append, cleanLoop, cleanLoop, ih]
  | case3 c rest out dotdot other ih =>
    rw [List.cons_append, cleanLoop, cleanLoop, ih] <;> exact other
  | case4 rest out dotdot ih => rw [List.cons_append, cleanLoop, cleanLoop, ih]
  | case5 out dotdot => rfl
  | case6 rest out dotdot ih => rw [List.cons_append, List.cons_append, cleanLoop, cleanLoop, ih]
  | case7 out dotdot => rfl
  | case8 rest out dotdot out' dotdot' backed ih =>
    rw [List.cons_append, List.cons_append, List.cons_append, cleanLoop, cleanLoop]
    simp only [backed, ih]
  | case9 c rest out dotdot other notDot notSlash notDotDot notDotDotSlash ih =>
    -- the tests that failed on `c :: rest` look no further than the slash after `rest`
    rw [List.cons_append, cleanLoop, ih, cleanLoop] <;> try assumption
    · simp
    · rintro tail rfl split
      rcases rest with _ | ⟨c2, rest⟩
      · exact notDot rfl rfl
      · obtain ⟨rfl, -⟩ := List.cons.inj split
        exact notSlash rest rfl rfl
    · rintro - split
      cases rest <;> simp at split
    · rintro tail rfl split
      rcases rest with _ | ⟨c2, _ | ⟨c3, rest⟩⟩
      · exact notDot rfl rfl
      · obtain ⟨rfl, -⟩ := List.cons.inj split
        exact notDotDot rfl rfl
      · obtain ⟨rfl, rfl, -⟩ : c2 = '.' ∧ c3 = '/' ∧ _ := by simpa using split
        exact notDotDotSlash rest rfl rfl

/-! ## A rooted path keeps its root -/

/-- What the loop keeps of a rooted path: the slash it starts with, which `dotdot` guards. -/
structure KeepsRoot (out : List Char) (dotdot : Nat) : Prop where
  root : ['/'] <:+ out
  guard : dotdot = 1

theorem KeepsRoot.push {out : List Char} {dotdot : Nat} (keeps : KeepsRoot out dotdot)
    (c : Char) : KeepsRoot (c :: out) dotdot :=
  ⟨keeps.root.trans (List.suffix_cons c out), keeps.guard⟩

theorem KeepsRoot.separate {out : List Char} {dotdot : Nat} (keeps : KeepsRoot out dotdot) :
    KeepsRoot (separate true out) dotdot := by
  unfold DmsApi.Path.separate
  split
  · exact keeps.push '/'
  · exact keeps

theorem KeepsRoot.dotDot {out : List Char} {dotdot : Nat} (keeps : KeepsRoot out dotdot) :
    KeepsRoot (dotDot true out dotdot).1 (dotDot true out dotdot).2 := by
  unfold DmsApi.Path.dotDot
  split
  · next past =>
    obtain ⟨suffix, long⟩ := backtrack_suffix past
    exact ⟨List.suffix_of_suffix_length_le keeps.root suffix (keeps.guard ▸ long),
      keeps.guard⟩
  · exact keeps

/-- The loop over a rooted path keeps its root. -/
theorem cleanLoop_keepsRoot (copying : Bool) (chars out : List Char) (dotdot : Nat)
    (keeps : KeepsRoot out dotdot) :
    KeepsRoot (cleanLoop true copying chars out dotdot).1
      (cleanLoop true copying chars out dotdot).2 := by
  induction copying, chars, out, dotdot using cleanLoop.induct true with
  | case1 copying => cases copying <;> exact keeps
  | case2 _ _ _ ih => rw [cleanLoop]; exact ih keeps
  | case3 c _ _ _ other ih => rw [cleanLoop]; exact ih (keeps.push c); exact other
  | case4 _ _ _ ih => rw [cleanLoop]; exact ih keeps
  | case5 => exact keeps
  | case6 _ _ _ ih => rw [cleanLoop]; exact ih keeps
  | case7 => exact keeps.dotDot
  | case8 _ _ _ _ _ backed ih =>
    have next := keeps.dotDot
    rw [backed] at next
    rw [cleanLoop]
    simp only [backed]
    exact ih next
  | case9 c rest _ _ other notDot notSlash notDotDot notDotDotSlash ih =>
    rw [cleanLoop]
    · exact ih (keeps.separate.push c)
    all_goals assumption

/-- Before an element the loop writes nothing or a slash: a rooted path never loses its
root, so a slash is only left out after nothing or after the root. -/
theorem separate_eq {rooted : Bool} {out : List Char} (root : rooted = true → ['/'] <:+ out) :
    separate rooted out = [] ∨ ∃ before, separate rooted out = '/' :: before := by
  unfold DmsApi.Path.separate
  split
  · exact .inr ⟨out, rfl⟩
  · next kept =>
    cases rooted
    · left; simpa using kept
    · have single : out.length = 1 := by simpa using kept
      exact .inr ⟨[], ((root rfl).eq_of_length (by rw [single]; rfl)).symm⟩

/-! ## A name at the end of a path -/

/-- A name the loop writes whole when it reads it from the start of an element: after a slash
unless it is the path's first element. -/
def WrittenWhole (name : String) : Prop :=
  ∀ rooted out dotdot, (rooted = true → KeepsRoot out dotdot) →
    cleanLoop rooted false name.toList out dotdot =
      (name.toList.reverse ++ separate rooted out, dotdot)

theorem Element.writtenWhole {name : String} (elem : Element name) : WrittenWhole name :=
  fun _ out dotdot _ => cleanLoop_element elem out dotdot

/-- Once a name is written, the next one is written after a slash: in a rooted path the bytes
hold the root besides the name. -/
theorem separate_after {rooted : Bool} {sub written : List Char} (nonempty : sub ≠ [])
    (root : rooted = true → ['/'] <:+ written) :
    separate rooted (sub ++ written) = '/' :: (sub ++ written) := by
  have long := List.length_pos.mpr nonempty
  rw [separate, if_pos]
  cases rooted
  · simp [nonempty]
  · have rootLong := (root rfl).length_le
    simp at rootLong ⊢; omega

/-- A one-element name and, after a slash, a name written whole are written whole. -/
theorem WrittenWhole.slash {sub name : String} (elem : Element sub) (written : WrittenWhole name) :
    WrittenWhole (sub ++ "/" ++ name) := by
  intro rooted out dotdot root
  have rootWritten : rooted = true → KeepsRoot (separate rooted out) dotdot := by
    rintro rfl; exact (root rfl).separate
  have keeps : rooted = true → KeepsRoot (sub.toList.reverse ++ separate rooted out) dotdot :=
    fun rooted => ⟨(rootWritten rooted).root.trans (List.suffix_append _ _),
      (rootWritten rooted).guard⟩
  have chars : (sub ++ "/" ++ name).toList = sub.toList ++ '/' :: name.toList := by
    show (sub.toList ++ ['/']) ++ name.toList = _
    rw [List.append_assoc]; rfl
  rw [chars, cleanLoop_append_slash, cleanLoop_element elem, written _ _ _ keeps,
    separate_after (List.reverse_ne_nil_iff.mpr elem.nonempty) fun rooted =>
      (rootWritten rooted).root]
  simp

/-- A name written whole, read after a slash, ends the bytes the loop writes, after a slash or
as all of them. -/
theorem cleanLoop_written_end (rooted : Bool) (xs out : List Char) (dotdot : Nat)
    (root : rooted = true → KeepsRoot out dotdot) {name : String} (written : WrittenWhole name) :
    ∃ sep, (cleanLoop rooted false (xs ++ '/' :: name.toList) out dotdot).1 =
      name.toList.reverse ++ sep ∧ (sep = [] ∨ ∃ before, sep = '/' :: before) := by
  have keeps : rooted = true → KeepsRoot (cleanLoop rooted false xs out dotdot).1
      (cleanLoop rooted false xs out dotdot).2 := by
    rintro rfl; exact cleanLoop_keepsRoot false xs out dotdot (root rfl)
  rw [cleanLoop_append_slash, written _ _ _ keeps]
  exact ⟨_, rfl, separate_eq fun rooted => (keeps rooted).root⟩

/-- What `Clean` returns when a one-element name ends the bytes written: the name, after a
slash unless it is all of them. -/
theorem cleanResult_element {name : String} (nonempty : name.toList ≠ []) {sep : List Char}
    (slash : sep = [] ∨ ∃ before, sep = '/' :: before) :
    cleanResult (name.toList.reverse ++ sep) = name ∨
      ∃ pre, cleanResult (name.toList.reverse ++ sep) = pre ++ "/" ++ name := by
  have written : cleanResult (name.toList.reverse ++ sep) = ⟨sep.reverse ++ name.toList⟩ := by
    have long := List.length_pos.mpr nonempty
    rw [cleanResult, if_neg (by simp only [List.length_append, List.length_reverse]; omega),
      List.reverse_append, List.reverse_reverse]
  rw [written]
  rcases slash with rfl | ⟨before, rfl⟩
  · exact .inl rfl
  · exact .inr ⟨⟨before.reverse⟩, by rw [List.reverse_cons]; rfl⟩

/-- `Clean` keeps a name written whole that ends a path: as the cleaned path, or after a
slash. -/
theorem clean_written_end {name : String} (written : WrittenWhole name)
    (nonempty : name.toList ≠ []) (xs : List Char) :
    clean ⟨xs ++ '/' :: name.toList⟩ = name ∨
      ∃ pre, clean ⟨xs ++ '/' :: name.toList⟩ = pre ++ "/" ++ name := by
  suffices ∃ sep,
      clean ⟨xs ++ '/' :: name.toList⟩ = cleanResult (name.toList.reverse ++ sep) ∧
      (sep = [] ∨ ∃ before, sep = '/' :: before) by
    obtain ⟨sep, cleaned, slash⟩ := this
    rw [cleaned]
    exact cleanResult_element nonempty slash
  rcases xs with _ | ⟨c, rest⟩
  · refine ⟨['/'], ?_, .inr ⟨[], rfl⟩⟩
    show cleanResult (cleanLoop true false name.toList ['/'] 1).1 = _
    rw [written true ['/'] 1 fun _ => ⟨List.suffix_refl _, rfl⟩]
    rfl
  · by_cases root : c = '/'
    · subst root
      obtain ⟨sep, written, slash⟩ :=
        cleanLoop_written_end true rest ['/'] 1 (fun _ => ⟨List.suffix_refl _, rfl⟩) written
      refine ⟨sep, ?_, slash⟩
      show cleanResult (cleanLoop true false (rest ++ '/' :: name.toList) ['/'] 1).1 = _
      rw [written]
    · obtain ⟨sep, written, slash⟩ := cleanLoop_written_end false (c :: rest) [] 0 nofun written
      refine ⟨sep, ?_, slash⟩
      rw [← written]
      simp [clean, beq_eq_false_iff_ne.mpr root]

/-- `Clean` keeps a one-element name that ends a path whole: as the cleaned path, or after a
slash. -/
theorem clean_element_end {name : String} (elem : Element name) (xs : List Char) :
    clean ⟨xs ++ '/' :: name.toList⟩ = name ∨
      ∃ pre, clean ⟨xs ++ '/' :: name.toList⟩ = pre ++ "/" ++ name :=
  clean_written_end elem.writtenWhole elem.nonempty xs

/-- `Clean` never returns the empty path. -/
theorem clean_ne_empty (path : String) : clean path ≠ "" := by
  have result : ∀ out, cleanResult out ≠ "" := fun out => by
    rw [cleanResult]
    split
    · decide
    · next long => exact fun empty => long (by simpa using congrArg String.length empty)
  unfold clean
  split
  · decide
  · dsimp only
    split <;> exact result _

/-- `Clean` leaves a one-element name as it is. -/
theorem clean_element {name : String} (elem : Element name) : clean name = name := by
  obtain ⟨c, rest, chars⟩ := List.exists_cons_of_ne_nil elem.nonempty
  have root : c ≠ '/' := fun same => elem.noSlash (chars ▸ same ▸ List.mem_cons_self c rest)
  have written := @cleanLoop_element false name elem [] 0
  rw [chars] at written
  have long := List.length_pos.mpr elem.nonempty
  simp only [clean, chars, beq_eq_false_iff_ne.mpr root, Bool.false_eq_true, if_false, written]
  rw [← chars, show separate false [] = [] from rfl, List.append_nil, cleanResult,
    if_neg (by rw [List.length_reverse]; exact Nat.pos_iff_ne_zero.mp long), List.reverse_reverse]
  rfl

/-! ## `Join` and `Base` -/

/-- `Join(dir, name)` for a non-empty name cleans the name alone when the directory is empty,
and the directory, a slash and the name otherwise. -/
theorem join_pair (dir : String) {name : String} (nonempty : name.toList ≠ []) :
    join [dir, name] =
      if dir = "" then clean name else clean ⟨dir.toList ++ '/' :: name.toList⟩ := by
  have named : name ≠ "" := fun empty => nonempty (congrArg String.data empty)
  have long : name.length ≠ 0 := fun zero => nonempty (List.eq_nil_of_length_eq_zero zero)
  rw [join, if_neg (by simp only [List.foldl_cons, List.foldl_nil]; omega), List.foldl_cons,
    List.foldl_cons, List.foldl_nil]
  by_cases empty : dir = ""
  · subst empty
    simp only [if_pos, List.length_nil, Nat.lt_irrefl, ne_eq, not_true_eq_false, or_self,
      if_false, named, not_false_eq_true, or_true, if_true, List.nil_append]
    rfl
  · have written : 0 < dir.toList.length :=
      List.length_pos.mpr fun nil => empty (String.ext nil)
    simp only [empty, if_false, List.length_nil, Nat.lt_irrefl, ne_eq, not_false_eq_true,
      or_true, if_true, List.nil_append, written, true_or, List.append_assoc, List.singleton_append]

/-- `Join(dir, name)` ends with a one-element name: it is the name, or the name after a
slash. -/
theorem join_element (dir : String) {name : String} (elem : Element name) :
    join [dir, name] = name ∨ ∃ pre, join [dir, name] = pre ++ "/" ++ name := by
  rw [join_pair dir elem.nonempty]
  split
  · exact .inl (clean_element elem)
  · exact clean_element_end elem dir.toList

/-- `Base` of a path whose last element is a one-element name: the name. -/
theorem base_element_end {name : String} (elem : Element name) {pre : List Char}
    (slash : pre = [] ∨ ∃ before, pre = before ++ ['/']) :
    base ⟨pre ++ name.toList⟩ = name := by
  have kept : ∀ c ∈ name.toList.reverse, (c != '/') = true := fun c mem => by
    simpa using fun same : c = '/' => elem.noSlash (same ▸ List.mem_reverse.mp mem)
  obtain ⟨d, rest, chars⟩ :=
    List.exists_cons_of_ne_nil (List.reverse_ne_nil_iff.mpr elem.nonempty)
  have last : ((String.toList ⟨pre ++ name.toList⟩).reverse.dropWhile (· == '/')).takeWhile
      (· != '/') = name.toList.reverse := by
    rw [show String.toList ⟨pre ++ name.toList⟩ = pre ++ name.toList from rfl,
      List.reverse_append, chars, List.cons_append,
      List.dropWhile_cons_of_neg (by simpa using kept d (chars ▸ List.mem_cons_self d rest)),
      ← List.cons_append, ← chars, List.takeWhile_append_of_pos kept]
    rcases slash with rfl | ⟨before, rfl⟩ <;> simp
  have nonempty : (⟨pre ++ name.toList⟩ : String) ≠ "" := fun empty =>
    elem.nonempty (List.append_eq_nil.mp (congrArg String.data empty)).2
  rw [base, if_neg nonempty]
  simp only [last, List.reverse_reverse, if_neg elem.nonempty]
  rfl

/-- `Base(Join(dir, name))` is the name, for every directory, when the name is one element. -/
theorem base_join_element (dir : String) {name : String} (elem : Element name) :
    base (join [dir, name]) = name := by
  rcases join_element dir elem with joined | ⟨pre, joined⟩ <;> rw [joined]
  · exact base_element_end elem (.inl rfl)
  · exact @base_element_end name elem (pre.toList ++ ['/']) (.inr ⟨pre.toList, rfl⟩)

/-- `Join(dir, sub, name)` for a non-empty `dir` and `sub`: the three under single slashes,
cleaned. -/
theorem join_three {dir sub : String} (name : String) (dirNonempty : dir ≠ "")
    (subNonempty : sub ≠ "") :
    join [dir, sub, name] = clean ⟨dir.toList ++ '/' :: (sub.toList ++ '/' :: name.toList)⟩ := by
  have subLong : 0 < sub.length :=
    List.length_pos.mpr fun nil => subNonempty (String.ext nil)
  have dirLong : 0 < dir.toList.length :=
    List.length_pos.mpr fun nil => dirNonempty (String.ext nil)
  have bufLong : 0 < (dir.toList ++ '/' :: sub.toList).length := by
    rw [List.length_append]; omega
  rw [join, if_neg (by simp only [List.foldl_cons, List.foldl_nil]; omega)]
  simp only [List.foldl_cons, List.foldl_nil, List.length_nil, Nat.lt_irrefl, ne_eq, dirNonempty,
    not_false_eq_true, or_true, if_true, if_false, subNonempty, List.nil_append, dirLong,
    true_or, List.append_assoc, List.singleton_append, bufLong, List.cons_append]

/-- `Join(dir, sub, name)` for a non-empty `dir` and one-element `sub` and `name` ends with
`sub/name`: it is `sub/name`, or that after a slash. -/
theorem join_elements {dir sub name : String} (nonempty : dir ≠ "") (subElem : Element sub)
    (nameElem : Element name) :
    join [dir, sub, name] = sub ++ "/" ++ name ∨
      ∃ pre, join [dir, sub, name] = pre ++ "/" ++ (sub ++ "/" ++ name) := by
  have chars : (sub ++ "/" ++ name).toList = sub.toList ++ '/' :: name.toList := by
    show (sub.toList ++ ['/']) ++ name.toList = _
    rw [List.append_assoc]; rfl
  rw [join_three name nonempty fun empty => subElem.nonempty (congrArg String.data empty),
    ← chars]
  exact clean_written_end (WrittenWhole.slash subElem nameElem.writtenWhole) (by simp [chars])
    dir.toList

/-- `Base(Join(dir, sub, name))` is the name, for a non-empty `dir` and one-element `sub` and
`name`. -/
theorem base_join_elements {dir sub name : String} (nonempty : dir ≠ "") (subElem : Element sub)
    (nameElem : Element name) :
    base (join [dir, sub, name]) = name := by
  rcases join_elements nonempty subElem nameElem with joined | ⟨pre, joined⟩ <;> rw [joined]
  · exact @base_element_end name nameElem (sub.toList ++ ['/']) (.inr ⟨sub.toList, rfl⟩)
  · rw [show pre ++ "/" ++ (sub ++ "/" ++ name) = pre ++ "/" ++ sub ++ "/" ++ name by
      simp only [String.append_assoc]]
    exact @base_element_end name nameElem ((pre ++ "/" ++ sub).toList ++ ['/']) (.inr ⟨_, rfl⟩)

/-- What `Base` returns: `.`, `/`, or a non-empty name without a slash. -/
theorem base_cases (path : String) :
    base path = "." ∨ base path = "/" ∨ ∃ last, base path = ⟨last⟩ ∧ last ≠ [] ∧ '/' ∉ last := by
  unfold base
  split
  · exact .inl rfl
  · dsimp only
    split
    · exact .inr (.inl rfl)
    · next last =>
      exact .inr (.inr ⟨_, rfl, last, fun mem => by
        simpa using List.mem_takeWhile_imp (List.mem_reverse.mp mem)⟩)

/-- A file name whose extension is `.m3u8`, taken as the `Base` of a path, is one element. -/
theorem element_base_of_ext {path : String} (named : ext (base path) = ".m3u8") :
    Element (base path) := by
  have notDot : base path ≠ "." := fun dot => absurd (dot ▸ named) (by decide)
  have notDotDot : base path ≠ ".." := fun dots => absurd (dots ▸ named) (by decide)
  have notRoot : base path ≠ "/" := fun root => absurd (root ▸ named) (by decide)
  rcases base_cases path with dot | root | ⟨last, shape, nonempty, noSlash⟩
  · exact absurd dot notDot
  · exact absurd root notRoot
  · rw [shape] at notDot notDotDot ⊢
    exact ⟨nonempty, noSlash, fun dot => notDot (String.ext dot),
      fun dots => notDotDot (String.ext dots)⟩

end DmsApi.Path
