import Mathlib.Data.List.Basic
import Mathlib.Data.List.Infix

/-!
# CPython's `str` operations used by the command line

A Python `str` is a sequence of code points, modelled as `List Char`. The operations the
command layer calls follow CPython's `stringlib`: `find` scans for the first occurrence,
`split(sep)` cuts at the first occurrence and continues after it, `count` scans and skips
each match, and `split()` without a separator collects the maximal runs of characters that
are not whitespace. Raised exceptions are values of `PyError`, one constructor per message.
`LeftmostFields` says without the loop what `split(sep)` returns: the fields whose join is
the text, each cut at the leftmost occurrence of `sep` that remains.

Lone surrogates, which a Python `str` may hold and a `Char` may not, are out of scope.
The one-character `split` and `count` fast paths of CPython compute the same results as the
general scans modelled here; `splitLoop_single` and `countLoop_single` relate them to
`List.splitOn` and `List.count`.
-/

namespace Kontrol.Python

/-- The `ValueError`s the modelled code raises, one constructor per CPython message. -/
inductive ValueError where
  | emptySeparator
  | tooManyValuesToUnpack (expected : ℕ)
  | notEnoughValuesToUnpack (expected got : ℕ)
  | invalidLiteral (base : ℕ) (literal : List Char)
  | intExceedsLimit (limit digits : ℕ)
  | strExceedsLimit (limit : ℕ)
  deriving DecidableEq, Repr

/-- The `TypeError`s the modelled code raises: a call naming a keyword the callee lacks. -/
inductive TypeError where
  | unexpectedKeyword (qualname keyword : String)
  deriving DecidableEq, Repr

/-- An exception raised by the modelled code; `sys.exit(code)` raises `SystemExit(code)`. -/
inductive PyError where
  | valueError (e : ValueError)
  | typeError (e : TypeError)
  | systemExit (code : ℕ)
  deriving DecidableEq, Repr

/-- `str.find`: the text before the first occurrence of `sep` in `s`, and the text after it. -/
def strFind (sep s : List Char) : Option (List Char × List Char) :=
  if sep <+: s then some ([], s.drop sep.length)
  else match s with
    | [] => none
    | c :: s' => (strFind sep s').map fun r => (c :: r.1, r.2)

/-- A found separator splits the text into the part before it, itself, and the rest. -/
theorem strFind_eq_some {sep s b a : List Char} (h : strFind sep s = some (b, a)) :
    s = b ++ sep ++ a := by
  induction s generalizing b with
  | nil =>
    unfold strFind at h
    split at h
    · next hp => simp_all [List.prefix_nil.mp hp]
    · cases h
  | cons c s ih =>
    unfold strFind at h
    split at h
    · next hp =>
      obtain ⟨rfl, rfl⟩ := Prod.mk.inj (Option.some.inj h)
      exact (List.prefix_iff_eq_append.mp hp).symm
    · obtain ⟨⟨b', a'⟩, hr, he⟩ := Option.map_eq_some'.mp h
      obtain ⟨rfl, rfl⟩ := Prod.mk.inj he
      simp [ih hr]

/-- When the scan finds nothing, the separator occurs nowhere in the text. -/
theorem strFind_eq_none {sep s : List Char} (h : strFind sep s = none) : ¬ sep <:+: s := by
  induction s with
  | nil =>
    unfold strFind at h
    split at h
    · cases h
    · next hp => exact fun hi => hp (List.prefix_nil.mpr (List.eq_nil_of_infix_nil hi))
  | cons c s ih =>
    unfold strFind at h
    split at h
    · cases h
    · next hp =>
      rw [Option.map_eq_none'] at h
      exact fun hi => (List.infix_cons_iff.mp hi).elim hp (ih h)

/-- The occurrence found is the leftmost one: no occurrence ends before it does. -/
theorem strFind_leftmost {sep s b a : List Char} (hsep : sep ≠ [])
    (h : strFind sep s = some (b, a)) : ¬ sep <:+: b ++ sep.dropLast := by
  induction s generalizing b with
  | nil =>
    unfold strFind at h
    split at h
    · next hp => exact absurd (List.prefix_nil.mp hp) hsep
    · cases h
  | cons c s ih =>
    unfold strFind at h
    split at h
    · obtain ⟨rfl, rfl⟩ := Prod.mk.inj (Option.some.inj h)
      intro hi
      have := hi.length_le
      have := List.length_pos.mpr hsep
      simp only [List.nil_append, List.length_dropLast] at *
      omega
    · next hp =>
      obtain ⟨⟨b', a'⟩, hr, he⟩ := Option.map_eq_some'.mp h
      simp only [Prod.mk.injEq] at he
      obtain ⟨rfl, rfl⟩ := he
      intro hi
      rcases List.infix_cons_iff.mp hi with hpre | hin
      · refine hp (hpre.trans ?_)
        rw [strFind_eq_some hr, List.prefix_cons_inj, List.append_eq, List.append_assoc,
          List.prefix_append_right_inj]
        exact (List.dropLast_prefix sep).trans (List.prefix_append _ _)
      · exact ih hr hin

/-- A character that occurs in a text occurs there as a one-character infix. -/
theorem singleton_infix_of_mem {c : Char} {l : List Char} (h : c ∈ l) : [c] <:+: l := by
  obtain ⟨u, v, rfl⟩ := List.append_of_mem h
  exact ⟨u, v, by simp⟩

/-- `sub in s`: whether the scan finds `sub` in `s`. -/
def strContains (s sub : List Char) : Bool := (strFind sub s).isSome

/-- For one character, `in` is list membership. -/
theorem strContains_singleton (s : List Char) (c : Char) :
    strContains s [c] = true ↔ c ∈ s := by
  unfold strContains
  cases h : strFind [c] s with
  | none => simpa using fun hc => strFind_eq_none h (singleton_infix_of_mem hc)
  | some r =>
    obtain ⟨b, a⟩ := r
    simp [strFind_eq_some h]

/-- A separator `str.split` and `str.count` scan with: the empty one is refused first. -/
structure Separator where
  chars : List Char
  ne_nil : chars ≠ []

/-- The text left after a found separator is shorter than the text scanned. -/
theorem strFind_length_lt {sep : Separator} {s b a : List Char}
    (h : strFind sep.chars s = some (b, a)) : a.length < s.length := by
  have hlen : 0 < sep.chars.length := List.length_pos.mpr sep.ne_nil
  rw [strFind_eq_some h]
  simp only [List.length_append]
  omega

/-- The loop of CPython's `split`: cut at the first occurrence and go on after it. -/
def splitLoop (sep : Separator) (s : List Char) : List (List Char) :=
  match _h : strFind sep.chars s with
  | none => [s]
  | some (b, a) => b :: splitLoop sep a
termination_by s.length
decreasing_by exact strFind_length_lt _h

/-- `s.split(sep)`, with `ValueError: empty separator` for `sep = ''`. -/
def strSplit (s sep : List Char) : Except PyError (List (List Char)) :=
  if h : sep = [] then .error (.valueError .emptySeparator) else .ok (splitLoop ⟨sep, h⟩ s)

/-- CPython's counting scan: a match at the head counts once and is skipped whole. -/
def countLoop (sep : Separator) : List Char → ℕ
  | [] => 0
  | c :: s =>
    if sep.chars <+: c :: s then countLoop sep ((c :: s).drop sep.chars.length) + 1
    else countLoop sep s
termination_by s => s.length
decreasing_by
  all_goals simp_wf
  have := List.length_pos.mpr sep.ne_nil
  omega

/-- `s.count(sub)`: the empty substring is counted at each of the `len(s) + 1` positions. -/
def strCount (s sub : List Char) : ℕ :=
  if h : sub = [] then s.length + 1 else countLoop ⟨sub, h⟩ s

/-- `sep.join(xs)`. -/
def strJoin (sep : List Char) (xs : List (List Char)) : List Char := sep.intercalate xs

/-- `str(x)` for a `str` argument returns it unchanged. -/
def str (s : List Char) : Except PyError (List Char) := .ok s

@[simp]
theorem strSplit_of_ne_nil {s sep : List Char} (h : sep ≠ []) :
    strSplit s sep = .ok (splitLoop ⟨sep, h⟩ s) := dif_neg h

@[simp]
theorem strCount_of_ne_nil {s sep : List Char} (h : sep ≠ []) :
    strCount s sep = countLoop ⟨sep, h⟩ s := dif_neg h

/-- Joining one text adds no separator. -/
@[simp] theorem strJoin_singleton (sep x : List Char) : strJoin sep [x] = x := by
  simp [strJoin, List.intercalate]

/-- Joining puts the separator between the first text and the join of the rest. -/
theorem strJoin_cons_cons (sep x y : List Char) (rest : List (List Char)) :
    strJoin sep (x :: y :: rest) = x ++ sep ++ strJoin sep (y :: rest) := by
  simp [strJoin, List.intercalate]

/-- The split loop always returns at least one field. -/
theorem splitLoop_ne_nil (sep : Separator) (s : List Char) : splitLoop sep s ≠ [] := by
  rw [splitLoop]; split <;> simp

/-- Joining the fields with the separator they were cut at gives back the text. -/
theorem strJoin_splitLoop (sep : Separator) (s : List Char) :
    strJoin sep.chars (splitLoop sep s) = s := by
  induction s using splitLoop.induct sep with
  | case1 s h => rw [splitLoop, h]; simp [strJoin, List.intercalate]
  | case2 s b a h ih =>
    rw [splitLoop, h]
    obtain ⟨x, xs, hx⟩ := List.exists_cons_of_ne_nil (splitLoop_ne_nil sep a)
    simp only [strJoin, hx] at ih ⊢
    rw [strFind_eq_some h, ← ih]
    simp [List.intercalate]

/-- The counting scan counts the same occurrences the split loop cuts at. -/
theorem countLoop_eq_strFind (sep : Separator) (s : List Char) :
    countLoop sep s = match strFind sep.chars s with
      | none => 0
      | some (_, a) => countLoop sep a + 1 := by
  induction s with
  | nil => simp [countLoop, strFind, List.prefix_nil, sep.ne_nil]
  | cons c s ih =>
    by_cases hp : sep.chars <+: c :: s
    · simp [countLoop, strFind, hp]
    · rw [countLoop, strFind, if_neg hp, if_neg hp, ih]
      cases strFind sep.chars s <;> rfl

/-- The split loop returns one field more than there are counted occurrences. -/
theorem length_splitLoop (sep : Separator) (s : List Char) :
    (splitLoop sep s).length = countLoop sep s + 1 := by
  induction s using splitLoop.induct sep with
  | case1 s h => rw [splitLoop, countLoop_eq_strFind, h]; rfl
  | case2 s b a h ih => rw [splitLoop, countLoop_eq_strFind, h]; simp [ih]

/-- Counting one character is `List.count`. -/
theorem countLoop_single (c : Char) (s : List Char) :
    countLoop ⟨[c], List.cons_ne_nil c []⟩ s = s.count c := by
  induction s with
  | nil => simp [countLoop]
  | cons x s ih =>
    by_cases hx : x = c
    · subst hx; simp [countLoop, ih]
    · simp [countLoop, ih, hx, Ne.symm hx, List.count_cons]

/-- Splitting at one character is `List.splitOn`. -/
theorem splitLoop_single (c : Char) (s : List Char) :
    splitLoop ⟨[c], List.cons_ne_nil c []⟩ s = s.splitOn c := by
  induction s using splitLoop.induct ⟨[c], List.cons_ne_nil c []⟩ with
  | case1 s h =>
    rw [splitLoop, h, List.splitOn, List.splitOnP_eq_single]
    intro x hx hxc
    rw [beq_iff_eq] at hxc
    subst hxc
    exact strFind_eq_none h (singleton_infix_of_mem hx)
  | case2 s b a h ih =>
    rw [splitLoop, h]
    dsimp only
    rw [ih, strFind_eq_some h, List.append_assoc, List.singleton_append]
    unfold List.splitOn
    rw [List.splitOnP_first _ _ _ c (by simp)]
    intro x hx hxc
    rw [beq_iff_eq] at hxc
    subst hxc
    exact strFind_leftmost (List.cons_ne_nil x []) h (by simpa using singleton_infix_of_mem hx)

/-- No field the split loop returns contains the separator. -/
theorem splitLoop_fields (sep : Separator) (s : List Char) :
    ∀ x ∈ splitLoop sep s, ¬ sep.chars <:+: x := by
  induction s using splitLoop.induct sep with
  | case1 s h => rw [splitLoop, h]; simpa using strFind_eq_none h
  | case2 s b a h ih =>
    rw [splitLoop, h]
    intro x hx
    rcases List.mem_cons.mp hx with rfl | hx
    · exact fun hi => strFind_leftmost sep.ne_nil h (hi.trans (List.prefix_append _ _).isInfix)
    · exact ih x hx

/-- Conversely, the scan finds an occurrence when no earlier one ends before it. -/
theorem strFind_of_leftmost {sep x r : List Char} (h : ¬ sep <:+: x ++ sep.dropLast) :
    strFind sep (x ++ sep ++ r) = some (x, r) := by
  induction x with
  | nil => rw [List.nil_append, strFind.eq_def, if_pos (List.prefix_append _ _), List.drop_left]
  | cons c x ih =>
    simp only [List.cons_append] at h ⊢
    have hdrop : c :: (x ++ sep.dropLast) <+: c :: (x ++ sep ++ r) := by
      rw [List.prefix_cons_inj, List.append_assoc, List.prefix_append_right_inj]
      exact (List.dropLast_prefix sep).trans (List.prefix_append _ _)
    have hfirst : ¬ sep <+: c :: (x ++ sep ++ r) := fun hp =>
      h (List.prefix_of_prefix_length_le hp hdrop (by simp; omega)).isInfix
    rw [strFind, if_neg hfirst, ih fun hi => h (List.infix_cons hi), Option.map_some']

/-- The fields `str.split` must return: the last holds no separator, and each other field,
followed by the separator, holds no earlier occurrence of it. -/
def LeftmostFields (sep : List Char) : List (List Char) → Prop
  | [] => False
  | [x] => ¬ sep <:+: x
  | x :: y :: rest => ¬ sep <:+: x ++ sep.dropLast ∧ LeftmostFields sep (y :: rest)

/-- `LeftmostFields` decided field by field. -/
def decLeftmostFields (sep : List Char) : (xs : List (List Char)) → Decidable (LeftmostFields sep xs)
  | [] => isFalse id
  | [x] => inferInstanceAs (Decidable (¬ sep <:+: x))
  | x :: y :: rest =>
    have := decLeftmostFields sep (y :: rest)
    inferInstanceAs (Decidable (¬ sep <:+: x ++ sep.dropLast ∧ LeftmostFields sep (y :: rest)))

instance (sep : List Char) : DecidablePred (LeftmostFields sep) := decLeftmostFields sep

/-- The split loop returns exactly the leftmost-cut fields whose join is the text. -/
theorem splitLoop_eq_iff (sep : Separator) (s : List Char) (xs : List (List Char)) :
    splitLoop sep s = xs ↔ strJoin sep.chars xs = s ∧ LeftmostFields sep.chars xs := by
  constructor
  · rintro rfl
    refine ⟨strJoin_splitLoop sep s, ?_⟩
    induction s using splitLoop.induct sep with
    | case1 s h => rw [splitLoop, h]; exact strFind_eq_none h
    | case2 s b a h ih =>
      rw [splitLoop, h]
      dsimp only
      obtain ⟨y, rest, hy⟩ := List.exists_cons_of_ne_nil (splitLoop_ne_nil sep a)
      rw [hy] at ih ⊢
      exact ⟨strFind_leftmost sep.ne_nil h, ih⟩
  · rintro ⟨rfl, hxs⟩
    induction xs using LeftmostFields.induct sep.chars with
    | case1 => exact absurd hxs id
    | case2 x =>
      have hjoin : strJoin sep.chars [x] = x := by simp [strJoin, List.intercalate]
      rw [hjoin]
      cases h : strFind sep.chars x with
      | none => rw [splitLoop, h]
      | some r => exact absurd (strFind_eq_some h ▸ List.infix_append _ _ _) hxs
    | case3 x y rest ih =>
      have hjoin : strJoin sep.chars (x :: y :: rest) =
          x ++ sep.chars ++ strJoin sep.chars (y :: rest) := by
        simp [strJoin, List.intercalate]
      rw [hjoin, splitLoop, strFind_of_leftmost hxs.1]
      exact congrArg _ (ih hxs.2)

/-- A text free of a one-character separator is a single field. -/
theorem splitLoop_single_of_not_mem {c : Char} {s : List Char} (h : c ∉ s) :
    splitLoop ⟨[c], List.cons_ne_nil c []⟩ s = [s] :=
  (splitLoop_eq_iff _ s [s]).mpr
    ⟨by simp [strJoin, List.intercalate], fun hi => h (hi.subset (List.mem_singleton_self c))⟩

/-- Two texts free of a one-character separator are cut apart at it. -/
theorem splitLoop_single_append {c : Char} {a b : List Char} (ha : c ∉ a) (hb : c ∉ b) :
    splitLoop ⟨[c], List.cons_ne_nil c []⟩ (a ++ c :: b) = [a, b] :=
  (splitLoop_eq_iff _ _ [a, b]).mpr ⟨by simp [strJoin, List.intercalate],
    fun hi => ha (by simpa using hi.subset (List.mem_singleton_self c)),
    fun hi => hb (hi.subset (List.mem_singleton_self c))⟩

example : strSplit "a;b;;c".toList [';'] = .ok ["a".toList, "b".toList, [], "c".toList] := by
  simp [splitLoop, strFind]

/-- `Py_UNICODE_ISSPACE`: the characters `str.isspace` accepts. -/
def isSpace (c : Char) : Bool :=
  let n := c.toNat
  (0x09 ≤ n && n ≤ 0x0D) || (0x1C ≤ n && n ≤ 0x20) || n == 0x85 || n == 0xA0 || n == 0x1680 ||
    (0x2000 ≤ n && n ≤ 0x200A) || n == 0x2028 || n == 0x2029 || n == 0x202F || n == 0x205F ||
    n == 0x3000

/-- CPython's `split_whitespace` loop, one character at a time: whitespace closes the word
being read, any other character extends it. -/
def splitWhitespaceLoop : List Char → List Char → List (List Char)
  | [], word => if word = [] then [] else [word]
  | c :: s, word =>
    if isSpace c then
      if word = [] then splitWhitespaceLoop s [] else word :: splitWhitespaceLoop s []
    else splitWhitespaceLoop s (word ++ [c])

/-- `s.split()`: the maximal runs of characters that are not whitespace. -/
def strSplitWhitespace (s : List Char) : List (List Char) := splitWhitespaceLoop s []

/-- The loop returns no word exactly when nothing is pending and the rest is whitespace. -/
theorem splitWhitespaceLoop_eq_nil_iff (s word : List Char) :
    splitWhitespaceLoop s word = [] ↔ word = [] ∧ ∀ c ∈ s, isSpace c = true := by
  induction s generalizing word with
  | nil => by_cases hw : word = [] <;> simp [splitWhitespaceLoop, hw]
  | cons c s ih =>
    by_cases hc : isSpace c <;> by_cases hw : word = [] <;> simp [splitWhitespaceLoop, hc, hw, ih]

/-- Every word the loop returns is non-empty and free of whitespace. -/
theorem splitWhitespaceLoop_words (s word : List Char) (hword : ∀ c ∈ word, isSpace c = false) :
    ∀ w ∈ splitWhitespaceLoop s word, w ≠ [] ∧ ∀ c ∈ w, isSpace c = false := by
  induction s generalizing word with
  | nil => by_cases hw : word = [] <;> simp_all [splitWhitespaceLoop]
  | cons c s ih =>
    have ih₀ := ih [] (by simp)
    by_cases hc : isSpace c
    · by_cases hw : word = []
      · simpa [splitWhitespaceLoop, hc, hw] using ih₀
      · simp only [splitWhitespaceLoop, hc, hw, if_true, if_false, List.mem_cons]
        rintro w (rfl | hw')
        · exact ⟨hw, hword⟩
        · exact ih₀ w hw'
    · simp only [splitWhitespaceLoop, hc]
      refine ih _ fun x hx => ?_
      rcases List.mem_append.mp hx with hx | hx
      · exact hword x hx
      · rw [List.mem_singleton.mp hx]; simpa using hc

/-- A run free of whitespace passes into the pending word. -/
theorem splitWhitespaceLoop_append_word {w : List Char} (hw : ∀ c ∈ w, isSpace c = false)
    (s word : List Char) :
    splitWhitespaceLoop (w ++ s) word = splitWhitespaceLoop s (word ++ w) := by
  induction w generalizing word with
  | nil => simp
  | cons c w ih =>
    rw [List.cons_append, splitWhitespaceLoop, if_neg (by simp [hw c (List.mem_cons_self c w)]),
      ih (fun x hx => hw x (List.mem_cons_of_mem c hx))]
    simp

/-- A whitespace character closes the pending word: the words of `x ++ c :: y` are those of
`x`, then those of `y`. -/
theorem splitWhitespaceLoop_append_space {c : Char} (hc : isSpace c = true) (x y : List Char) :
    ∀ word, splitWhitespaceLoop (x ++ c :: y) word =
      splitWhitespaceLoop x word ++ splitWhitespaceLoop y [] := by
  induction x with
  | nil => intro word; by_cases hw : word = [] <;> simp [splitWhitespaceLoop, hc, hw]
  | cons d x ih =>
    intro word
    by_cases hd : isSpace d <;> by_cases hw : word = [] <;> simp [splitWhitespaceLoop, hd, hw, ih]

/-- `' '.join(words).split()` gives back any list of non-empty words free of whitespace. -/
theorem strSplitWhitespace_join (ws : List (List Char))
    (hws : ∀ w ∈ ws, w ≠ [] ∧ ∀ c ∈ w, isSpace c = false) :
    strSplitWhitespace (strJoin [' '] ws) = ws := by
  induction ws with
  | nil => rfl
  | cons w ws ih =>
    obtain ⟨hne, hw⟩ := hws w (List.mem_cons_self w ws)
    have hword : strSplitWhitespace w = [w] := by
      rw [strSplitWhitespace, ← List.append_nil w, splitWhitespaceLoop_append_word hw]
      simp [splitWhitespaceLoop, hne]
    cases ws with
    | nil => simpa using hword
    | cons w' ws =>
      rw [strJoin_cons_cons, List.append_assoc, List.singleton_append, strSplitWhitespace,
        splitWhitespaceLoop_append_space (by decide), ← strSplitWhitespace, hword,
        ← strSplitWhitespace, ih fun x hx => hws x (List.mem_cons_of_mem w hx)]
      rfl

example : strSplitWhitespace " kore-rpc  --x\t1 ".toList = ["kore-rpc".toList, "--x".toList, "1".toList] := by
  decide

end Kontrol.Python
