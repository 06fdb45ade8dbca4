import Kontrol.Python.Int

/-!
# Argument types of the `kontrol` command line

`list_of(elem_type, delim)` reads a delimited list, and `_parse_test_version_tuple` reads the
`test:version` form that `--match-test` and `--include-summary` take; `view-kcfg` reads the
contract name off a test id with the same tuple unpacking of a split. argparse applies an
option's type function to each of its occurrences, collects the results in command-line
order under the `append` action, and reports a `ValueError` or `TypeError` from the type
function as an invalid value of that option. `appendArgs` takes the occurrences of one option
apart from the rest of the command line: argparse converts the arguments of all options in
command-line order and reports the first invalid one of any option, and that interleaving is
not modelled.

The parsed version goes through `int()`, so it depends on `sys.get_int_max_str_digits()`;
every result below holds for each value of that limit.
-/

namespace Kontrol

open Python

variable {α : Type}

/-- `list_of(elem_type, delim=';')(s)`: `elem_type` applied to each field of `s.split(delim)`,
in order, the first exception propagating. -/
def listOf (elemType : List Char → Except PyError α) (delim : List Char := [';'])
    (s : List Char) : Except PyError (List α) := do
  let fields ← strSplit s delim
  fields.mapM elemType

/-- `a, b = xs`: unpacking a sequence into two names. -/
def unpackPair : List α → Except PyError (α × α)
  | [] => .error (.valueError (.notEnoughValuesToUnpack 2 0))
  | [_] => .error (.valueError (.notEnoughValuesToUnpack 2 1))
  | [a, b] => .ok (a, b)
  | _ :: _ :: _ :: _ => .error (.valueError (.tooManyValuesToUnpack 2))

/-- `str` leaves every field as it is. -/
theorem mapM_str (xs : List (List Char)) : xs.mapM str = .ok xs := by
  induction xs with
  | nil => rfl
  | cons x xs ih => simp only [List.mapM_cons, ih]; rfl

/-- `list_of(str, d)` returns the fields of the split. -/
theorem listOf_str {d : List Char} (hd : d ≠ []) (s : List Char) :
    listOf str d s = .ok (splitLoop ⟨d, hd⟩ s) := by
  simp only [listOf, strSplit_of_ne_nil hd]
  exact mapM_str _

/-- With the identity element parser, `list_of(str, d)` and `d.join` are mutually inverse:
the join of the fields is the text, there is one field more than `s.count(d)`, and for a
one-character delimiter a non-empty list of fields free of it is read back from its join. -/
theorem listOf_str_join_inverse :
    (∀ d s : List Char, d ≠ [] →
      ∃ xs, listOf str d s = .ok xs ∧ strJoin d xs = s ∧ xs.length = strCount s d + 1) ∧
    (∀ (c : Char) (xs : List (List Char)), xs ≠ [] → (∀ x ∈ xs, c ∉ x) →
      listOf str [c] (strJoin [c] xs) = .ok xs) := by
  refine ⟨fun d s hd => ⟨_, listOf_str hd s, strJoin_splitLoop ⟨d, hd⟩ s, ?_⟩,
    fun c xs hxs hc => ?_⟩
  · rw [length_splitLoop, strCount_of_ne_nil hd]
  · rw [listOf_str (List.cons_ne_nil c []), splitLoop_single, strJoin]
    exact congrArg _ (List.splitOn_intercalate xs c hc hxs)

/-- `list_of(str, ';')` reads back `a;b`. -/
theorem listOf_str_semicolon :
    listOf str [';'] (strJoin [';'] ["a".toList, "b".toList]) = .ok ["a".toList, "b".toList] :=
  listOf_str_join_inverse.2 ';' _ (by simp) (by decide)

/-- `list_of(str, d)` returns exactly the fields whose join with `d` is the text and where each
cut falls on the leftmost occurrence of `d` left; an empty `d` raises `ValueError`. -/
theorem listOf_str_eq_ok_iff (d s : List Char) (xs : List (List Char)) :
    (d = [] → listOf str d s = .error (.valueError .emptySeparator)) ∧
      (d ≠ [] → (listOf str d s = .ok xs ↔ strJoin d xs = s ∧ LeftmostFields d xs)) :=
  ⟨fun hd => by subst hd; rfl,
    fun hd => by rw [listOf_str hd, Except.ok.injEq]; exact splitLoop_eq_iff ⟨d, hd⟩ s xs⟩

/-- `list_of(str, '::')` cuts `a:::b` at its first `::`. -/
theorem listOf_str_double_colon :
    listOf str "::".toList "a:::b".toList = .ok ["a".toList, ":b".toList] :=
  ((listOf_str_eq_ok_iff _ _ _).2 (by decide)).mpr ⟨by decide, by decide⟩

/-- Unpacking three or more values into two names raises. -/
theorem unpackPair_of_length {xs : List α} (h : 3 ≤ xs.length) :
    unpackPair xs = .error (.valueError (.tooManyValuesToUnpack 2)) := by
  match xs, h with
  | _ :: _ :: _ :: _, _ => rfl

/-- Unpacking the split at a character that occurs twice or more raises. -/
theorem unpackPair_splitLoop_of_two_le_count {c : Char} {s : List Char} (h : 2 ≤ s.count c) :
    unpackPair (splitLoop ⟨[c], List.cons_ne_nil c []⟩ s) =
      .error (.valueError (.tooManyValuesToUnpack 2)) :=
  unpackPair_of_length (by rw [length_splitLoop, countLoop_single]; omega)

/-- Unpacking succeeds exactly on two values. -/
theorem unpackPair_eq_ok {xs : List α} {a b : α} :
    unpackPair xs = .ok (a, b) ↔ xs = [a, b] := by
  match xs with
  | [] | [_] | _ :: _ :: _ :: _ => simp [unpackPair]
  | [x, y] => simp [unpackPair]

/-- argparse's report of a value that the option's type function rejected, printed as
"argument --match-test: invalid _parse_test_version_tuple value: 'a:b:c'". -/
structure ArgumentError where
  option : String
  typeName : String
  value : List Char
  deriving DecidableEq, Repr

/-- The `append` action with a `type` function over the occurrences of one option, in
command-line order and apart from the other arguments: each text is converted and appended,
and the first rejected one ends parsing with an `ArgumentError`. -/
def appendArgs (option typeName : String) (type : List Char → Except PyError α) :
    List (List Char) → Except ArgumentError (List α)
  | [] => .ok []
  | v :: vs =>
    match type v with
    | .error _ => .error ⟨option, typeName, v⟩
    | .ok x => (appendArgs option typeName type vs).map (x :: ·)

/-- A collected list holds, in order, the conversion of each occurrence. -/
theorem appendArgs_eq_ok {option typeName : String}
    {type : List Char → Except PyError α} {vs : List (List Char)} {xs : List α}
    (h : appendArgs option typeName type vs = .ok xs) :
    List.Forall₂ (fun v x => type v = .ok x) vs xs := by
  induction vs generalizing xs with
  | nil => cases h; exact .nil
  | cons v vs ih =>
    unfold appendArgs at h
    split at h
    · cases h
    · next x hx =>
      cases hrest : appendArgs option typeName type vs with
      | error e => rw [hrest] at h; cases h
      | ok ys => rw [hrest] at h; cases h; exact .cons hx (ih hrest)

section TestVersion

variable (lim : IntMaxStrDigits)

/-- `_parse_test_version_tuple(value)`. -/
def parseTestVersionTuple (value : List Char) :
    Except PyError (List Char × Option ℤ) :=
  if strContains value [':'] then do
    let (test, version) ← unpackPair (← strSplit value [':'])
    return (test, some (← intOfStr lim version))
  else .ok (value, none)

/-- A value without `:` is a test name with no version. -/
theorem parseTestVersionTuple_of_not_mem {value : List Char}
    (h : ':' ∉ value) : parseTestVersionTuple lim value = .ok (value, none) := by
  rw [parseTestVersionTuple, if_neg (by rwa [strContains_singleton])]

/-- A value with one `:` is its test name paired with `int()` of the text after the colon. -/
theorem parseTestVersionTuple_colon {t v : List Char} (ht : ':' ∉ t)
    (hv : ':' ∉ v) :
    parseTestVersionTuple lim (t ++ ':' :: v) = (intOfStr lim v).map fun n => (t, some n) := by
  rw [parseTestVersionTuple, if_pos ((strContains_singleton _ _).mpr (by simp)),
    strSplit_of_ne_nil (List.cons_ne_nil ':' []), splitLoop_single_append ht hv]
  simp only [bind, Except.bind, unpackPair]
  cases intOfStr lim v <;> rfl

/-- The `test:version` text of a test name and of a version `str` writes is read back. -/
theorem parseTestVersionTuple_format {t s : List Char} {n : ℤ}
    (ht : ':' ∉ t) (hs : strOfInt lim n = .ok s) :
    parseTestVersionTuple lim (t ++ ':' :: s) = .ok (t, some n) := by
  have hcolon : ':' ∉ s := fun hc => by
    rcases strOfInt_chars lim n hs ':' hc with h | h
    · exact absurd h (by decide)
    · exact absurd h (by decide)
  rw [parseTestVersionTuple_colon lim ht hcolon, intOfStr_strOfInt lim n hs]
  rfl

/-- A value with two or more `:` raises `ValueError` when unpacked. -/
theorem parseTestVersionTuple_of_two_le_count {value : List Char}
    (h : 2 ≤ value.count ':') :
    parseTestVersionTuple lim value = .error (.valueError (.tooManyValuesToUnpack 2)) := by
  have hmem : ':' ∈ value := List.count_pos_iff.mp (by omega)
  rw [parseTestVersionTuple, if_pos ((strContains_singleton _ _).mpr hmem),
    strSplit_of_ne_nil (List.cons_ne_nil ':' [])]
  simp only [bind, Except.bind, unpackPair_splitLoop_of_two_le_count h]

/-- `_parse_test_version_tuple` inverts the `test:version` form: the text of a name without
`:` and of any version `str` writes is read back as that pair, a text without `:` is a name
with no version, and a text with two or more `:` raises `ValueError`. -/
theorem parseTestVersionTuple_inverse :
    (∀ (t : List Char) (n : ℤ) (s : List Char), ':' ∉ t → strOfInt lim n = .ok s →
      parseTestVersionTuple lim (t ++ ':' :: s) = .ok (t, some n)) ∧
    (∀ value : List Char, ':' ∉ value → parseTestVersionTuple lim value = .ok (value, none)) ∧
    (∀ value : List Char, 2 ≤ value.count ':' →
      parseTestVersionTuple lim value = .error (.valueError (.tooManyValuesToUnpack 2))) :=
  ⟨fun _ _ _ ht hs => parseTestVersionTuple_format lim ht hs,
    fun _ h => parseTestVersionTuple_of_not_mem lim h,
    fun _ h => parseTestVersionTuple_of_two_le_count lim h⟩

/-- A parsed test name never contains `:`, and a version is present exactly when the value
contains `:`. -/
theorem parseTestVersionTuple_ok {value t : List Char}
    {version : Option ℤ} (h : parseTestVersionTuple lim value = .ok (t, version)) :
    ':' ∉ t ∧ (version = none ↔ ':' ∉ value) := by
  unfold parseTestVersionTuple at h
  split at h
  · next hc =>
    rw [strSplit_of_ne_nil (List.cons_ne_nil ':' [])] at h
    simp only [bind, Except.bind] at h
    split at h
    · cases h
    · next r hr =>
      obtain ⟨test, version'⟩ := r
      rw [unpackPair_eq_ok] at hr
      split at h
      · cases h
      · cases h
        have hfield := splitLoop_fields _ value test (by rw [hr]; simp)
        exact ⟨fun ht => hfield (singleton_infix_of_mem ht),
          by simpa using (strContains_singleton _ _).mp hc⟩
  · next hc =>
    cases h
    have hv : ':' ∉ value := fun hv => hc ((strContains_singleton _ _).mpr hv)
    exact ⟨hv, iff_of_true rfl hv⟩

/-- `Foo.test:0` is read back under CPython's default digit limit. -/
theorem parseTestVersionTuple_foo_zero :
    parseTestVersionTuple IntMaxStrDigits.default ("Foo.test".toList ++ ':' :: ['0']) =
      .ok ("Foo.test".toList, some 0) :=
  (parseTestVersionTuple_inverse IntMaxStrDigits.default).1 _ 0 ['0'] (by decide) (by
    simp [strOfInt, decimalDigits, IntMaxStrDigits.exceeds, IntMaxStrDigits.default])

/-- `Except.map` succeeds exactly when the mapped computation does. -/
theorem map_eq_ok_iff {ε α β : Type} (x : Except ε α) (f : α → β) (b : β) :
    x.map f = .ok b ↔ ∃ a, x = .ok a ∧ f a = b := by
  cases x <;> simp [Except.map]

/-- `Except.map` passes an error through. -/
theorem map_eq_error_iff {ε α β : Type} (x : Except ε α) (f : α → β) (e : ε) :
    x.map f = .error e ↔ x = .error e := by
  cases x <;> simp [Except.map]

/-- The version of a `test:version` value with one colon is read by `int()`: the value is
accepted exactly when the text after the colon is a decimal literal within the digit limit,
and then reads as the test name and the number the literal denotes; otherwise the error is an
invalid literal naming that text, or the digit limit. -/
theorem parseTestVersionTuple_version {t v : List Char} (ht : ':' ∉ t)
    (hv : ':' ∉ v) :
    (∀ r, parseTestVersionTuple lim (t ++ ':' :: v) = .ok r ↔
      ∃ lit : DecimalLiteral, transformToASCII v = lit.text ∧
        lim.exceeds lit.digits.length = false ∧ r = (t, some lit.value)) ∧
    (∀ e, parseTestVersionTuple lim (t ++ ':' :: v) = .error e →
      e = .valueError (.invalidLiteral 10 v) ∨
        ∃ digits, lim.exceeds digits = true ∧ e = .valueError (.intExceedsLimit lim.val digits)) := by
  rw [parseTestVersionTuple_colon lim ht hv]
  refine ⟨fun r => ?_, fun e h => intOfStr_eq_error ((map_eq_error_iff _ _ e).mp h)⟩
  rw [map_eq_ok_iff]
  constructor
  · rintro ⟨n, hn, rfl⟩
    obtain ⟨lit, htext, hlim, rfl⟩ := (intOfStr_eq_ok_iff lim v n).mp hn
    exact ⟨lit, htext, hlim, rfl⟩
  · rintro ⟨lit, htext, hlim, rfl⟩
    exact ⟨lit.value, intOfStr_literal lim lit htext hlim, rfl⟩

/-- `t:５` is test `t` at version 5: `int()` reads the fullwidth digit as `5`. -/
theorem parseTestVersionTuple_fullwidth_digit :
    parseTestVersionTuple IntMaxStrDigits.default ("t".toList ++ ':' :: "５".toList) =
      .ok ("t".toList, some 5) :=
  ((parseTestVersionTuple_version _ (by decide) (by decide)).1 _).mpr
    ⟨⟨[], [], ['5'], [], by decide, by decide, by decide, ⟨'5', rfl, rfl⟩, ⟨'5', rfl, rfl⟩,
      by decide, by decide⟩, by decide, by decide, by decide⟩

/-- The tests that `--match-test` collects: one entry per occurrence, in order, each the
parse of its occurrence, with a test name free of `:` and a version exactly when the
occurrence contains `:`. -/
theorem matchTest_entries (occurrences : List (List Char))
    (tests : List (List Char × Option ℤ))
    (h : appendArgs "--match-test" "_parse_test_version_tuple" (parseTestVersionTuple lim)
      occurrences = .ok tests) :
    List.Forall₂ (fun v e => parseTestVersionTuple lim v = .ok e ∧ ':' ∉ e.1 ∧
      (e.2 = none ↔ ':' ∉ v)) occurrences tests :=
  (appendArgs_eq_ok h).imp fun _ _ hv => ⟨hv, parseTestVersionTuple_ok lim hv⟩

/-- Two occurrences of `--match-test`, one with a version. -/
theorem matchTest_entries_two :
    List.Forall₂ (fun v e => parseTestVersionTuple IntMaxStrDigits.default v = .ok e ∧
        ':' ∉ e.1 ∧ (e.2 = none ↔ ':' ∉ v))
      ["A.t()".toList, "B.u():0".toList] [("A.t()".toList, none), ("B.u()".toList, some 0)] :=
  matchTest_entries IntMaxStrDigits.default _ _ (by
    simp [appendArgs, parseTestVersionTuple, strContains, strFind, splitLoop, unpackPair, bind,
      Except.bind]
    rfl)

end TestVersion

/-- `contract_name, _ = test_id.split('.')` in `ViewKCFGCommand.exec`. -/
def viewKCFGContractName (testId : List Char) : Except PyError (List Char) := do
  let (contractName, _) ← unpackPair (← strSplit testId ['.'])
  return contractName

/-- `view-kcfg` reads the contract name as the text before the one `.` of the test id, and
raises `ValueError` on a test id without `.` or with more than one. -/
theorem viewKCFGContractName_spec (testId : List Char) :
    (∀ c r, '.' ∉ c → '.' ∉ r → testId = c ++ '.' :: r → viewKCFGContractName testId = .ok c) ∧
    ('.' ∉ testId →
      viewKCFGContractName testId = .error (.valueError (.notEnoughValuesToUnpack 2 1))) ∧
    (2 ≤ testId.count '.' →
      viewKCFGContractName testId = .error (.valueError (.tooManyValuesToUnpack 2))) := by
  have hsplit : strSplit testId ['.'] = .ok (splitLoop ⟨['.'], List.cons_ne_nil '.' []⟩ testId) :=
    strSplit_of_ne_nil (List.cons_ne_nil '.' [])
  refine ⟨fun c r hc hr ht => ?_, fun h => ?_, fun h => ?_⟩
  · subst ht
    simp only [viewKCFGContractName, hsplit, splitLoop_single_append hc hr]
    rfl
  · simp only [viewKCFGContractName, hsplit, splitLoop_single_of_not_mem h]
    rfl
  · simp only [viewKCFGContractName, hsplit, bind, Except.bind,
      unpackPair_splitLoop_of_two_le_count h]

/-- The contract name of a test id as Foundry writes it. -/
theorem viewKCFGContractName_test_id :
    viewKCFGContractName ("AssertTest".toList ++ '.' :: "test_assert_true():0".toList) =
      .ok "AssertTest".toList :=
  (viewKCFGContractName_spec _).1 _ _ (by decide) (by decide) rfl

/-- A Python `dict` with `str` keys: its entries in insertion order, each key once. -/
structure PyDict (α : Type) where
  entries : List (String × α)
  nodup : (entries.map Prod.fst).Nodup

/-- `d[key]` when `key in d`. -/
def PyDict.get (d : PyDict α) (key : String) : Option α := d.entries.lookup key

/-- `d.pop(key)`, once `key in d` is known. -/
def PyDict.pop (d : PyDict α) (key : String) : PyDict α where
  entries := d.entries.filter (·.1 != key)
  nodup := d.nodup.sublist ((List.filter_sublist _).map _)

/-- `_ignore_arg(args, arg, cli_option)`: drops `arg` from the parsed arguments, with the
warning "Ignoring command-line option: ..." when its value was not `None`. -/
def ignoreArg (args : PyDict (Option α)) (arg cliOption : String) :
    PyDict (Option α) × Option String :=
  match args.get arg with
  | some (some _) => (args.pop arg, some ("Ignoring command-line option: " ++ cliOption))
  | some none => (args.pop arg, none)
  | none => (args, none)

end Kontrol
