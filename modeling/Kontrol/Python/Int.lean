import Kontrol.Python.Str
import Mathlib.Data.Nat.Digits

/-!
# CPython's conversions between `int` and decimal text

`str(n)` writes the decimal digits of `|n|`, most significant first, after a `-` when `n` is
negative. `int(text)` is `PyLong_FromUnicodeObject` with base 10: non-ASCII whitespace becomes
a blank, then `PyLong_FromString` skips leading blanks, reads an optional sign and a run of
digits in which single underscores may separate digits, skips trailing blanks and must reach
the end of the text. Both directions refuse a number with more digits than
`sys.get_int_max_str_digits()` allows, unless that limit is `0`. Non-ASCII decimal digits
become ASCII digits before the parse.

A `DecimalLiteral` is such a text given in its parts, each part carrying what the grammar asks
of it. `int()` accepts exactly the literals within the limit and reads each as the number it
denotes, and `str(n)` writes a literal that denotes `n`.

Decimal digits outside ASCII are those of the Unicode 15.0 database, as in CPython 3.12, and
the literal grammar is stated over the text after they become ASCII digits.
-/

namespace Kontrol.Python

/-- `sys.get_int_max_str_digits()`: `0` turns the limit off, and `sys.set_int_max_str_digits`
refuses any other value under the 640-digit threshold, so the threshold test CPython makes
first is implied by `valid`. -/
structure IntMaxStrDigits where
  val : ℕ
  valid : val = 0 ∨ 640 ≤ val

/-- The limit CPython starts with. -/
def IntMaxStrDigits.default : IntMaxStrDigits := ⟨4300, Or.inr (by decide)⟩

/-- Whether a number written with `digits` decimal digits is refused. -/
def IntMaxStrDigits.exceeds (lim : IntMaxStrDigits) (digits : ℕ) : Bool :=
  lim.val != 0 && lim.val < digits

/-- The decimal digits of `n`, most significant first; zero is written `0`. -/
def decimalDigits (n : ℕ) : List Char :=
  if n = 0 then ['0'] else ((Nat.digits 10 n).map Nat.digitChar).reverse

/-- `str(n)` for an `int`. -/
def strOfInt (lim : IntMaxStrDigits) (n : ℤ) : Except PyError (List Char) :=
  if lim.exceeds (decimalDigits n.natAbs).length then .error (.valueError (.strExceedsLimit lim.val))
  else .ok ((if n < 0 then ['-'] else []) ++ decimalDigits n.natAbs)

/-- `Py_ISSPACE`: the C-locale blanks `PyLong_FromString` skips. -/
def isAsciiSpace (c : Char) : Bool := c = ' ' || (0x09 ≤ c.toNat && c.toNat ≤ 0x0D)

/-- The code point of the digit zero of each run of ten decimal digits (general category `Nd`)
in the Unicode 15.0 database of CPython 3.12. -/
def decimalDigitZeros : List ℕ :=
  [0x30, 0x660, 0x6F0, 0x7C0, 0x966, 0x9E6, 0xA66, 0xAE6, 0xB66, 0xBE6, 0xC66, 0xCE6, 0xD66,
    0xDE6, 0xE50, 0xED0, 0xF20, 0x1040, 0x1090, 0x17E0, 0x1810, 0x1946, 0x19D0, 0x1A80, 0x1A90,
    0x1B50, 0x1BB0, 0x1C40, 0x1C50, 0xA620, 0xA8D0, 0xA900, 0xA9D0, 0xA9F0, 0xAA50, 0xABF0,
    0xFF10, 0x104A0, 0x10D30, 0x11066, 0x110F0, 0x11136, 0x111D0, 0x112F0, 0x11450, 0x114D0,
    0x11650, 0x116C0, 0x11730, 0x118E0, 0x11950, 0x11C50, 0x11D50, 0x11DA0, 0x11F50, 0x16A60,
    0x16AC0, 0x16B50, 0x1D7CE, 0x1D7D8, 0x1D7E2, 0x1D7EC, 0x1D7F6, 0x1E140, 0x1E2F0, 0x1E4F0,
    0x1E950, 0x1FBF0]

/-- `Py_UNICODE_TODECIMAL`: the value of a decimal digit, `none` for any other character. -/
def toDecimal (c : Char) : Option ℕ :=
  (decimalDigitZeros.find? fun z => z ≤ c.toNat && c.toNat < z + 10).map (c.toNat - ·)

/-- The loop of `_PyUnicode_TransformDecimalAndSpaceToASCII`: a character below 127 is kept,
other whitespace becomes a blank, another decimal digit becomes `'0' + decimal`, and any other
character ends the text with `?`. -/
def transformToASCIILoop : List Char → List Char
  | [] => []
  | c :: s =>
    if c.toNat < 127 then c :: transformToASCIILoop s
    else if isSpace c then ' ' :: transformToASCIILoop s
    else match toDecimal c with
      | some d => Char.ofNat (48 + d) :: transformToASCIILoop s
      | none => ['?']

/-- `_PyUnicode_TransformDecimalAndSpaceToASCII`: an ASCII text is returned as it is, any other
text goes through the loop. -/
def transformToASCII (s : List Char) : List Char :=
  if s.all fun c => c.toNat < 128 then s else transformToASCIILoop s

/-- A character whose `_PyLong_DigitValue` is below 10. -/
def isDecimalDigit (c : Char) : Bool := 48 ≤ c.toNat && c.toNat ≤ 57

/-- The value of a decimal digit. -/
def digitValue (c : Char) : ℕ := c.toNat - 48

/-- The validating loop of `long_from_string_base` for base 10. It reads digits and
underscores, counts the digits and accumulates their value, and fails on a doubled
underscore; it returns whether the last character read was an underscore, the digit count,
the value and the unread rest. -/
def digitLoop (prevUnderscore : Bool) (digits value : ℕ) :
    List Char → Option (Bool × ℕ × ℕ × List Char)
  | [] => some (prevUnderscore, digits, value, [])
  | c :: s =>
    if c = '_' then
      if prevUnderscore then none else digitLoop true digits value s
    else if isDecimalDigit c then digitLoop false (digits + 1) (value * 10 + digitValue c) s
    else some (prevUnderscore, digits, value, c :: s)

/-- The optional sign `PyLong_FromString` reads: whether it was `-`, and the rest. -/
def readSign : List Char → Bool × List Char
  | [] => (false, [])
  | c :: s => if c = '+' then (false, s) else if c = '-' then (true, s) else (false, c :: s)

/-- `int(text)`. A leading or trailing underscore, an empty digit run or anything but blanks
after it is an invalid literal; the error names the text as given. -/
def intOfStr (lim : IntMaxStrDigits) (text : List Char) : Except PyError ℤ :=
  let invalid : Except PyError ℤ := .error (.valueError (.invalidLiteral 10 text))
  let (negative, s) := readSign ((transformToASCII text).dropWhile isAsciiSpace)
  if s.head? = some '_' then invalid
  else match digitLoop false 0 0 s with
    | none => invalid
    | some (trailingUnderscore, digits, value, rest) =>
      if trailingUnderscore || digits == 0 || !(rest.dropWhile isAsciiSpace).isEmpty then invalid
      else if lim.exceeds digits then .error (.valueError (.intExceedsLimit lim.val digits))
      else .ok (if negative then -(value : ℤ) else value)

/-- The condition of the scanning loop in `long_from_string_base`:
`_PyLong_DigitValue[c] < base || c == '_'`. -/
def isDigitOrUnderscore (c : Char) : Bool := isDecimalDigit c || c = '_'

/-- A text `int()` accepts in base 10, in its parts: blanks, an optional sign, a run of digits
in which single underscores may stand between two digits, and blanks. -/
structure DecimalLiteral where
  lead : List Char
  sign : List Char
  run : List Char
  trail : List Char
  lead_blank : ∀ c ∈ lead, isAsciiSpace c = true
  sign_cases : sign = [] ∨ sign = ['+'] ∨ sign = ['-']
  run_chars : ∀ c ∈ run, isDigitOrUnderscore c = true
  run_head : ∃ c, run.head? = some c ∧ isDecimalDigit c = true
  run_last : ∃ c, run.getLast? = some c ∧ isDecimalDigit c = true
  run_single : ¬ ['_', '_'] <:+: run
  trail_blank : ∀ c ∈ trail, isAsciiSpace c = true

/-- The text of a literal. -/
def DecimalLiteral.text (lit : DecimalLiteral) : List Char :=
  lit.lead ++ lit.sign ++ lit.run ++ lit.trail

/-- The digits of a literal, underscores left out. -/
def DecimalLiteral.digits (lit : DecimalLiteral) : List Char := lit.run.filter isDecimalDigit

/-- The number a literal denotes. -/
def DecimalLiteral.value (lit : DecimalLiteral) : ℤ :=
  let n := lit.digits.foldl (fun a c => a * 10 + digitValue c) 0
  if lit.sign = ['-'] then -(n : ℤ) else n

/-- The character `str` writes for a digit reads back as that digit. -/
theorem digitValue_digitChar {d : ℕ} (h : d < 10) : digitValue (Nat.digitChar d) = d := by
  interval_cases d <;> rfl

/-- The character `str` writes for a digit is a decimal digit. -/
theorem isDecimalDigit_digitChar {d : ℕ} (h : d < 10) : isDecimalDigit (Nat.digitChar d) = true := by
  interval_cases d <;> rfl

/-- A digit is ASCII, not a blank, and neither an underscore nor a sign. -/
theorem isDecimalDigit_facts {c : Char} (h : isDecimalDigit c = true) :
    c.toNat < 127 ∧ isAsciiSpace c = false ∧ c ≠ '_' ∧ c ≠ '+' ∧ c ≠ '-' := by
  simp only [isDecimalDigit, Bool.and_eq_true, decide_eq_true_eq] at h
  refine ⟨by omega, ?_, ?_, ?_, ?_⟩
  · have hsp : c ≠ ' ' := by rintro rfl; exact absurd h (by decide)
    simp [isAsciiSpace, hsp]
    omega
  all_goals rintro rfl; exact absurd h (by decide)

/-- `str` writes only decimal digits. -/
theorem decimalDigits_isDecimalDigit (n : ℕ) : ∀ c ∈ decimalDigits n, isDecimalDigit c = true := by
  unfold decimalDigits
  split
  · simp only [List.mem_singleton, forall_eq]; decide
  · intro c hc
    simp only [List.mem_reverse, List.mem_map] at hc
    obtain ⟨d, hd, rfl⟩ := hc
    exact isDecimalDigit_digitChar (Nat.digits_lt_base (by norm_num) hd)

/-- `str` writes at least one digit. -/
theorem decimalDigits_ne_nil (n : ℕ) : decimalDigits n ≠ [] := by
  unfold decimalDigits
  split
  · simp
  · simpa [Nat.digits_ne_nil_iff_ne_zero]

/-- Reading digits below 10, least significant first, through their characters gives the
number they spell. -/
theorem foldr_digitChar (L : List ℕ) (hL : ∀ d ∈ L, d < 10) :
    L.foldr (fun d a => a * 10 + digitValue (Nat.digitChar d)) 0 = Nat.ofDigits 10 L := by
  induction L with
  | nil => rfl
  | cons d L ih =>
    rw [List.foldr_cons, ih fun x hx => hL x (List.mem_cons_of_mem d hx), Nat.ofDigits_cons,
      digitValue_digitChar (hL d (List.mem_cons_self d L))]
    omega

/-- Reading the digits `str` writes, most significant first, gives the number back. -/
theorem foldl_decimalDigits (n : ℕ) :
    (decimalDigits n).foldl (fun a c => a * 10 + digitValue c) 0 = n := by
  unfold decimalDigits
  split
  · subst n; rfl
  · rw [List.foldl_reverse, List.foldr_map,
      foldr_digitChar _ fun d hd => Nat.digits_lt_base (by norm_num) hd, Nat.ofDigits_digits]

/-- A text below code point 127 is kept as it is. -/
theorem transformToASCII_of_lt {s : List Char} (h : ∀ c ∈ s, c.toNat < 127) :
    transformToASCII s = s :=
  if_pos (List.all_eq_true.mpr fun c hc => decide_eq_true (by have := h c hc; omega))

theorem getLast?_getD_eq_underscore {c : Char} (hc : c ≠ '_') (l : List Char) :
    l.getLast?.getD c = '_' ↔ l.getLast? = some '_' := by
  cases l.getLast? <;> simp [hc]

/-- The digit loop reads a run of digits and underscores up to the first other character. It
fails when an underscore follows another, an underscore read before the run counting when
`prevUnderscore` is set, and otherwise returns whether the last character read was an
underscore, the number and value of the digits read, and the rest. -/
theorem digitLoop_append (p : Bool) (k v : ℕ) (run rest : List Char)
    (hrun : ∀ c ∈ run, isDigitOrUnderscore c = true)
    (hrest : ∀ c ∈ rest.head?, isDigitOrUnderscore c = false) :
    digitLoop p k v (run ++ rest) =
      if ['_', '_'] <:+: (if p then '_' :: run else run) then none
      else some (decide (((if p then ['_'] else []) ++ run).getLast? = some '_'),
        k + (run.filter isDecimalDigit).length,
        (run.filter isDecimalDigit).foldl (fun a c => a * 10 + digitValue c) v, rest) := by
  induction run generalizing p k v with
  | nil =>
    have hshort : ¬ ['_', '_'] <:+: ['_'] := fun h => absurd h.length_le (by simp)
    cases rest with
    | nil => cases p <;> simp [digitLoop, hshort]
    | cons c r =>
      have hc : isDecimalDigit c = false ∧ c ≠ '_' := by
        simpa [isDigitOrUnderscore] using hrest
      cases p <;> simp [digitLoop, hc, hshort]
  | cons c run ih =>
    have hrun' := fun x hx => hrun x (List.mem_cons_of_mem c hx)
    rcases Bool.or_eq_true _ _ |>.mp (hrun c (List.mem_cons_self c run)) with hd | hu
    · have hc := (isDecimalDigit_facts hd).2.2.1
      rw [List.cons_append, digitLoop, if_neg hc, if_pos hd, ih false _ _ hrun']
      cases p <;> simp [List.infix_cons_iff, List.cons_prefix_cons, Ne.symm hc, hd, hc, List.getLast?_cons,
        getLast?_getD_eq_underscore hc, Nat.add_assoc, Nat.add_comm 1]
    · obtain rfl : c = '_' := of_decide_eq_true hu
      rw [List.cons_append, digitLoop, if_pos rfl]
      cases p
      · simp [ih true _ _ hrun', isDecimalDigit]
      · simp [List.infix_cons_iff, List.cons_prefix_cons]

/-- The sign `readSign` takes off is empty, `+` or `-`. -/
theorem readSign_eq {t s : List Char} {negative : Bool} (h : readSign t = (negative, s)) :
    ∃ sign, (sign = [] ∨ sign = ['+'] ∨ sign = ['-']) ∧ t = sign ++ s ∧
      negative = decide (sign = ['-']) := by
  match t with
  | [] => cases h; exact ⟨[], .inl rfl, rfl, rfl⟩
  | c :: t =>
    by_cases hplus : c = '+'
    · rw [readSign, if_pos hplus] at h
      cases h
      exact ⟨['+'], .inr (.inl rfl), by rw [hplus]; rfl, by decide⟩
    · by_cases hminus : c = '-'
      · rw [readSign, if_neg hplus, if_pos hminus] at h
        cases h
        exact ⟨['-'], .inr (.inr rfl), by rw [hminus]; rfl, by decide⟩
      · rw [readSign, if_neg hplus, if_neg hminus] at h
        cases h
        exact ⟨[], .inl rfl, rfl, rfl⟩

/-- Before a digit, `readSign` takes off exactly the sign written. -/
theorem readSign_append {sign s : List Char} (hsign : sign = [] ∨ sign = ['+'] ∨ sign = ['-'])
    (hs : ∃ c, s.head? = some c ∧ isDecimalDigit c = true) :
    readSign (sign ++ s) = (decide (sign = ['-']), s) := by
  obtain ⟨c, hc, hd⟩ := hs
  obtain ⟨-, -, -, hplus, hminus⟩ := isDecimalDigit_facts hd
  rw [List.eq_cons_of_mem_head? hc]
  rcases hsign with rfl | rfl | rfl <;> simp [readSign, hplus, hminus]

/-- A blank is neither a digit nor an underscore. -/
theorem isDigitOrUnderscore_of_blank {c : Char} (h : isAsciiSpace c = true) :
    isDigitOrUnderscore c = false := by
  cases hd : isDecimalDigit c
  · simp only [isDigitOrUnderscore, hd, Bool.false_or, decide_eq_false_iff_not]
    rintro rfl
    exact absurd h (by decide)
  · exact absurd h (by simp [(isDecimalDigit_facts hd).2.1])

/-- What `dropWhile` leaves starts with a character the predicate rejects. -/
theorem head?_dropWhile_false (p : Char → Bool) (l : List Char) :
    ∀ c ∈ (l.dropWhile p).head?, p c = false := fun c hc => by
  have h := List.head?_dropWhile_not p l
  rwa [Option.mem_def.mp hc] at h

/-- A digit or an underscore other than an underscore is a digit. -/
theorem isDecimalDigit_of_ne_underscore {c : Char} (h : isDigitOrUnderscore c = true)
    (hc : c ≠ '_') : isDecimalDigit c = true := by
  simpa [isDigitOrUnderscore, hc] using h

/-- `dropWhile` keeps a list whose first element the predicate rejects. -/
theorem dropWhile_of_head {p : Char → Bool} {l : List Char} (h : ∀ c ∈ l.head?, p c = false) :
    l.dropWhile p = l := by
  cases l with
  | nil => rfl
  | cons c l => exact List.dropWhile_cons_of_neg (by simpa using h)

/-- Leading blanks end where a literal's sign or first digit starts. -/
theorem dropWhile_lead (lit : DecimalLiteral) :
    lit.text.dropWhile isAsciiSpace = lit.sign ++ lit.run ++ lit.trail := by
  obtain ⟨c, hc, hd⟩ := lit.run_head
  have hblank := (isDecimalDigit_facts hd).2.1
  rw [DecimalLiteral.text, List.append_assoc, List.append_assoc,
    List.dropWhile_append_of_pos lit.lead_blank, ← List.append_assoc]
  refine dropWhile_of_head ?_
  rcases lit.sign_cases with h | h | h <;> simp [h, hc, hblank] <;> rfl

/-- `int()` reads every literal within the digit limit as the number it denotes. -/
theorem intOfStr_literal (lim : IntMaxStrDigits) (lit : DecimalLiteral) {text : List Char}
    (htext : transformToASCII text = lit.text) (hlim : lim.exceeds lit.digits.length = false) :
    intOfStr lim text = .ok lit.value := by
  obtain ⟨c, hc, hd⟩ := lit.run_head
  obtain ⟨c', hc', hd'⟩ := lit.run_last
  have hstart : ∃ c, (lit.run ++ lit.trail).head? = some c ∧ isDecimalDigit c = true :=
    ⟨c, by simp [List.head?_append, hc], hd⟩
  have hloop := digitLoop_append false 0 0 lit.run lit.trail lit.run_chars fun x hx =>
    isDigitOrUnderscore_of_blank (lit.trail_blank x (List.mem_of_mem_head? hx))
  have hdigit : ¬ ∀ a ∈ lit.run, isDecimalDigit a = false := fun h =>
    absurd (h c (List.mem_of_mem_head? hc)) (by simp [hd])
  unfold intOfStr
  rw [htext, dropWhile_lead, List.append_assoc, readSign_append lit.sign_cases hstart]
  have hlast : c' ≠ '_' := (isDecimalDigit_facts hd').2.2.1
  simp [hloop, lit.run_single, hc', hlast, List.head?_append, hc, (isDecimalDigit_facts hd).2.2.1,
    List.dropWhile_eq_nil_iff.mpr lit.trail_blank, hdigit]
  rw [if_neg (by simpa [DecimalLiteral.digits] using hlim)]
  rfl

/-- Every text `int()` accepts is a literal, read as the number it denotes. -/
theorem intOfStr_eq_ok {lim : IntMaxStrDigits} {text : List Char} {n : ℤ}
    (h : intOfStr lim text = .ok n) :
    ∃ lit : DecimalLiteral, transformToASCII text = lit.text ∧
      lim.exceeds lit.digits.length = false ∧ lit.value = n := by
  unfold intOfStr at h
  generalize hrs : readSign ((transformToASCII text).dropWhile isAsciiSpace) = r at h
  obtain ⟨negative, s⟩ := r
  obtain ⟨sign, hsign, hs, rfl⟩ := readSign_eq hrs
  obtain ⟨run, rest, rfl, hrun, hrest⟩ : ∃ run rest, s = run ++ rest ∧
      (∀ c ∈ run, isDigitOrUnderscore c = true) ∧ ∀ c ∈ rest.head?, isDigitOrUnderscore c = false :=
    ⟨_, _, (List.takeWhile_append_dropWhile _ s).symm, fun c hc => List.mem_takeWhile_imp hc,
      head?_dropWhile_false _ s⟩
  dsimp only at h
  rw [digitLoop_append false 0 0 _ _ hrun hrest] at h
  simp only [Bool.false_eq_true, ↓reduceIte, List.nil_append] at h
  by_cases hhead : (run ++ rest).head? = some '_'
  · simp [hhead] at h
  by_cases hsingle : ['_', '_'] <:+: run
  · simp [hhead, hsingle] at h
  simp only [hhead, hsingle, if_false] at h
  split at h
  · cases h
  next hcond =>
  split at h
  · cases h
  next hlim =>
  injection h with h
  simp only [Bool.or_eq_true, decide_eq_true_eq, beq_iff_eq, Bool.not_eq_true',
    List.isEmpty_eq_false, not_or, not_not, Nat.zero_add] at hcond
  obtain ⟨⟨hlast, hlen⟩, hblank⟩ := hcond
  obtain ⟨c, r, rfl⟩ := List.exists_cons_of_ne_nil (show run ≠ [] by rintro rfl; simp at hlen)
  obtain ⟨c', hc'⟩ : ∃ c', (c :: r).getLast? = some c' := ⟨_, List.getLast?_eq_getLast _ (by simp)⟩
  refine ⟨⟨(transformToASCII text).takeWhile isAsciiSpace, sign, c :: r, rest,
    fun x hx => List.mem_takeWhile_imp hx, hsign, hrun,
    ⟨c, rfl, isDecimalDigit_of_ne_underscore (hrun c (List.mem_cons_self c r)) (by simpa using hhead)⟩,
    ⟨c', hc', isDecimalDigit_of_ne_underscore (hrun c' (List.mem_of_getLast?_eq_some hc'))
      fun h => hlast (h ▸ hc')⟩,
    hsingle, List.dropWhile_eq_nil_iff.mp hblank⟩, ?_, by simpa [DecimalLiteral.digits] using hlim, ?_⟩
  · exact (List.takeWhile_append_dropWhile _ _).symm.trans (by rw [hs]; simp [DecimalLiteral.text])
  · rw [← h, DecimalLiteral.value, DecimalLiteral.digits]
    simp

/-- `int()` accepts exactly the literals within the digit limit, and reads each as the number
it denotes. -/
theorem intOfStr_eq_ok_iff (lim : IntMaxStrDigits) (text : List Char) (n : ℤ) :
    intOfStr lim text = .ok n ↔ ∃ lit : DecimalLiteral, transformToASCII text = lit.text ∧
      lim.exceeds lit.digits.length = false ∧ lit.value = n :=
  ⟨intOfStr_eq_ok, fun ⟨lit, htext, hlim, hn⟩ => hn ▸ intOfStr_literal lim lit htext hlim⟩

example : intOfStr IntMaxStrDigits.default " -1_000 ".toList = .ok (-1000) := by rfl

/-- `int()` raises only an invalid literal naming the text as given, or the digit limit. -/
theorem intOfStr_eq_error {lim : IntMaxStrDigits} {text : List Char} {e : PyError}
    (h : intOfStr lim text = .error e) :
    e = .valueError (.invalidLiteral 10 text) ∨
      ∃ digits, lim.exceeds digits = true ∧ e = .valueError (.intExceedsLimit lim.val digits) := by
  unfold intOfStr at h
  dsimp only at h
  split at h
  · injection h with h; exact .inl h.symm
  split at h
  · injection h with h; exact .inl h.symm
  split at h
  · injection h with h; exact .inl h.symm
  split at h
  · next hlim => injection h with h; exact .inr ⟨_, hlim, h.symm⟩
  · cases h

/-- The literal `str(n)` writes: a `-` for a negative number, then the decimal digits of `|n|`. -/
def DecimalLiteral.ofInt (n : ℤ) : DecimalLiteral where
  lead := []
  sign := if n < 0 then ['-'] else []
  run := decimalDigits n.natAbs
  trail := []
  lead_blank := by simp
  sign_cases := by split <;> simp
  run_chars := fun c hc => by simp [isDigitOrUnderscore, decimalDigits_isDecimalDigit _ c hc]
  run_head := ⟨_, List.head?_eq_head (decimalDigits_ne_nil _),
    decimalDigits_isDecimalDigit _ _ (List.head_mem _)⟩
  run_last := ⟨_, List.getLast?_eq_getLast _ (decimalDigits_ne_nil _),
    decimalDigits_isDecimalDigit _ _ (List.getLast_mem _)⟩
  run_single := fun hi =>
    absurd (decimalDigits_isDecimalDigit _ '_' (hi.subset (List.mem_cons_self _ _))) (by decide)
  trail_blank := by simp

theorem DecimalLiteral.digits_ofInt (n : ℤ) : (ofInt n).digits = decimalDigits n.natAbs :=
  List.filter_eq_self.mpr (decimalDigits_isDecimalDigit n.natAbs)

/-- The literal `str(n)` writes denotes `n`. -/
theorem DecimalLiteral.value_ofInt (n : ℤ) : (ofInt n).value = n := by
  simp only [value, digits_ofInt, foldl_decimalDigits]
  by_cases hn : n < 0
  · simp [ofInt, hn, abs_of_neg hn]
  · simp [ofInt, hn, abs_of_nonneg (not_lt.mp hn)]

/-- `int(str(n)) == n` whenever `str(n)` returns. -/
theorem intOfStr_strOfInt (lim : IntMaxStrDigits) (n : ℤ) {s : List Char}
    (h : strOfInt lim n = .ok s) : intOfStr lim s = .ok n := by
  unfold strOfInt at h
  split at h
  · cases h
  · next hlim =>
    cases h
    have htext : transformToASCII ((if n < 0 then ['-'] else []) ++ decimalDigits n.natAbs) =
        (DecimalLiteral.ofInt n).text := by
      rw [transformToASCII_of_lt fun c hc => ?_]
      · simp [DecimalLiteral.text, DecimalLiteral.ofInt]
      rcases List.mem_append.mp hc with hc | hc
      · split at hc <;> simp_all
      · exact (isDecimalDigit_facts (decimalDigits_isDecimalDigit _ c hc)).1
    have h := intOfStr_literal lim _ htext (by simpa [DecimalLiteral.digits_ofInt] using hlim)
    rwa [DecimalLiteral.value_ofInt] at h

/-- Every character `str` writes for an `int` is a `-` or a decimal digit. -/
theorem strOfInt_chars (lim : IntMaxStrDigits) (n : ℤ) {s : List Char}
    (h : strOfInt lim n = .ok s) : ∀ c ∈ s, c = '-' ∨ isDecimalDigit c = true := by
  unfold strOfInt at h
  split at h
  · cases h
  · cases h
    intro c hc
    rcases List.mem_append.mp hc with hc | hc
    · left; split at hc <;> simp_all
    · exact .inr (decimalDigits_isDecimalDigit _ c hc)

end Kontrol.Python
