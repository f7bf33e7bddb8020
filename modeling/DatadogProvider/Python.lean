/-
# DatadogProvider.Python — the Python values and `str` methods the provider calls

Everything `datadog_provider.py` computes goes through a few `str`, `list` and
`dict` methods.  A `str` is modelled by its characters (`Str`), so that the
methods are the list functions they are:

* `s.split(c)` is `List.splitOn c s` and `c.join(xs)` is `join c xs`;
  `splitOn_join` is the round trip the webhook path relies on, and it needs the
  joined list to be neither `[]` nor `[""]` (`join_eq_nil_iff`);
* `s.split(c, n)` is `splitMax c n s`: at most `n` cuts, leftmost first
  (`splitMax_cut`);
* `s.lstrip("[").rstrip("]")` is `stripBrackets s`; it forgets one outer pair of
  brackets, whatever `s` is (`stripBrackets_bracket`);
* `sub in s` is `sub <:+: s`, and `xs.remove(x)` is `List.erase` or `ValueError`;
* `int(str(n)) == n` whenever `str(n)` answers (`parseInt_strInt`), and `str` of
  an id names one id (`toString_inj`).

A value read out of a JSON payload or a vendor model is a `PyVal`; the
exceptions the code raises are `PyError`.  `int(s)` on a string is `parseInt`:
blanks around an optional sign and a run of decimal digits of any script, with
single underscores between digits.  Python 3.11 refuses to convert more than 4300
digits either way (`maxStrDigits`), in `int(s)` and in `str(n)` (`strInt`).
-/
import Mathlib.Data.List.Basic
import Mathlib.Data.List.DropRight
import Mathlib.Data.List.Infix

namespace Keep.DatadogProvider

set_option autoImplicit false

/-- A Python `str`, as its characters. -/
abbrev Str := List Char

/-! ## Exceptions and values -/

/-- A `datadog_api_client` exception: its HTTP status and the `errors` of its body. -/
structure ApiException where
  status : Nat
  errors : List Str
  deriving DecidableEq, Repr

/-- The exceptions the provider's code raises.  `overflowError` stands for what
`datetime.fromtimestamp` raises on an out-of-range timestamp. -/
inductive PyError
  | valueError
  | typeError
  | attributeError
  | keyError
  | indexError
  | overflowError
  | unboundLocalError
  /-- `ApiTypeError`: the client's check of an argument's type, made before a
  request is sent; it is not an `ApiException`. -/
  | apiTypeError
  | api (e : ApiException)
  /-- `GetAlertException(message=str(e), status_code=e.status)`, raised from `e`. -/
  | getAlert (e : ApiException)
  deriving DecidableEq, Repr

/-- A value of a JSON payload or of a vendor model field. -/
inductive PyVal
  | none
  | int (n : Int)
  | str (s : Str)
  | dict (entries : List (Str × Str))
  deriving DecidableEq, Repr

/-! ## `str` methods -/

/-- `sep.join(xs)`. -/
def join (sep : Char) (xs : List Str) : Str := [sep].intercalate xs

/-- `s.split(sep, maxsplit)`: at most `maxsplit` cuts, at the leftmost separators. -/
def splitMax (sep : Char) : Nat → Str → List Str
  | 0, s => [s]
  | _ + 1, [] => [[]]
  | n + 1, c :: s =>
      if c = sep then [] :: splitMax sep n s
      else match splitMax sep (n + 1) s with
        | head :: rest => (c :: head) :: rest
        | [] => [[c]]

/-- `s.lstrip(c)`. -/
def lstrip (c : Char) (s : Str) : Str := s.dropWhile (· == c)

/-- `s.rstrip(c)`. -/
def rstrip (c : Char) (s : Str) : Str := s.rdropWhile (· == c)

/-- `s.lstrip("[").rstrip("]")`, how both paths unwrap a `[token]` of a title. -/
def stripBrackets (s : Str) : Str := rstrip ']' (lstrip '[' s)

/-- `xs.remove(x)`: drops the first `x`, `ValueError` when there is none. -/
def remove (x : Str) (xs : List Str) : Except PyError (List Str) :=
  if x ∈ xs then .ok (xs.erase x) else .error .valueError

/-- `a, b = xs`. -/
def unpack2 : List Str → Except PyError (Str × Str)
  | [a, b] => .ok (a, b)
  | _ => .error .valueError

/-- `a, b, c = xs`. -/
def unpack3 : List Str → Except PyError (Str × Str × Str)
  | [a, b, c] => .ok (a, b, c)
  | _ => .error .valueError

/-! ## `int()` and `str()` of an integer -/

/-- `sys.get_int_max_str_digits()` at its default: `int(s)` refuses a text of more
decimal digits, and `str(n)` a number of more. -/
def maxStrDigits : Nat := 4300

/-- The code points of the zeros of Unicode's decimal digits (category `Nd`), as
Python 3.11's `unicodedata` (Unicode 14.0) has them; each starts a run of ten. -/
def decimalZeros : List Nat :=
  [0x30, 0x660, 0x6F0, 0x7C0, 0x966, 0x9E6, 0xA66, 0xAE6, 0xB66, 0xBE6, 0xC66, 0xCE6, 0xD66,
    0xDE6, 0xE50, 0xED0, 0xF20, 0x1040, 0x1090, 0x17E0, 0x1810, 0x1946, 0x19D0, 0x1A80, 0x1A90,
    0x1B50, 0x1BB0, 0x1C40, 0x1C50, 0xA620, 0xA8D0, 0xA900, 0xA9D0, 0xA9F0, 0xAA50, 0xABF0,
    0xFF10, 0x104A0, 0x10D30, 0x11066, 0x110F0, 0x11136, 0x111D0, 0x112F0, 0x11450, 0x114D0,
    0x11650, 0x116C0, 0x11730, 0x118E0, 0x11950, 0x11C50, 0x11D50, 0x11DA0, 0x16A60, 0x16AC0,
    0x16B50, 0x1D7CE, 0x1D7D8, 0x1D7E2, 0x1D7EC, 0x1D7F6, 0x1E140, 0x1E2F0, 0x1E950, 0x1FBF0]

/-- `unicodedata.decimal(c)`: the value of a decimal digit of any script, which is
what `int()` reads it as. -/
def decimalValue (c : Char) : Option Nat :=
  (decimalZeros.find? fun z => z ≤ c.toNat && c.toNat < z + 10).map (c.toNat - ·)

/-- The characters `int()` skips around a number: the ASCII blanks tab to carriage
return and space, and the non-ASCII characters `str.isspace` holds for.  `int()`
passes ASCII through unchanged, so the separators 0x1C to 0x1F, which `isspace`
counts, are refused. -/
def isIntSpace (c : Char) : Bool :=
  let n := c.toNat
  (9 ≤ n && n ≤ 13) || n == 32 || n == 0x85 || n == 0xA0 || n == 0x1680 ||
    (0x2000 ≤ n && n ≤ 0x200A) || n == 0x2028 || n == 0x2029 || n == 0x202F || n == 0x205F ||
    n == 0x3000

/-- The value of a run of decimal digits. -/
def digitsValue (ds : Str) : Nat := ds.foldl (fun n c => 10 * n + (decimalValue c).getD 0) 0

/-- Python's integer body: decimal digits, single underscores only between digits. -/
def isDigitRun (s : Str) : Bool :=
  !s.isEmpty && s.all (fun c => (decimalValue c).isSome || c == '_') && s.head? != some '_' &&
    s.getLast? != some '_' && !decide (['_', '_'] <:+: s)

/-- `int(s)` for a `str`: surrounding blanks, an optional sign, and a digit run of
at most `maxStrDigits` digits. -/
def parseInt (s : Str) : Option Int :=
  let body := fun ds =>
    let digits := ds.filter (· != '_')
    if isDigitRun ds && decide (digits.length ≤ maxStrDigits) then some (digitsValue digits)
    else none
  match (s.dropWhile isIntSpace).rdropWhile isIntSpace with
  | '-' :: ds => (body ds).map fun n => -(n : Int)
  | '+' :: ds => (body ds).map fun n => (n : Int)
  | ds => (body ds).map fun n => (n : Int)

/-- `str(n)` of an `int`: its decimal text, and `ValueError` beyond `maxStrDigits`
digits. -/
def strInt (n : Int) : Except PyError Str :=
  if (Nat.toDigits 10 n.natAbs).length ≤ maxStrDigits then .ok (toString n).toList
  else .error .valueError

namespace PyVal

/-- Python truthiness. -/
def truthy : PyVal → Bool
  | none => false
  | int n => n != 0
  | str s => !s.isEmpty
  | dict es => !es.isEmpty

/-- `v.split(sep)`: only a `str` has the method. -/
def split (sep : Char) : PyVal → Except PyError (List Str)
  | str s => .ok (s.splitOn sep)
  | _ => .error .attributeError

/-- `v.split(sep, maxsplit)`. -/
def splitMax (sep : Char) (maxsplit : Nat) : PyVal → Except PyError (List Str)
  | str s => .ok (DatadogProvider.splitMax sep maxsplit s)
  | _ => .error .attributeError

/-- `int(v)`. -/
def toInt : PyVal → Except PyError Int
  | int n => .ok n
  | str s => match parseInt s with
    | some n => .ok n
    | Option.none => .error .valueError
  | _ => .error .typeError

end PyVal

/-! ## `dict` -/

/-- A Python `dict`, as its entries in insertion order. -/
abbrev PyDict (κ ν : Type) := List (κ × ν)

section Dict

variable {κ ν : Type} [DecidableEq κ]

/-- `d[k] = v`: overwrite in place, or append a new key. -/
def dictInsert (d : PyDict κ ν) (k : κ) (v : ν) : PyDict κ ν :=
  if d.any (·.1 == k) then d.map (fun e => if e.1 = k then (k, v) else e) else d ++ [(k, v)]

/-- `{k: v for k, v in pairs}`. -/
def dictOf (pairs : List (κ × ν)) : PyDict κ ν :=
  pairs.foldl (fun d e => dictInsert d e.1 e.2) []

/-- `d.get(k)`, `None` as `none`: the value of the first entry with key `k`. -/
def dictLookup (d : PyDict κ ν) (k : κ) : Option ν := d.lookup k

/-- `d.get(k, default)`. -/
def dictGet (d : PyDict κ ν) (k : κ) (default : ν) : ν := (dictLookup d k).getD default

/-- `d.pop(k, default)`: the value, and the dict without `k`. -/
def dictPop (d : PyDict κ ν) (k : κ) (default : ν) : ν × PyDict κ ν :=
  ((dictLookup d k).getD default, d.filter (·.1 != k))

end Dict

/-- `v[key]` with a `str` key: a `dict` looks the key up, a `str` takes integer
indices only, and `None` and an `int` are not subscriptable. -/
def PyVal.getItem : PyVal → Str → Except PyError PyVal
  | .dict entries, key => match dictLookup entries key with
    | some v => .ok (.str v)
    | Option.none => .error .keyError
  | _, _ => .error .typeError

/-! ## Lemmas -/

@[simp] theorem ok_bind {ε α β : Type} (a : α) (f : α → Except ε β) :
    (Except.ok a : Except ε α) >>= f = f a := rfl

@[simp] theorem error_bind {ε α β : Type} (e : ε) (f : α → Except ε β) :
    (Except.error e : Except ε α) >>= f = .error e := rfl

/-- A successful `do` step: what the first computation returned, and the rest. -/
theorem bind_eq_ok {ε α β : Type} {x : Except ε α} {f : α → Except ε β} {b : β} :
    x >>= f = .ok b ↔ ∃ a, x = .ok a ∧ f a = .ok b := by
  cases x <;> simp [bind, Except.bind]

@[simp] theorem dictLookup_nil {κ ν : Type} [DecidableEq κ] (k : κ) :
    dictLookup ([] : PyDict κ ν) k = none := rfl

@[simp] theorem dictLookup_cons {κ ν : Type} [DecidableEq κ] (j k : κ) (w : ν) (d : PyDict κ ν) :
    dictLookup ((j, w) :: d) k = if k = j then some w else dictLookup d k := by
  rw [dictLookup, List.lookup_cons]
  cases h : k == j <;> simp_all [dictLookup]

theorem dictLookup_append {κ ν : Type} [DecidableEq κ] (d d' : PyDict κ ν) (k : κ) :
    dictLookup (d ++ d') k = (dictLookup d k).or (dictLookup d' k) :=
  List.lookup_append

theorem dictLookup_eq_none_of_not_any {κ ν : Type} [DecidableEq κ] {d : PyDict κ ν} {k : κ}
    (h : ¬ d.any (·.1 == k) = true) : dictLookup d k = none := by
  induction d with
  | nil => rfl
  | cons e d ih =>
      obtain ⟨j, w⟩ := e
      simp only [List.any_cons, Bool.or_eq_true, beq_iff_eq, not_or] at h
      simp [Ne.symm h.1, ih (by simpa using h.2)]

theorem dictLookup_map_overwrite {κ ν : Type} [DecidableEq κ] (d : PyDict κ ν) (k k' : κ) (v : ν) :
    dictLookup (d.map fun e => if e.1 = k then (k, v) else e) k' =
      if k' = k ∧ d.any (·.1 == k) then some v else dictLookup d k' := by
  induction d with
  | nil => simp
  | cons e d ih =>
      obtain ⟨j, w⟩ := e
      by_cases hj : j = k
      · subst hj
        by_cases hk' : k' = j <;> simp_all
      · by_cases hk' : k' = j
        · subst hk'
          simp [hj]
        · simp only [List.map_cons, if_neg hj, dictLookup_cons, if_neg hk', ih, List.any_cons,
            beq_false_of_ne hj, Bool.false_or]

theorem dictLookup_dictInsert {κ ν : Type} [DecidableEq κ] (d : PyDict κ ν) (k k' : κ) (v : ν) :
    dictLookup (dictInsert d k v) k' = if k' = k then some v else dictLookup d k' := by
  unfold dictInsert
  split
  · rename_i hk
    simp only [dictLookup_map_overwrite, hk, and_true]
  · rename_i hk
    by_cases hk' : k' = k
    · subst hk'
      simp [dictLookup_append, dictLookup_eq_none_of_not_any hk]
    · simp only [dictLookup_append, hk', if_false]
      cases dictLookup d k' <;> simp [hk']

theorem mem_of_dictLookup_eq_some {κ ν : Type} [DecidableEq κ] {d : List (κ × ν)} {k : κ} {v : ν}
    (h : dictLookup d k = some v) : (k, v) ∈ d := by
  induction d with
  | nil => simp at h
  | cons e d ih =>
      obtain ⟨j, w⟩ := e
      by_cases hk : k = j
      · subst hk
        simp_all
      · simp only [dictLookup_cons, if_neg hk] at h
        exact List.mem_cons_of_mem _ (ih h)

/-- `d[k] = v` for a key `d` does not hold appends the entry. -/
theorem dictInsert_of_not_mem {κ ν : Type} [DecidableEq κ] {d : PyDict κ ν} {k : κ}
    (h : k ∉ d.map (·.1)) (v : ν) : dictInsert d k v = d ++ [(k, v)] := by
  rw [dictInsert, if_neg]
  simpa using fun y hy => h (List.mem_map.mpr ⟨(k, y), hy, rfl⟩)

/-- A dict comprehension keeps, for each key, the value its last pair gives. -/
theorem dictLookup_dictOf {κ ν : Type} [DecidableEq κ] (pairs : List (κ × ν)) (k : κ) :
    dictLookup (dictOf pairs) k = dictLookup pairs.reverse k := by
  suffices ∀ d : PyDict κ ν, dictLookup (pairs.foldl (fun d e => dictInsert d e.1 e.2) d) k =
      (dictLookup pairs.reverse k).or (dictLookup d k) by simpa using this []
  induction pairs with
  | nil => simp
  | cons e pairs ih =>
      intro d
      obtain ⟨j, w⟩ := e
      rw [List.foldl_cons, ih, dictLookup_dictInsert]
      by_cases hk : k = j
      · subst hk
        simp only [List.reverse_cons, dictLookup_append, dictLookup_cons, dictLookup_nil, if_pos]
        cases dictLookup pairs.reverse k <;> rfl
      · simp [dictLookup_append, hk]

/-- `d.pop(k)` leaves every other key as it was. -/
theorem dictGet_dictPop {κ ν : Type} [DecidableEq κ] (d : PyDict κ ν) {k k' : κ} (hk : k' ≠ k)
    (dk dk' : ν) : dictGet (dictPop d k dk).2 k' dk' = dictGet d k' dk' := by
  simp only [dictGet, dictPop]
  congr 1
  induction d with
  | nil => rfl
  | cons e d ih =>
      obtain ⟨j, v⟩ := e
      by_cases hj : j = k
      · subst hj
        simp [List.filter_cons, hk, ih]
      · by_cases hj' : k' = j
        · subst hj'
          simp [List.filter_cons, hj]
        · simp [List.filter_cons, hj, hj', ih]

@[simp] theorem join_nil (sep : Char) : join sep [] = [] := rfl

@[simp] theorem join_singleton (sep : Char) (s : Str) : join sep [s] = s := by simp [join, List.intercalate]

/-- A joined list is empty exactly for `[]` and `[""]`. -/
theorem join_eq_nil_iff (sep : Char) (xs : List Str) :
    join sep xs = [] ↔ xs = [] ∨ xs = [[]] := by
  match xs with
  | [] => simp
  | [s] => simp
  | _ :: _ :: _ => simp [join, List.intercalate]

/-- `s.split(sep)` reads back `sep.join(xs)` when no `x` holds `sep`. -/
theorem splitOn_join (sep : Char) {xs : List Str} (hsep : ∀ x ∈ xs, sep ∉ x)
    (hne : xs ≠ []) : (join sep xs).splitOn sep = xs :=
  List.splitOn_intercalate xs sep hsep hne

theorem join_splitOn (sep : Char) (s : Str) : join sep (s.splitOn sep) = s :=
  List.intercalate_splitOn s sep

@[simp] theorem splitMax_zero (sep : Char) (s : Str) : splitMax sep 0 s = [s] := by
  cases s <;> rfl

/-- One cut of `splitMax`: the text before the first separator. -/
theorem splitMax_cut (sep : Char) (n : Nat) {a : Str} (ha : sep ∉ a) (b : Str) :
    splitMax sep (n + 1) (a ++ sep :: b) = a :: splitMax sep n b := by
  induction a with
  | nil => simp [splitMax]
  | cons c a ih =>
      have hc : c ≠ sep := fun h => ha (h ▸ List.mem_cons_self c a)
      show splitMax sep (n + 1) (c :: (a ++ sep :: b)) = _
      rw [splitMax, if_neg hc, ih (fun h => ha (List.mem_cons_of_mem c h))]

/-- `stripBrackets` forgets one outer pair of brackets. -/
theorem stripBrackets_bracket (s : Str) : stripBrackets ('[' :: s ++ [']']) = stripBrackets s := by
  have hr : rstrip ']' [']'] = [] := rfl
  simp only [stripBrackets, lstrip, List.cons_append, List.dropWhile_cons, beq_self_eq_true,
    ↓reduceIte, List.dropWhile_append]
  split
  · rename_i h
    simp only [List.isEmpty_iff] at h
    simp [h, hr, rstrip]
  · simp [rstrip, List.rdropWhile_concat_pos]

/-- A token with no bracket at either end is its own `stripBrackets`. -/
theorem stripBrackets_of_unbracketed {s : Str} (hl : s.head? ≠ some '[')
    (hr : s.getLast? ≠ some ']') : stripBrackets s = s := by
  have hl' : lstrip '[' s = s := by
    cases s with
    | nil => rfl
    | cons c s => simp_all [lstrip, List.dropWhile_cons]
  rw [stripBrackets, hl', rstrip, List.rdropWhile_eq_self_iff]
  intro hne
  simpa [List.getLast?_eq_getLast s hne] using hr

theorem strInt_eq_ok {n : Int} {s : Str} :
    strInt n = .ok s ↔ (Nat.toDigits 10 n.natAbs).length ≤ maxStrDigits ∧ s = (toString n).toList := by
  unfold strInt
  split <;> simp_all [eq_comm]

/-! ## `int()` of digits -/

theorem ne_of_isDigit {c x : Char} (hc : c.isDigit) (hx : x.isDigit = false) : c ≠ x := by
  rintro rfl
  simp_all

/-- An ASCII digit is a decimal digit of value its offset from `'0'`. -/
theorem decimalValue_of_isDigit {c : Char} (hc : c.isDigit) :
    decimalValue c = some (c.toNat - '0'.toNat) := by
  simp only [Char.isDigit, Bool.and_eq_true, decide_eq_true_eq] at hc
  have h₁ : 48 ≤ c.toNat := hc.1
  have h₂ : c.toNat ≤ 57 := hc.2
  simp only [decimalValue, decimalZeros, List.find?_cons, h₁, h₂, decide_True, Bool.true_and,
    show c.toNat < 48 + 10 by omega, if_pos, Option.map_some']
  rfl

theorem not_isIntSpace_of_isDigit {c : Char} (hc : c.isDigit) : isIntSpace c = false := by
  simp only [Char.isDigit, Bool.and_eq_true, decide_eq_true_eq] at hc
  have h₁ : 48 ≤ c.toNat := hc.1
  have h₂ : c.toNat ≤ 57 := hc.2
  simp only [isIntSpace, Bool.or_eq_false_iff, Bool.and_eq_false_iff, beq_eq_false_iff_ne,
    decide_eq_false_iff_not]
  omega

/-- `int()` strips nothing from a text that starts and ends with a non-blank. -/
theorem strip_of_ends {s : Str} (hh : ∀ c ∈ s.head?, isIntSpace c = false)
    (hl : ∀ c ∈ s.getLast?, isIntSpace c = false) :
    (s.dropWhile isIntSpace).rdropWhile isIntSpace = s := by
  cases s with
  | nil => rfl
  | cons c cs =>
      rw [List.dropWhile_cons_of_neg (by simpa using hh c rfl), List.rdropWhile_eq_self_iff]
      intro hne
      simpa using hl _ (List.getLast?_eq_getLast _ hne)

/-- A run of ASCII digits is a digit run with no underscore to drop. -/
theorem isDigitRun_of_isDigit {ds : Str} (hne : ds ≠ []) (hd : ∀ c ∈ ds, c.isDigit) :
    isDigitRun ds = true ∧ ds.filter (· != '_') = ds := by
  have hu : '_' ∉ ds := fun h => ne_of_isDigit (hd _ h) (by decide) rfl
  have hhead : ds.head? ≠ some '_' := fun h => hu (List.mem_of_mem_head? h)
  have hlast : ds.getLast? ≠ some '_' := fun h => hu (List.mem_of_getLast?_eq_some h)
  have hinf : ¬ ['_', '_'] <:+: ds := fun h => hu (h.subset (List.mem_cons_self _ _))
  have hall : ds.all (fun c => (decimalValue c).isSome || c == '_') = true :=
    List.all_eq_true.mpr fun c hc => by simp [decimalValue_of_isDigit (hd c hc)]
  refine ⟨by simp [isDigitRun, hne, hhead, hlast, hinf, hall], List.filter_eq_self.mpr ?_⟩
  intro x hx
  simpa using fun h : x = '_' => hu (h ▸ hx)

theorem getLast_not_isIntSpace {ds : Str} (hd : ∀ c ∈ ds, c.isDigit) :
    ∀ c ∈ ds.getLast?, isIntSpace c = false :=
  fun c hc => not_isIntSpace_of_isDigit (hd c (List.mem_of_getLast?_eq_some hc))

/-- `int(ds)` of a run of at most `maxStrDigits` ASCII digits is its decimal value. -/
theorem parseInt_digits {ds : Str} (hne : ds ≠ []) (hd : ∀ c ∈ ds, c.isDigit)
    (hlen : ds.length ≤ maxStrDigits) : parseInt ds = some (digitsValue ds : Int) := by
  obtain ⟨hrun, hfilter⟩ := isDigitRun_of_isDigit hne hd
  obtain ⟨c, cs, rfl⟩ := List.exists_cons_of_ne_nil hne
  have hc := hd c (List.mem_cons_self _ _)
  simp only [parseInt, strip_of_ends (by simpa using not_isIntSpace_of_isDigit hc)
    (getLast_not_isIntSpace hd)]
  split
  next h => exact absurd (List.cons.inj h).1 (ne_of_isDigit hc (by decide))
  next h => exact absurd (List.cons.inj h).1 (ne_of_isDigit hc (by decide))
  next =>
    rw [List.length_cons] at hlen
    simp [hrun, hfilter, hlen]

/-- `int("-" + ds)` of a run of at most `maxStrDigits` ASCII digits is minus its
decimal value: the sign is not a digit. -/
theorem parseInt_neg_digits {ds : Str} (hne : ds ≠ []) (hd : ∀ c ∈ ds, c.isDigit)
    (hlen : ds.length ≤ maxStrDigits) : parseInt ('-' :: ds) = some (-(digitsValue ds : Int)) := by
  have hlast : ∀ c ∈ ('-' :: ds).getLast?, isIntSpace c = false := by
    obtain ⟨d, ds', rfl⟩ := List.exists_cons_of_ne_nil hne
    rw [List.getLast?_cons_cons]
    exact getLast_not_isIntSpace hd
  obtain ⟨hrun, hfilter⟩ := isDigitRun_of_isDigit hne hd
  simp only [parseInt, strip_of_ends (by simp [isIntSpace]) hlast, hrun, hfilter, hlen]
  rfl

/-! ## `str()` of an integer -/

theorem digitsValue_concat (ds : Str) (c : Char) :
    digitsValue (ds ++ [c]) = 10 * digitsValue ds + (decimalValue c).getD 0 := by
  simp [digitsValue, List.foldl_append]

theorem digitChar_digit : ∀ k : Fin 10,
    (Nat.digitChar k).isDigit ∧ (decimalValue (Nat.digitChar k)).getD 0 = k := by
  decide

/-- `Nat.toDigitsCore 10` puts the decimal digits of `n` in front of its accumulator. -/
theorem toDigitsCore_ten : ∀ (fuel n : Nat) (ds : Str), n < fuel →
    ∃ pre, Nat.toDigitsCore 10 fuel n ds = pre ++ ds ∧ pre ≠ [] ∧ (∀ c ∈ pre, c.isDigit) ∧
      digitsValue pre = n
  | 0, n, _, h => absurd h (Nat.not_lt_zero n)
  | fuel + 1, n, ds, h => by
      obtain ⟨hd, hv⟩ := digitChar_digit ⟨n % 10, Nat.mod_lt n (by decide)⟩
      simp only at hd hv
      have hcore : Nat.toDigitsCore 10 (fuel + 1) n ds =
          if n / 10 = 0 then Nat.digitChar (n % 10) :: ds
          else Nat.toDigitsCore 10 fuel (n / 10) (Nat.digitChar (n % 10) :: ds) := rfl
      by_cases h0 : n / 10 = 0
      · refine ⟨[Nat.digitChar (n % 10)], by rw [hcore, if_pos h0]; rfl, by simp,
          by simpa using hd, ?_⟩
        simp only [digitsValue, List.foldl_cons, List.foldl_nil, hv]
        omega
      · obtain ⟨pre, heq, hne, hall, hval⟩ :=
          toDigitsCore_ten fuel (n / 10) (Nat.digitChar (n % 10) :: ds) (by omega)
        refine ⟨pre ++ [Nat.digitChar (n % 10)], by rw [hcore, if_neg h0, heq]; simp, by simp,
          fun c hc => (List.mem_append.mp hc).elim (hall c) fun hc => List.mem_singleton.mp hc ▸ hd,
          by rw [digitsValue_concat, hval, hv]; omega⟩

/-- `str(n)` of a natural number: a nonempty run of ASCII digits with value `n`. -/
theorem toDigits_ten (n : Nat) : Nat.toDigits 10 n ≠ [] ∧ (∀ c ∈ Nat.toDigits 10 n, c.isDigit) ∧
    digitsValue (Nat.toDigits 10 n) = n := by
  obtain ⟨pre, heq, hne, hall, hval⟩ := toDigitsCore_ten (n + 1) n [] (Nat.lt_succ_self n)
  rw [show Nat.toDigits 10 n = Nat.toDigitsCore 10 (n + 1) n [] from rfl, heq, List.append_nil]
  exact ⟨hne, hall, hval⟩

/-- `int(str(n)) == n` whenever `str(n)` answers. -/
theorem parseInt_strInt {n : Int} {s : Str} (h : strInt n = .ok s) : parseInt s = some n := by
  unfold strInt at h
  split_ifs at h with hlen
  cases h
  cases n with
  | ofNat m =>
      obtain ⟨hne, hd, hv⟩ := toDigits_ten m
      show parseInt (Nat.toDigits 10 m) = _
      rw [parseInt_digits hne hd hlen, hv]
      rfl
  | negSucc m =>
      obtain ⟨hne, hd, hv⟩ := toDigits_ten (m + 1)
      show parseInt ('-' :: Nat.toDigits 10 (m + 1)) = _
      rw [parseInt_neg_digits hne hd hlen, hv]
      rfl

/-- No decimal text of a natural number starts with a minus. -/
theorem toDigits_ne_minus (k : Nat) (ds : Str) : Nat.toDigits 10 k ≠ '-' :: ds := fun h =>
  absurd ((toDigits_ten k).2.1 '-' (h ▸ List.mem_cons_self _ _)) (by decide)

/-- Two integers with one `str` are equal. -/
theorem toString_inj {m n : Int} (h : (toString m).toList = (toString n).toList) : m = n := by
  cases m with
  | ofNat a =>
      cases n with
      | ofNat b =>
          have h' : Nat.toDigits 10 a = Nat.toDigits 10 b := h
          rw [← (toDigits_ten a).2.2, h', (toDigits_ten b).2.2]
      | negSucc b => exact absurd (h : Nat.toDigits 10 a = _) (toDigits_ne_minus a _)
  | negSucc a =>
      cases n with
      | ofNat b => exact absurd (h.symm : Nat.toDigits 10 b = _) (toDigits_ne_minus b _)
      | negSucc b =>
          have h' : Nat.toDigits 10 (a + 1) = Nat.toDigits 10 (b + 1) :=
            List.tail_eq_of_cons_eq (h : '-' :: Nat.toDigits 10 (a + 1) = _)
          have hv := congrArg digitsValue h'
          rw [(toDigits_ten (a + 1)).2.2, (toDigits_ten (b + 1)).2.2] at hv
          rw [Nat.succ.inj hv]

end Keep.DatadogProvider
