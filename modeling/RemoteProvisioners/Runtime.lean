import RemoteProvisioners.UnicodeData
import Mathlib.Data.List.Nodup

/-!
# The Python runtime the provisioners run on

The provisioners are Python coroutines over dictionaries of strings and JSON values, and they
report failure by raising exceptions whose class the callers test. This module fixes the part of
that runtime the model needs, as CPython 3.11 has it.

Exceptions are kept by class and message (`Exn`), and `str(e)` is the text CPython gives them
(`Exn.text`). A connection payload holds JSON values, and the code reads them with truth testing
and `int()` (`PyVal.truthy`, `PyVal.toInt`). Dictionaries keep Python's insertion order: setting
a present key replaces its value in place, setting a new key appends it. Their keys are unique,
and that is part of the type (`PyDict`), so no later proof has to carry it. The string functions
the code calls are `str.split("..")` (`splitDots`), `int()` on a string (`pyInt`), which reads
every Unicode decimal digit and skips every Unicode space, and `repr()` (`pyRepr`), which its
error message quotes. `int()` reads back every integer as Lean prints it (`pyInt_toString`), and
splitting two such texts joined by `..` gives them back (`pySplitDots_join`).
-/

set_option autoImplicit false

namespace RemoteProvisioners

/-! ## Exceptions -/

/-- The exceptions the provisioner raises or inspects, by class. A `TimeoutError`, a
`socket.timeout` and an `asyncio.TimeoutError` are one class here, as they are in Python 3.11. -/
inductive Exn where
  | permissionError (message : String)
  | runtimeError (message : String)
  | valueError (message : String)
  | timeoutError (message : String)
  | indexError
  | keyError (key : String)
  | typeError (message : String)
  | attributeError (message : String)
  | osError (errno : Nat) (strerror : String)
  deriving DecidableEq, Repr

/-- `errno.ECONNREFUSED` on Linux. -/
def econnrefused : Nat := 111

/-- `isinstance(e, OSError)`: `PermissionError` and `TimeoutError` are subclasses of `OSError`. -/
def Exn.isOSError : Exn → Bool
  | .osError _ _ | .permissionError _ | .timeoutError _ => true
  | _ => false

/-- `isinstance(e, OSError) and e.errno == errno.ECONNREFUSED`. The `PermissionError` and
`TimeoutError` of this model are raised with a message alone, so their `errno` is `None`. -/
def Exn.isConnRefused : Exn → Bool
  | .osError errno _ => errno == econnrefused
  | _ => false

instance instDecidableEqExcept {ε α : Type} [DecidableEq ε] [DecidableEq α] :
    DecidableEq (Except ε α)
  | .error a, .error b => decidable_of_iff (a = b) (by simp)
  | .ok a, .ok b => decidable_of_iff (a = b) (by simp)
  | .error _, .ok _ => isFalse (by simp)
  | .ok _, .error _ => isFalse (by simp)

theorem except_bind_eq_ok {ε α β : Type} {x : Except ε α} {f : α → Except ε β} {b : β} :
    x >>= f = .ok b ↔ ∃ a, x = .ok a ∧ f a = .ok b := by
  cases x <;> simp [bind, Except.bind]

/-! ## Strings -/

/-- The lower-case hexadecimal digits of `n`, padded with zeros to `width`. -/
def hexDigits (width n : Nat) : String :=
  let digits := Nat.toDigits 16 n
  String.mk (List.replicate (width - digits.length) '0' ++ digits)

/-- How `repr()` writes one character of a string quoted by `quote`. -/
def reprChar (quote c : Char) : String :=
  if c = quote ∨ c = '\\' then "\\" ++ c.toString
  else if c = '\t' then "\\t"
  else if c = '\n' then "\\n"
  else if c = '\r' then "\\r"
  else if c.toNat < 0x20 ∨ c.toNat = 0x7F then "\\x" ++ hexDigits 2 c.toNat
  else if c.toNat < 0x7F ∨ isPrintableAboveAscii c then c.toString
  else if c.toNat ≤ 0xFF then "\\x" ++ hexDigits 2 c.toNat
  else if c.toNat ≤ 0xFFFF then "\\u" ++ hexDigits 4 c.toNat
  else "\\U" ++ hexDigits 8 c.toNat

/-- `repr(s)` of a string: single quotes, or double quotes when the text holds a single quote and
no double one. -/
def pyRepr (s : String) : String :=
  let quote := if Char.ofNat 39 ∈ s.toList ∧ Char.ofNat 34 ∉ s.toList then Char.ofNat 34
    else Char.ofNat 39
  quote.toString ++ String.join (s.toList.map (reprChar quote)) ++ quote.toString

example : pyRepr "it\x27s\n" = "\"it\x27s\\n\"" := by decide

/-- `str(e)`: the message of an exception raised with one, and the built-in classes as CPython
renders them. -/
def Exn.text : Exn → String
  | .permissionError message => message
  | .runtimeError message => message
  | .valueError message => message
  | .timeoutError message => message
  | .indexError => "list index out of range"
  | .keyError key => pyRepr key
  | .typeError message => message
  | .attributeError message => message
  | .osError errno strerror => s!"[Errno {errno}] {strerror}"

/-- The whitespace `PyLong_FromString` skips around a numeral (`Py_ISSPACE`). -/
def isSpace (c : Char) : Bool :=
  c == ' ' || c == '\t' || c == '\n' || c == '\r' || c == '\x0b' || c == '\x0c'

/-- `_PyUnicode_TransformDecimalAndSpaceToASCII` on one character: ASCII below `DEL` as it is, a
Unicode space as `' '`, a decimal digit as its ASCII digit, and anything else as `'?'`, which no
numeral holds. -/
def asciiOfChar (c : Char) : Char :=
  if c.toNat < 0x7F then c
  else if isUnicodeSpace c then ' '
  else match decimalValue c with
    | some d => Nat.digitChar d
    | none => '?'

/-- The value of a decimal digit character. -/
def digitValue (c : Char) : Nat := c.toNat - '0'.toNat

/-- The rest of a numeral after its first digit: digits, each possibly preceded by one
underscore, accumulated from the left. -/
def readDigits : List Char → Nat → Option Nat
  | [], acc => some acc
  | '_' :: d :: rest, acc => if d.isDigit then readDigits rest (10 * acc + digitValue d) else none
  | d :: rest, acc => if d.isDigit then readDigits rest (10 * acc + digitValue d) else none

/-- A numeral: a digit, then `readDigits`. -/
def readNumeral : List Char → Option Nat
  | d :: rest => if d.isDigit then readDigits rest (digitValue d) else none
  | [] => none

/-- A numeral with an optional sign. -/
def readSigned : List Char → Option Int
  | '-' :: rest => (readNumeral rest).map fun n => -(n : Int)
  | '+' :: rest => (readNumeral rest).map fun n => (n : Int)
  | rest => (readNumeral rest).map fun n => (n : Int)

/-- `int(s)` on a string (`PyLong_FromUnicodeObject`): the string made ASCII by `asciiOfChar`,
then surrounding whitespace, an optional sign, and decimal digits with single underscores between
them. `none` is the `ValueError`. -/
def pyInt (s : String) : Option Int :=
  readSigned (((s.toList.map asciiOfChar).dropWhile isSpace).reverse.dropWhile isSpace).reverse

example : pyInt " +1_024 " = some 1024 := by decide

example : pyInt "\u0661\u0662\u00A0" = some 12 := by decide

example : pyInt "\x1c5" = none := by decide

example : pyInt "" = none := by decide

/-- The pieces of `str.split("..")`, scanning from the left; `piece` is the current piece,
reversed. -/
def splitDots : List Char → List Char → List String
  | '.' :: '.' :: rest, piece => String.mk piece.reverse :: splitDots rest []
  | c :: rest, piece => splitDots rest (c :: piece)
  | [], piece => [String.mk piece.reverse]

/-- `s.split("..")`. -/
def pySplitDots (s : String) : List String := splitDots s.toList []

example : pySplitDots "a...b" = ["a", ".b"] := by decide

example : pySplitDots "" = [""] := by decide

/-! ### Reading back what Lean prints -/

theorem isDigit_digitChar : ∀ k, k < 10 → (Nat.digitChar k).isDigit = true := by decide

theorem digitValue_digitChar : ∀ k, k < 10 → digitValue (Nat.digitChar k) = k := by decide

theorem isSpace_of_isDigit {c : Char} (digit : c.isDigit = true) : isSpace c = false := by
  simp only [isSpace, Bool.or_eq_false_iff, beq_eq_false_iff_ne]
  repeat' constructor
  all_goals rintro rfl; cases digit

theorem readDigits_cons {c : Char} (digit : c.isDigit = true) (rest : List Char) (acc : Nat) :
    readDigits (c :: rest) acc = readDigits rest (10 * acc + digitValue c) := by
  have notUnderscore : c ≠ '_' := by rintro rfl; cases digit
  cases rest <;> simp [readDigits, digit, notUnderscore]

theorem toDigitsCore_succ (fuel n : Nat) (ds : List Char) :
    Nat.toDigitsCore 10 (fuel + 1) n ds =
      if n / 10 = 0 then Nat.digitChar (n % 10) :: ds
      else Nat.toDigitsCore 10 fuel (n / 10) (Nat.digitChar (n % 10) :: ds) := rfl

/-- The numeral Lean prints, digit by digit from the right, reads back left to right. -/
theorem readNumeral_toDigitsCore (fuel n : Nat) (ds : List Char) (enough : n < fuel) :
    readNumeral (Nat.toDigitsCore 10 fuel n ds) = readDigits ds n := by
  induction fuel generalizing n ds with
  | zero => omega
  | succ fuel ih =>
      have low := Nat.mod_lt n (by decide : 10 > 0)
      rw [toDigitsCore_succ]
      split
      · simp only [readNumeral, isDigit_digitChar _ low, ↓reduceIte, digitValue_digitChar _ low]
        rw [Nat.mod_eq_of_lt (by omega)]
      · rw [ih _ _ (by omega), readDigits_cons (isDigit_digitChar _ low),
          digitValue_digitChar _ low, Nat.div_add_mod]

theorem isDigit_of_mem_toDigitsCore (fuel n : Nat) (ds : List Char)
    (digits : ∀ c ∈ ds, c.isDigit = true) :
    ∀ c ∈ Nat.toDigitsCore 10 fuel n ds, c.isDigit = true := by
  induction fuel generalizing n ds with
  | zero => exact digits
  | succ fuel ih =>
      have digits' : ∀ c ∈ Nat.digitChar (n % 10) :: ds, c.isDigit = true := by
        simpa [isDigit_digitChar _ (Nat.mod_lt n (by decide : 10 > 0))] using digits
      rw [toDigitsCore_succ]
      split
      · exact digits'
      · exact ih _ _ digits'

theorem readSigned_of_digits {l : List Char} (digits : ∀ c ∈ l, c.isDigit = true) :
    readSigned l = (readNumeral l).map fun n => (n : Int) := by
  rcases l with _ | ⟨c, rest⟩
  · rfl
  · have digit := digits c (List.mem_cons_self _ _)
    have minus : c ≠ '-' := by rintro rfl; cases digit
    have plus : c ≠ '+' := by rintro rfl; cases digit
    unfold readSigned
    split <;> simp_all

/-- The characters of an integer as Lean prints it: a minus sign, then digits. -/
theorem mem_toString_int {n : Int} {c : Char} (mem : c ∈ (toString n).toList) :
    c = '-' ∨ c.isDigit = true := by
  cases n with
  | ofNat m => exact .inr (isDigit_of_mem_toDigitsCore _ _ [] (fun _ mem => nomatch mem) c mem)
  | negSucc m =>
      rcases List.mem_cons.1 mem with rfl | mem
      · exact .inl rfl
      · exact .inr (isDigit_of_mem_toDigitsCore _ _ [] (fun _ mem => nomatch mem) c mem)

theorem strip_of_notSpace {l : List Char} (notSpace : ∀ c ∈ l, isSpace c = false) :
    ((l.dropWhile isSpace).reverse.dropWhile isSpace).reverse = l := by
  have kept : ∀ l : List Char, (∀ c ∈ l, isSpace c = false) → l.dropWhile isSpace = l := by
    rintro (_ | ⟨c, rest⟩) notSpace
    · rfl
    · exact List.dropWhile_cons_of_neg (by simp [notSpace c (List.mem_cons_self _ _)])
  rw [kept l notSpace, kept l.reverse (by simpa using notSpace), List.reverse_reverse]

/-- The characters of an integer as Lean prints it are ASCII, which `int()` reads as they are. -/
theorem map_asciiOfChar_toString (n : Int) :
    (toString n).toList.map asciiOfChar = (toString n).toList := by
  refine (List.map_congr_left fun c mem => ?_).trans (List.map_id _)
  have ascii : c.toNat < 0x7F := by
    rcases mem_toString_int mem with rfl | digit
    · decide
    · simp only [Char.isDigit, Bool.and_eq_true, decide_eq_true_eq] at digit
      have below : c.val.toNat ≤ 57 := digit.2
      exact Nat.lt_of_le_of_lt below (by decide)
  simp [asciiOfChar, ascii]

/-- `int(str(n)) == n`: `int()` reads back every integer as Lean prints it. -/
theorem pyInt_toString (n : Int) : pyInt (toString n) = some n := by
  have notSpace : ∀ c ∈ (toString n).toList, isSpace c = false := fun c mem => by
    rcases mem_toString_int mem with rfl | digit
    · rfl
    · exact isSpace_of_isDigit digit
  unfold pyInt
  rw [map_asciiOfChar_toString, strip_of_notSpace notSpace]
  cases n with
  | ofNat m =>
      show readSigned (Nat.toDigitsCore 10 (m + 1) m []) = _
      rw [readSigned_of_digits (isDigit_of_mem_toDigitsCore _ _ [] fun _ mem => nomatch mem),
        readNumeral_toDigitsCore _ _ _ (Nat.lt_succ_self m)]
      rfl
  | negSucc m =>
      show readSigned ('-' :: Nat.toDigitsCore 10 (m + 2) (m + 1) []) = _
      simp only [readSigned, readNumeral_toDigitsCore _ _ _ (Nat.lt_succ_self _)]
      rfl

theorem dot_not_mem_toString (n : Int) : '.' ∉ (toString n).toList := fun mem => by
  rcases mem_toString_int mem with same | digit
  · cases same
  · cases digit

/-- A stretch without a dot only grows the current piece. -/
theorem splitDots_append_of_noDot {l : List Char} (noDot : '.' ∉ l) (r piece : List Char) :
    splitDots (l ++ r) piece = splitDots r (l.reverse ++ piece) := by
  induction l generalizing piece with
  | nil => rfl
  | cons c rest ih =>
      have other : c ≠ '.' := fun same => noDot (same ▸ List.mem_cons_self _ _)
      rw [List.cons_append, splitDots, ih (fun mem => noDot (List.mem_cons_of_mem _ mem))]
      · simp
      · simp [other]

/-- `str.split("..")` of two texts without a dot, joined by `..`, gives them back. -/
theorem pySplitDots_join {first second : String} (noDot : '.' ∉ first.toList)
    (noDot' : '.' ∉ second.toList) :
    pySplitDots (first ++ ".." ++ second) = [first, second] := by
  have chars : (first ++ ".." ++ second).toList = first.toList ++ '.' :: '.' :: second.toList := by
    simp [String.toList, String.append]
  have last := splitDots_append_of_noDot noDot' [] []
  rw [List.append_nil] at last
  rw [pySplitDots, chars, splitDots_append_of_noDot noDot, splitDots, last]
  simp [splitDots]

/-! ## Values of a connection payload -/

/-- A Python value as the code reads it: a JSON value of a connection payload, or a keyword
argument. `other` is a value of any other class (a list, a dictionary), by its class name and its
truth value; floating-point values are not modelled. -/
inductive PyVal where
  | none
  | bool (value : Bool)
  | int (value : Int)
  | str (value : String)
  | other (typeName : String) (truthy : Bool)
  deriving DecidableEq, Repr

namespace PyVal

/-- Truth testing (`if pid:`). -/
def truthy : PyVal → Bool
  | none => false
  | bool b => b
  | int n => n != 0
  | str s => s != ""
  | other _ t => t

/-- `type(value).__name__`. -/
def typeName : PyVal → String
  | none => "NoneType"
  | bool _ => "bool"
  | int _ => "int"
  | str _ => "str"
  | other name _ => name

/-- `str(value)`, as `%s` formats it. The one value the code formats so is a payload's `ip`, which
`_setup_connection_info` has set to a string or `None`; another class shows its name. -/
def render : PyVal → String
  | none => "None"
  | bool b => if b then "True" else "False"
  | int n => toString n
  | str s => s
  | other name _ => "<" ++ name ++ ">"

/-- `%i` of a value: the digits of an integer, a `TypeError` for anything else. -/
def formatInt (value : PyVal) : Except Exn String :=
  match value with
  | bool b => .ok (if b then "1" else "0")
  | int n => .ok (toString n)
  | _ => .error (.typeError ("%i format: a real number is required, not " ++ value.typeName))

/-- A string or `None` as a payload value. -/
def ofOption : Option String → PyVal
  | some s => str s
  | Option.none => none

/-- A payload value read back where the code expects a string or `None`. -/
def toOption : PyVal → Option String
  | str s => some s
  | _ => Option.none

/-- The `TypeError` of `int(value)` for a value of a class `int()` does not read. -/
def intTypeError (value : PyVal) : Exn :=
  .typeError ("int() argument must be a string, a bytes-like object or a real number, not " ++
    pyRepr value.typeName)

/-- `int(value)`; the message of its `ValueError` quotes at most 200 characters of the repr. -/
def toInt (value : PyVal) : Except Exn Int :=
  match value with
  | none => .error (intTypeError value)
  | bool b => .ok (if b then 1 else 0)
  | int n => .ok n
  | str s =>
      match pyInt s with
      | some n => .ok n
      | Option.none =>
          .error (.valueError ("invalid literal for int() with base 10: " ++
            String.mk ((pyRepr s).toList.take 200)))
  | other _ _ => .error (intTypeError value)

end PyVal

/-! ## Dictionaries -/

section Entries

variable {α : Type}

/-- `d[key]` on the entries of a dictionary. -/
def lookupEntry (key : String) : List (String × α) → Option α
  | [] => none
  | e :: rest => if e.1 = key then some e.2 else lookupEntry key rest

/-- `d[key] = value`: replace in place, or append. -/
def setEntry (key : String) (value : α) : List (String × α) → List (String × α)
  | [] => [(key, value)]
  | e :: rest => if e.1 = key then (key, value) :: rest else e :: setEntry key value rest

/-- `del d[key]`. -/
def eraseEntry (key : String) : List (String × α) → List (String × α)
  | [] => []
  | e :: rest => if e.1 = key then rest else e :: eraseEntry key rest

@[simp]
theorem lookupEntry_setEntry_self (key : String) (value : α) (entries : List (String × α)) :
    lookupEntry key (setEntry key value entries) = some value := by
  induction entries with
  | nil => simp [setEntry, lookupEntry]
  | cons e rest ih => by_cases same : e.1 = key <;> simp [setEntry, lookupEntry, same, ih]

theorem lookupEntry_setEntry_ne {key other : String} (value : α) (entries : List (String × α))
    (different : other ≠ key) :
    lookupEntry other (setEntry key value entries) = lookupEntry other entries := by
  induction entries with
  | nil => simp [setEntry, lookupEntry, Ne.symm different]
  | cons e rest ih =>
      by_cases same : e.1 = key
      · simp [setEntry, lookupEntry, same, Ne.symm different]
      · simp [setEntry, lookupEntry, same, ih]

theorem lookupEntry_eraseEntry_ne {key other : String} (entries : List (String × α))
    (different : other ≠ key) :
    lookupEntry other (eraseEntry key entries) = lookupEntry other entries := by
  induction entries with
  | nil => rfl
  | cons e rest ih =>
      by_cases same : e.1 = key
      · simp [eraseEntry, lookupEntry, same, Ne.symm different]
      · simp [eraseEntry, lookupEntry, same, ih]

theorem keys_setEntry (key : String) (value : α) (entries : List (String × α)) :
    (setEntry key value entries).map Prod.fst =
      if key ∈ entries.map Prod.fst then entries.map Prod.fst
      else entries.map Prod.fst ++ [key] := by
  induction entries with
  | nil => simp [setEntry]
  | cons e rest ih =>
      by_cases same : e.1 = key
      · simp [setEntry, same]
      · by_cases mem : key ∈ rest.map Prod.fst <;> simp_all [setEntry, Ne.symm same]

theorem eraseEntry_sublist (key : String) (entries : List (String × α)) :
    (eraseEntry key entries).Sublist entries := by
  induction entries with
  | nil => exact List.Sublist.slnil
  | cons e rest ih =>
      by_cases same : e.1 = key
      · simp [eraseEntry, same]
      · simpa [eraseEntry, same] using ih.cons₂ e

theorem lookupEntry_eq_none {key : String} {entries : List (String × α)} :
    lookupEntry key entries = none ↔ key ∉ entries.map Prod.fst := by
  induction entries with
  | nil => simp [lookupEntry]
  | cons e rest ih =>
      by_cases same : e.1 = key
      · simp [lookupEntry, same]
      · simp [lookupEntry, same, ih, Ne.symm same]

/-- In entries with unique keys, an entry is what its key looks up. -/
theorem lookupEntry_of_mem {key : String} {value : α} {entries : List (String × α)}
    (nodup : (entries.map Prod.fst).Nodup) (mem : (key, value) ∈ entries) :
    lookupEntry key entries = some value := by
  induction entries with
  | nil => cases mem
  | cons e rest ih =>
      rw [List.map_cons, List.nodup_cons] at nodup
      rcases List.mem_cons.1 mem with rfl | later
      · simp [lookupEntry]
      · have other : e.1 ≠ key := fun same => nodup.1 (same ▸ List.mem_map_of_mem Prod.fst later)
        simp [lookupEntry, other, ih nodup.2 later]

end Entries

/-- A Python dictionary with string keys: its entries in insertion order, keys unique. -/
structure PyDict (α : Type) where
  entries : List (String × α)
  keys_nodup : (entries.map Prod.fst).Nodup

namespace PyDict

variable {α : Type}

instance [DecidableEq α] : DecidableEq (PyDict α) := fun d e =>
  decidable_of_iff (d.entries = e.entries) (by cases d; cases e; simp)

/-- `{}`. -/
def empty : PyDict α := ⟨[], List.nodup_nil⟩

/-- The keys, in insertion order. -/
def keys (d : PyDict α) : List String := d.entries.map Prod.fst

/-- `d.get(key)`. -/
def get (d : PyDict α) (key : String) : Option α := lookupEntry key d.entries

/-- `d[key] = value`. -/
def setItem (d : PyDict α) (key : String) (value : α) : PyDict α where
  entries := setEntry key value d.entries
  keys_nodup := by
    rw [keys_setEntry]
    split
    · exact d.keys_nodup
    · rename_i absent
      exact List.nodup_append.2
        ⟨d.keys_nodup, List.nodup_singleton key, List.disjoint_singleton.2 absent⟩

/-- `del d[key]`, and the removal half of `d.pop(key, None)`. -/
def erase (d : PyDict α) (key : String) : PyDict α where
  entries := eraseEntry key d.entries
  keys_nodup := ((eraseEntry_sublist key d.entries).map Prod.fst).nodup d.keys_nodup

/-- `d.update(other)`: every entry of `other`, in its order. -/
def update (d other : PyDict α) : PyDict α :=
  other.entries.foldl (fun acc e => acc.setItem e.1 e.2) d

@[simp] theorem get_empty (key : String) : (empty : PyDict α).get key = none := rfl

@[simp] theorem entries_empty : (empty : PyDict α).entries = [] := rfl

@[simp]
theorem get_setItem_self (d : PyDict α) (key : String) (value : α) :
    (d.setItem key value).get key = some value :=
  lookupEntry_setEntry_self key value d.entries

theorem get_setItem_ne (d : PyDict α) {key other : String} (value : α)
    (different : other ≠ key) : (d.setItem key value).get other = d.get other :=
  lookupEntry_setEntry_ne value d.entries different

theorem get_setItem (d : PyDict α) (key other : String) (value : α) :
    (d.setItem key value).get other = if other = key then some value else d.get other := by
  split
  · subst other; exact get_setItem_self d key value
  · exact get_setItem_ne d value ‹_›

theorem get_erase_ne (d : PyDict α) {key other : String} (different : other ≠ key) :
    (d.erase key).get other = d.get other :=
  lookupEntry_eraseEntry_ne d.entries different

theorem get_of_mem {d : PyDict α} {key : String} {value : α} (mem : (key, value) ∈ d.entries) :
    d.get key = some value :=
  lookupEntry_of_mem d.keys_nodup mem

@[simp]
theorem get_erase_self (d : PyDict α) (key : String) : (d.erase key).get key = none := by
  obtain ⟨entries, nodup⟩ := d
  simp only [erase, get]
  induction entries with
  | nil => rfl
  | cons e rest ih =>
      rw [List.map_cons, List.nodup_cons] at nodup
      by_cases same : e.1 = key
      · simpa [eraseEntry, same, lookupEntry_eq_none] using nodup.1
      · simpa [eraseEntry, lookupEntry, same] using ih nodup.2

theorem get_erase (d : PyDict α) (key other : String) :
    (d.erase key).get other = if other = key then none else d.get other := by
  split
  · subst other; exact get_erase_self d key
  · exact get_erase_ne d ‹_›

/-- The loop of `d.update(other)`: a key of the entries takes its value there, any other key keeps
its value in `d`. -/
theorem get_foldl_setItem (entries : List (String × α)) (nodup : (entries.map Prod.fst).Nodup)
    (d : PyDict α) (key : String) :
    (entries.foldl (fun acc e => acc.setItem e.1 e.2) d).get key =
      (lookupEntry key entries).or (d.get key) := by
  induction entries generalizing d with
  | nil => rfl
  | cons e rest ih =>
      rw [List.map_cons, List.nodup_cons] at nodup
      rw [List.foldl_cons, ih nodup.2, get_setItem]
      by_cases same : e.1 = key
      · subst same
        simp [lookupEntry, lookupEntry_eq_none.2 nodup.1]
      · simp [lookupEntry, same, Ne.symm same]

theorem get_update (d other : PyDict α) (key : String) :
    (d.update other).get key = (other.get key).or (d.get key) :=
  get_foldl_setItem other.entries other.keys_nodup d key

end PyDict

/-- An environment (`os.environ`, `kwargs['env']`): strings to strings. -/
abbrev Env := PyDict String

/-- A connection payload, or the provisioner's `connection_info`. -/
abbrev Payload := PyDict PyVal

end RemoteProvisioners
