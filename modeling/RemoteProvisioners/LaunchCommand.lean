import RemoteProvisioners.State

/-!
# The launch command

`RemoteProvisionerBase.pre_launch` builds the kernel's launch command from the kernel spec's
`argv`. When any of `response_address`, `port_range`, `kernel_id` and `public_key` is set, it
copies the keyword arguments into a namespace, sets there those of the four that are set, and
rewrites every argument with `re.sub(r'{([A-Za-z0-9_]+)}', from_ns, arg)`, where `from_ns`
returns the namespace's value for the placeholder's name, or the placeholder unchanged
(`launchCommand`).

`re.sub` tries the pattern at each position from the left: a match is replaced whole and the scan
goes on after it, any other character is copied. The group is greedy and a name character is
never a `}`, so a match at a position is the longest run of name characters after a `{`, when
a `}` follows it (`matchPlaceholder`). The scan cuts an argument into copied characters and
placeholders (`pieces`), which spell the argument back (`spell_pieces`). `re.sub` then joins a
list: each run of copied characters as one string, and each replacement that is not `None`
(`joinItems`); the join raises a `TypeError` naming the first item that is not a string
(`joinFrom`).

**The substitution.** When every placeholder's value is a string or `None`, the argument comes out
with each placeholder replaced by its string, or dropped for `None`, and every other character
kept; otherwise `re.sub` raises a `TypeError` (`subPlaceholders_spec`). A placeholder whose name
is no key of the namespace is put back as it was, so an argument none of whose placeholders is
known comes out unchanged, whatever braces it holds (`subPlaceholders_of_unbound`).
-/

set_option autoImplicit false

namespace RemoteProvisioners

/-! ## The placeholder pattern -/

/-- The characters of `[A-Za-z0-9_]`. -/
def isNameChar (c : Char) : Bool := c.isUpper || c.isLower || c.isDigit || c == '_'

/-- The match of `{([A-Za-z0-9_]+)}` at the start of a text: the group and what follows the
closing brace. Backtracking into the greedy group cannot help, since the character before the
brace would then be a name character. -/
def matchPlaceholder : List Char → Option (List Char × List Char)
  | '{' :: rest =>
      match rest.takeWhile isNameChar, rest.dropWhile isNameChar with
      | c :: name, '}' :: after => some (c :: name, after)
      | _, _ => none
  | _ => none

theorem matchPlaceholder_eq_some {text name after : List Char} :
    matchPlaceholder text = some (name, after) ↔
      name ≠ [] ∧ (∀ c ∈ name, isNameChar c) ∧ text = '{' :: (name ++ '}' :: after) := by
  constructor
  · intro found
    unfold matchPlaceholder at found
    split at found
    · next rest =>
        have split := List.takeWhile_append_dropWhile isNameChar rest
        split at found
        · next c taken after' taken_eq dropped_eq =>
            cases found
            refine ⟨List.cons_ne_nil _ _, fun d mem => List.mem_takeWhile_imp (taken_eq ▸ mem), ?_⟩
            rw [taken_eq, dropped_eq] at split
            rw [← split]
        · cases found
    · cases found
  · rintro ⟨nonempty, named, rfl⟩
    have closing : isNameChar '}' = false := rfl
    obtain ⟨c, name, rfl⟩ := List.exists_cons_of_ne_nil nonempty
    simp only [matchPlaceholder, List.takeWhile_append_of_pos named,
      List.dropWhile_append_of_pos named, List.takeWhile_cons, List.dropWhile_cons, closing,
      Bool.false_eq_true, ↓reduceIte, List.append_nil]

theorem matchPlaceholder_length {text name after : List Char}
    (found : matchPlaceholder text = some (name, after)) : after.length < text.length := by
  obtain ⟨-, -, rfl⟩ := matchPlaceholder_eq_some.1 found
  simp
  omega

/-! ## The pieces of an argument -/

/-- A piece of an argument as `re.sub` sees it: a character it copies, or a placeholder match,
by the placeholder's name. -/
inductive Piece where
  | char (c : Char)
  | placeholder (name : List Char)
  deriving DecidableEq, Repr

/-- The text a piece stands for. -/
def Piece.source : Piece → List Char
  | .char c => [c]
  | .placeholder name => '{' :: (name ++ ['}'])

/-- The text a list of pieces stands for. -/
def spell : List Piece → List Char
  | [] => []
  | piece :: rest => piece.source ++ spell rest

/-- The scan of `re.sub`: at each position, a placeholder match is taken whole, and otherwise
the character is copied. -/
def pieces : List Char → List Piece
  | [] => []
  | c :: rest =>
      match _found : matchPlaceholder (c :: rest) with
      | some (name, after) => .placeholder name :: pieces after
      | none => .char c :: pieces rest
termination_by text => text.length
decreasing_by
  all_goals simp_wf
  exact matchPlaceholder_length _found

theorem pieces_cons_of_match {c : Char} {rest name after : List Char}
    (found : matchPlaceholder (c :: rest) = some (name, after)) :
    pieces (c :: rest) = .placeholder name :: pieces after := by
  rw [pieces, found]

theorem pieces_cons_of_none {c : Char} {rest : List Char}
    (missed : matchPlaceholder (c :: rest) = none) : pieces (c :: rest) = .char c :: pieces rest := by
  rw [pieces, missed]

/-- What a scan leaves: every placeholder is a nonempty run of name characters, and no copied
character is where a placeholder match starts. -/
inductive Scanned : List Piece → Prop
  | nil : Scanned []
  | placeholder {name : List Char} {rest : List Piece} :
      name ≠ [] → (∀ c ∈ name, isNameChar c) → Scanned rest →
      Scanned (.placeholder name :: rest)
  | char {c : Char} {rest : List Piece} :
      matchPlaceholder (c :: spell rest) = none → Scanned rest → Scanned (.char c :: rest)

theorem spell_pieces (text : List Char) : spell (pieces text) = text := by
  induction text using pieces.induct with
  | case1 => simp [pieces, spell]
  | case2 c rest name after found ih =>
      obtain ⟨-, -, same⟩ := matchPlaceholder_eq_some.1 found
      rw [pieces_cons_of_match found, same]
      simp [spell, Piece.source, ih]
  | case3 c rest found ih => simp [pieces_cons_of_none found, spell, Piece.source, ih]

theorem pieces_spell {ps : List Piece} (scanned : Scanned ps) : pieces (spell ps) = ps := by
  induction scanned with
  | nil => simp [spell, pieces]
  | @placeholder name rest nonempty named _ ih =>
      have text : spell (.placeholder name :: rest) = '{' :: (name ++ '}' :: spell rest) := by
        simp [spell, Piece.source]
      rw [text, pieces_cons_of_match (matchPlaceholder_eq_some.2 ⟨nonempty, named, rfl⟩), ih]
  | @char c rest missed _ ih => rw [spell, Piece.source, List.singleton_append,
      pieces_cons_of_none missed, ih]

/-! ## The substitution -/

/-- `from_ns(match)`: the namespace's value for the placeholder's name, else the placeholder as
it was matched. -/
def fromNs (ns : PyDict PyVal) (name : List Char) : PyVal :=
  (ns.get (String.mk name)).getD (.str (String.mk (Piece.placeholder name).source))

/-- A run of copied characters, reversed, as an item of the join: none when it is empty. -/
def runItem (run : List Char) : List PyVal := if run = [] then [] else [.str (String.mk run.reverse)]

/-- A replacement as an item of the join: none for `None`. -/
def replacementItem : PyVal → List PyVal
  | .none => []
  | value => [value]

/-- The list `re.sub` joins for the pieces that follow a run `run` of copied characters
(reversed): each run of copied characters as one string, and each replacement but `None`. -/
def joinItems (ns : PyDict PyVal) : List Char → List Piece → List PyVal
  | run, [] => runItem run
  | run, .char c :: rest => joinItems ns (c :: run) rest
  | run, .placeholder name :: rest =>
      runItem run ++ replacementItem (fromNs ns name) ++ joinItems ns [] rest

/-- `''.join(items)` from the item at `index` on: the items' texts, or the `TypeError` for the
first item that is not a string. -/
def joinFrom (index : Nat) : List PyVal → Except Exn (List Char)
  | [] => .ok []
  | .str s :: rest => (s.toList ++ ·) <$> joinFrom (index + 1) rest
  | item :: _ =>
      let typeName := item.typeName
      .error (.typeError s!"sequence item {index}: expected str instance, {typeName} found")

example : joinFrom 0 [.str "-f", .other "dict" true] =
    .error (.typeError "sequence item 1: expected str instance, dict found") := by
  decide

/-- `pat.sub(from_ns, arg)`. -/
def subPlaceholders (ns : PyDict PyVal) (arg : String) : Except Exn String :=
  String.mk <$> joinFrom 0 (joinItems ns [] (pieces arg.toList))

/-- A value that `re.sub` can put in place of a match. -/
def PyVal.IsReplacement : PyVal → Prop
  | .none => True
  | .str _ => True
  | _ => False

/-- The text a piece becomes when its value is a replacement. -/
def Piece.text (ns : PyDict PyVal) : Piece → List Char
  | .char c => [c]
  | .placeholder name =>
      match fromNs ns name with
      | .str s => s.toList
      | _ => []

/-- A join over two lists: the first one's texts, then the second's from its index on, or the
first `TypeError`. -/
theorem joinFrom_append (index : Nat) (first second : List PyVal) :
    joinFrom index (first ++ second) =
      match joinFrom index first with
      | .ok text => (text ++ ·) <$> joinFrom (index + first.length) second
      | .error e => .error e := by
  induction first generalizing index with
  | nil => simp [joinFrom]
  | cons item rest ih =>
      cases item with
      | str s =>
          simp only [List.cons_append, joinFrom, List.append_eq, ih]
          rcases joinFrom (index + 1) rest with e | more
          · rfl
          · show _ = (fun x => (s.toList ++ more) ++ x) <$> _
            simp only [Functor.map_map, List.length_cons, List.append_assoc,
              Nat.add_right_comm index 1, Nat.add_assoc]
      | _ => rfl

theorem joinFrom_append_ok {index : Nat} {first : List PyVal} {text : List Char}
    (joined : joinFrom index first = .ok text) (second : List PyVal) :
    joinFrom index (first ++ second) =
      (text ++ ·) <$> joinFrom (index + first.length) second := by
  rw [joinFrom_append, joined]

theorem joinFrom_append_error {index : Nat} {first : List PyVal} {e : Exn}
    (raised : joinFrom index first = .error e) (second : List PyVal) :
    joinFrom index (first ++ second) = .error e := by
  rw [joinFrom_append, raised]

theorem joinFrom_runItem (index : Nat) (run : List Char) :
    joinFrom index (runItem run) = .ok run.reverse := by
  unfold runItem
  split
  · subst run; rfl
  · simp [joinFrom, Functor.map, Except.map]

/-- A replacement joins as its text when it is a string or `None`, and raises the `TypeError`
otherwise. -/
theorem joinFrom_replacementItem (index : Nat) (value : PyVal) :
    (value.IsReplacement → joinFrom index (replacementItem value) =
        .ok (match value with | .str s => s.toList | _ => [])) ∧
      (¬ value.IsReplacement →
        ∃ message, joinFrom index (replacementItem value) = .error (.typeError message)) := by
  cases value <;> simp [PyVal.IsReplacement, replacementItem, joinFrom, Functor.map, Except.map]

/-- **The join.** After a run of copied characters, the pieces join as the run followed by their
texts when every placeholder's value is a string or `None`, and raise a `TypeError` otherwise. -/
theorem joinFrom_joinItems (ns : PyDict PyVal) (ps : List Piece) (run : List Char) (index : Nat) :
    ((∀ name, .placeholder name ∈ ps → (fromNs ns name).IsReplacement) →
      joinFrom index (joinItems ns run ps) = .ok (run.reverse ++ (ps.map (Piece.text ns)).flatten)) ∧
    ((∃ name, .placeholder name ∈ ps ∧ ¬ (fromNs ns name).IsReplacement) →
      ∃ message, joinFrom index (joinItems ns run ps) = .error (.typeError message)) := by
  induction ps generalizing run index with
  | nil => exact ⟨fun _ => by simp [joinItems, joinFrom_runItem], fun ⟨_, mem, _⟩ => nomatch mem⟩
  | cons piece rest ih =>
    cases piece with
    | char c =>
        obtain ⟨restOk, restBad⟩ := ih (c :: run) index
        refine ⟨fun all => ?_, fun ⟨name, mem, bad⟩ => restBad ⟨name, ?_, bad⟩⟩
        · rw [joinItems, restOk fun name mem => all name (List.mem_cons_of_mem _ mem)]
          simp [Piece.text]
        · simpa using mem
    | placeholder name =>
        have start : joinFrom index (joinItems ns run (.placeholder name :: rest)) =
            (run.reverse ++ ·) <$> joinFrom (index + (runItem run).length)
              (replacementItem (fromNs ns name) ++ joinItems ns [] rest) := by
          rw [joinItems, List.append_assoc, joinFrom_append_ok (joinFrom_runItem index run)]
        obtain ⟨valueOk, valueBad⟩ :=
          joinFrom_replacementItem (index + (runItem run).length) (fromNs ns name)
        by_cases good : (fromNs ns name).IsReplacement
        · obtain ⟨restOk, restBad⟩ := ih []
            (index + (runItem run).length + (replacementItem (fromNs ns name)).length)
          rw [start, joinFrom_append_ok (valueOk good)]
          refine ⟨fun all => ?_, fun ⟨other, mem, bad⟩ => ?_⟩
          · rw [restOk fun other mem => all other (List.mem_cons_of_mem _ mem)]
            simp [Piece.text]
          · rcases List.mem_cons.1 mem with same | later
            · cases same
              exact absurd good bad
            · obtain ⟨message, raised⟩ := restBad ⟨other, later, bad⟩
              exact ⟨message, by rw [raised]; rfl⟩
        · obtain ⟨message, raised⟩ := valueBad good
          rw [start, joinFrom_append_error raised]
          exact ⟨fun all => absurd (all name (List.mem_cons_self _ _)) good,
            fun _ => ⟨message, rfl⟩⟩

/-- **What `re.sub` makes of an argument.** When every placeholder's value is a string or `None`,
the argument with each placeholder replaced by its string, or dropped for `None`, and every other
character kept; otherwise a `TypeError`. -/
theorem subPlaceholders_spec (ns : PyDict PyVal) (arg : String) :
    match subPlaceholders ns arg with
    | .ok out => out.toList = ((pieces arg.toList).map (Piece.text ns)).flatten ∧
        ∀ name, .placeholder name ∈ pieces arg.toList → (fromNs ns name).IsReplacement
    | .error e => (∃ message, e = .typeError message) ∧
        ∃ name, .placeholder name ∈ pieces arg.toList ∧ ¬ (fromNs ns name).IsReplacement := by
  obtain ⟨joined, raised⟩ := joinFrom_joinItems ns (pieces arg.toList) [] 0
  by_cases all : ∀ name, .placeholder name ∈ pieces arg.toList → (fromNs ns name).IsReplacement
  · simp only [subPlaceholders, joined all]
    exact ⟨rfl, all⟩
  · push_neg at all
    obtain ⟨message, failed⟩ := raised all
    simp only [subPlaceholders, failed]
    exact ⟨⟨message, rfl⟩, all⟩

theorem subPlaceholders_error {ns : PyDict PyVal} {arg : String} {e : Exn}
    (raised : subPlaceholders ns arg = .error e) : ∃ message, e = .typeError message := by
  have spec := subPlaceholders_spec ns arg
  rw [raised] at spec
  exact spec.1

theorem mapM_subPlaceholders_error (ns : PyDict PyVal) {e : Exn} (args : List String)
    (raised : args.mapM (subPlaceholders ns) = .error e) : ∃ message, e = .typeError message := by
  induction args with
  | nil => simp only [List.mapM_nil, pure, Except.pure] at raised; cases raised
  | cons arg rest ih =>
      rcases sub : subPlaceholders ns arg with e' | out <;>
        simp only [List.mapM_cons, sub, bind, Except.bind, pure, Except.pure] at raised
      · cases raised
        exact subPlaceholders_error sub
      · split at raised
        · cases raised; exact ih ‹_›
        · cases raised

theorem Piece.text_of_unbound {ns : PyDict PyVal} {piece : Piece}
    (unbound : ∀ name, piece = .placeholder name → ns.get (String.mk name) = none) :
    piece.text ns = piece.source := by
  cases piece with
  | char c => rfl
  | placeholder name => simp [Piece.text, fromNs, unbound name rfl, Piece.source]

theorem flatten_map_source (ps : List Piece) : (ps.map Piece.source).flatten = spell ps := by
  induction ps with
  | nil => rfl
  | cons piece rest ih => simp [spell, ih]

/-- **Unknown placeholders are kept.** An argument none of whose placeholders names a key of the
namespace comes out of `re.sub` as it went in, whatever braces it holds. -/
theorem subPlaceholders_of_unbound (ns : PyDict PyVal) (arg : String)
    (unbound : ∀ name, .placeholder name ∈ pieces arg.toList → ns.get (String.mk name) = none) :
    subPlaceholders ns arg = .ok arg := by
  have kept : ∀ name, .placeholder name ∈ pieces arg.toList → (fromNs ns name).IsReplacement :=
    fun name mem => by simp [fromNs, unbound name mem, PyVal.IsReplacement]
  have same : (pieces arg.toList).map (Piece.text ns) = (pieces arg.toList).map Piece.source :=
    List.map_congr_left fun piece mem =>
      Piece.text_of_unbound fun name same => unbound name (same ▸ mem)
  simp only [subPlaceholders, (joinFrom_joinItems ns _ [] 0).1 kept, same, flatten_map_source,
    spell_pieces, List.reverse_nil, List.nil_append]
  rfl

/-- A `{kernel_id}` placeholder is kept when the namespace has only `port_range`. -/
theorem subPlaceholders_keeps_unknown_kernel_id :
    (∀ name, .placeholder name ∈ pieces "\x7bkernel_id\x7d".toList →
      (PyDict.empty.setItem "port_range" (PyVal.str "0..0")).get (String.mk name) = none) ∧
    subPlaceholders (PyDict.empty.setItem "port_range" (.str "0..0")) "\x7bkernel_id\x7d" =
      .ok "\x7bkernel_id\x7d" := by
  have scanned : pieces "\x7bkernel_id\x7d".toList = [.placeholder "kernel_id".toList] :=
    pieces_spell (.placeholder (by decide) (by decide) .nil :
      Scanned [.placeholder "kernel_id".toList])
  have unbound : ∀ name, .placeholder name ∈ pieces "\x7bkernel_id\x7d".toList →
      (PyDict.empty.setItem "port_range" (PyVal.str "0..0")).get (String.mk name) = none := by
    intro name mem
    rw [scanned, List.mem_singleton, Piece.placeholder.injEq] at mem
    subst mem
    decide
  exact ⟨unbound, subPlaceholders_of_unbound _ _ unbound⟩

/-! ## The command -/

section Command

variable (cfg : Settings) (kwargs : PyDict PyVal)

/-- The namespace of `pre_launch`: a copy of the keyword arguments, in which `response_address`,
`public_key`, `port_range` and `kernel_id` are set, in that order, from those of them that are
set. -/
def launchNamespace : PyDict PyVal :=
  let ns := if cfg.responseAddress ≠ "" then
      kwargs.setItem "response_address" (.str cfg.responseAddress)
    else kwargs
  let ns := if cfg.publicKey ≠ "" then ns.setItem "public_key" (.str cfg.publicKey) else ns
  let ns := if cfg.portRange ≠ "" then ns.setItem "port_range" (.str cfg.portRange) else ns
  if cfg.kernelId ≠ "" then ns.setItem "kernel_id" (.str cfg.kernelId) else ns

/-- Whether `pre_launch` templates the command at all. -/
def TemplatesCommand : Prop :=
  cfg.responseAddress ≠ "" ∨ cfg.portRange ≠ "" ∨ cfg.kernelId ≠ "" ∨ cfg.publicKey ≠ ""

instance : Decidable (TemplatesCommand cfg) := inferInstanceAs (Decidable (_ ∨ _))

/-- The command `pre_launch` hands to `KernelProvisionerBase.pre_launch`, from the kernel spec's
`argv` and the keyword arguments `kwargs` it was called with. -/
def launchCommand : Except Exn (List String) :=
  if TemplatesCommand cfg then cfg.kernelArgv.mapM (subPlaceholders (launchNamespace cfg kwargs))
  else .ok cfg.kernelArgv

/-- Templating the command raises nothing but the `TypeError` of `re.sub`. -/
theorem launchCommand_error_typeError {e : Exn} (raised : launchCommand cfg kwargs = .error e) :
    ∃ message, e = .typeError message := by
  unfold launchCommand at raised
  split at raised
  · exact mapM_subPlaceholders_error _ _ raised
  · cases raised

end Command

end RemoteProvisioners
