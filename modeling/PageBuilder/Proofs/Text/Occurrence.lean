import PageBuilder.Text.Search
/-! Occurrences of a part in a text: the first of them, a pass that replaces them from left to
right, and passes that go on until none is left. -/
namespace PageBuilder.Text

theorem occursFrom_cons_eq_false {part rest : List Char} {c : Char} :
    occursFrom part (c :: rest) = false ↔
      part.isPrefixOf (c :: rest) = false ∧ occursFrom part rest = false := by
  simp [occursFrom]

theorem occursFrom_iff {part text : List Char} :
    occursFrom part text = true ↔ part <:+: text := by
  induction text with
  | nil => simp [occursFrom]
  | cons c rest ih =>
    rw [occursFrom, Bool.or_eq_true, ih, List.infix_cons_iff, List.isPrefixOf_iff_prefix]

theorem occursFrom_eq_false_of_not_mem {part text : List Char} {c : Char} (held : c ∈ part)
    (h : c ∉ text) : occursFrom part text = false :=
  Bool.eq_false_iff.mpr fun found => h ((occursFrom_iff.mp found).subset held)

/-! ### The first occurrence -/

/-- What stands before the first occurrence of a part, and what behind it. -/
def splitFirst? (part : List Char) : List Char → Option (List Char × List Char)
  | [] => if part.isEmpty then some ([], []) else none
  | c :: rest =>
    if part.isPrefixOf (c :: rest) then some ([], (c :: rest).drop part.length)
    else (splitFirst? part rest).map fun found => (c :: found.1, found.2)

/-- A part is found behind a text that it does not even overlap. -/
theorem splitFirst?_append {part before : List Char} (given : part ≠ [])
    (free : occursFrom part (before ++ part.dropLast) = false) (rest : List Char) :
    splitFirst? part (before ++ (part ++ rest)) = some (before, rest) := by
  induction before with
  | nil =>
    obtain ⟨c, others, rfl⟩ := List.exists_cons_of_ne_nil given
    have found : (c :: others).isPrefixOf (c :: (others ++ rest)) = true :=
      List.isPrefixOf_iff_prefix.mpr (List.prefix_append (c :: others) rest)
    simp [splitFirst?, found]
  | cons c before ih =>
    rw [List.cons_append] at free
    obtain ⟨other, free⟩ := occursFrom_cons_eq_false.mp free
    have here : part.isPrefixOf (c :: (before ++ (part ++ rest))) = false := by
      refine Bool.eq_false_iff.mpr fun found => ?_
      have shorter : part <+: c :: (before ++ part.dropLast) := by
        refine List.prefix_of_prefix_length_le (List.isPrefixOf_iff_prefix.mp found) ?_ ?_
        · exact (List.prefix_cons_inj c).mpr ((List.prefix_append_right_inj before).mpr
            ((List.dropLast_prefix part).trans (List.prefix_append part rest)))
        · have size : 0 < part.length := List.length_pos_iff.mpr given
          simp only [List.length_cons, List.length_append, List.length_dropLast]
          omega
      rw [List.isPrefixOf_iff_prefix.mpr shorter] at other
      cases other
    rw [List.cons_append, splitFirst?, here, ih free]
    rfl

/-! ### One pass -/

/-- Replaces every occurrence, where the first `skip` characters are covered by one before. -/
def replaceFrom (part put : List Char) : Nat → List Char → List Char
  | _, [] => []
  | skip + 1, _ :: rest => replaceFrom part put skip rest
  | 0, c :: rest =>
    if part.isPrefixOf (c :: rest) then put ++ replaceFrom part put (part.length - 1) rest
    else c :: replaceFrom part put 0 rest

/-- The text with `put` in the place of every occurrence of a part, from left to right.
Occurrences that overlap an earlier one are passed over. -/
def replaceEach (part put text : List Char) : List Char :=
  replaceFrom part put 0 text

section Pass

variable {part put : List Char}

theorem replaceFrom_eq (skip : Nat) (text : List Char) :
    replaceFrom part put skip text = replaceEach part put (text.drop skip) := by
  induction skip generalizing text with
  | zero => rfl
  | succ skip ih =>
    cases text with
    | nil => rfl
    | cons c rest => rw [replaceFrom, ih, List.drop_succ_cons]

theorem replaceEach_append (given : part ≠ []) (rest : List Char) :
    replaceEach part put (part ++ rest) = put ++ replaceEach part put rest := by
  obtain ⟨c, others, rfl⟩ := List.exists_cons_of_ne_nil given
  have found : (c :: others).isPrefixOf (c :: (others ++ rest)) = true :=
    List.isPrefixOf_iff_prefix.mpr (List.prefix_append (c :: others) rest)
  rw [List.cons_append, replaceEach, replaceFrom, if_pos found, replaceFrom_eq]
  simp

theorem replaceEach_cons {c : Char} {rest : List Char}
    (other : part.isPrefixOf (c :: rest) = false) :
    replaceEach part put (c :: rest) = c :: replaceEach part put rest := by
  rw [replaceEach, replaceFrom, other]
  rfl

/-- A pass goes over a text either by a whole part or by one character. -/
theorem pass_induction {motive : List Char → Prop} (part : List Char) (given : part ≠ [])
    (nil : motive [])
    (found : ∀ rest, motive rest → motive (part ++ rest))
    (passed : ∀ c rest, part.isPrefixOf (c :: rest) = false → motive rest → motive (c :: rest))
    (text : List Char) : motive text := by
  induction size : text.length using Nat.strongRecOn generalizing text with
  | _ n ih =>
    cases text with
    | nil => exact nil
    | cons c rest =>
      cases start : part.isPrefixOf (c :: rest) with
      | true =>
        obtain ⟨behind, whole⟩ := List.isPrefixOf_iff_prefix.mp start
        have shorter : behind.length < n := by
          have lengths := congrArg List.length whole
          have positive : 0 < part.length := List.length_pos_iff.mpr given
          rw [List.length_append, size] at lengths
          omega
        exact whole ▸ found behind (ih _ shorter behind rfl)
      | false =>
        refine passed c rest start (ih rest.length ?_ rest rfl)
        rw [← size, List.length_cons]
        exact Nat.lt_succ_self _

theorem length_le_replaceEach (given : part ≠ []) (longer : part.length ≤ put.length)
    (text : List Char) : text.length ≤ (replaceEach part put text).length := by
  induction text using pass_induction part given with
  | nil => exact Nat.le_refl _
  | found rest ih =>
    rw [replaceEach_append given, List.length_append, List.length_append]
    exact Nat.add_le_add longer ih
  | passed c rest other ih =>
    rw [replaceEach_cons other]
    exact Nat.succ_le_succ ih

/-- What is put in the place of a part may be longer than it; then a pass that finds the part
makes the text longer. -/
theorem length_lt_replaceEach (given : part ≠ []) (longer : part.length < put.length)
    {text : List Char} (h : occursFrom part text = true) :
    text.length < (replaceEach part put text).length := by
  induction text using pass_induction part given with
  | nil => simp [occursFrom, given] at h
  | found rest _ =>
    rw [replaceEach_append given, List.length_append, List.length_append]
    exact Nat.add_lt_add_of_lt_of_le longer (length_le_replaceEach given (Nat.le_of_lt longer) rest)
  | passed c rest other ih =>
    rw [occursFrom, other, Bool.false_or] at h
    rw [replaceEach_cons other]
    exact Nat.succ_lt_succ (ih h)

end Pass

/-! ### Passes until none is left -/

/-- As long as the part occurs in the text a pass is made over it; the last text is `result`. -/
inductive Settles (part put : List Char) : List Char → List Char → Prop where
  | done {text : List Char} (free : occursFrom part text = false) : Settles part put text text
  | again {text result : List Char} (found : occursFrom part text = true)
    (later : Settles part put (replaceEach part put text) result) : Settles part put text result

theorem Settles.unique {part put text result other : List Char}
    (h : Settles part put text result) (h' : Settles part put text other) : result = other := by
  induction h with
  | done free =>
    cases h' with
    | done => rfl
    | again found => rw [free] at found; cases found
  | again found _ ih =>
    cases h' with
    | done free => rw [free] at found; cases found
    | again _ later => exact ih later

end PageBuilder.Text
