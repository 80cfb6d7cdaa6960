import PageBuilder.Proofs.Text.Occurrence
import PageBuilder.Text.Comment
/-! What texts inside comments cannot hold: neither `>` nor `--` inside `<!-- … -->`, nor `*/`
inside `/* … */`. They are what passes over the text come to that put a space into every pair
of such characters, and nothing but spaces is put in. -/
namespace PageBuilder.Text

/-! ### Spaces that are put in -/

/-- The second text is the first one with spaces put into it. -/
inductive Spaced : List Char → List Char → Prop where
  | nil : Spaced [] []
  | keep (c : Char) {text spaced : List Char} (h : Spaced text spaced) :
    Spaced (c :: text) (c :: spaced)
  | space {text spaced : List Char} (h : Spaced text spaced) : Spaced text (' ' :: spaced)

namespace Spaced

variable {text spaced : List Char}

theorem length_le (h : Spaced text spaced) : text.length ≤ spaced.length := by
  induction h with
  | nil => exact Nat.le_refl _
  | keep _ _ ih => exact Nat.succ_le_succ ih
  | space _ ih => exact Nat.le_succ_of_le ih

theorem mem (h : Spaced text spaced) {c : Char} (held : c ∈ spaced) : c = ' ' ∨ c ∈ text := by
  induction h with
  | nil => cases held
  | keep d _ ih =>
    rcases List.mem_cons.mp held with rfl | held
    · simp
    · exact (ih held).imp_right (List.mem_cons_of_mem d)
  | space _ ih =>
    rcases List.mem_cons.mp held with rfl | held
    · exact .inl rfl
    · exact ih held

end Spaced

/-! ### Pairs of characters -/

/-- A space between the two characters wherever the second stands behind the first. -/
def partPairs (first second : Char) : List Char → List Char
  | [] => []
  | c :: rest =>
    c :: ((if c = first ∧ rest.head? = some second then [' '] else []) ++
      partPairs first second rest)

theorem partPairs_cons_of_apart {first second c : Char} {rest : List Char}
    (apart : ∀ tail, c = first → rest = second :: tail → False) :
    partPairs first second (c :: rest) = c :: partPairs first second rest := by
  have single : ¬(c = first ∧ rest.head? = some second) := fun ⟨hc, hr⟩ =>
    (List.head?_eq_some_iff.mp hr).elim fun tail ht => apart tail hc ht
  rw [partPairs, if_neg single, List.nil_append]

theorem partHyphens_eq (text : List Char) : partHyphens text = partPairs '-' '-' text := by
  fun_induction partHyphens text with
  | case1 rest ih => simp [partPairs, ih]
  | case2 c rest apart ih => rw [partPairs_cons_of_apart apart, ih]
  | case3 => rfl

theorem partStarSlash_eq (text : List Char) : partStarSlash text = partPairs '*' '/' text := by
  fun_induction partStarSlash text with
  | case1 rest ih => simp [partPairs, ih]
  | case2 c rest apart ih => rw [partPairs_cons_of_apart apart, ih]
  | case3 => rfl

section Pairs

variable {first second : Char}

theorem head?_partPairs (text : List Char) : (partPairs first second text).head? = text.head? := by
  cases text <;> rfl

theorem spaced_partPairs (text : List Char) : Spaced text (partPairs first second text) := by
  induction text with
  | nil => exact .nil
  | cons c rest ih =>
    refine .keep c ?_
    split
    · exact ih.space
    · exact ih

theorem isPrefixOf_pair {c : Char} {rest : List Char} :
    [first, second].isPrefixOf (c :: rest) = true ↔ c = first ∧ rest.head? = some second := by
  cases rest with
  | nil => simp [List.isPrefixOf]
  | cons d rest => simp [List.isPrefixOf, eq_comm (a := c), eq_comm (a := d)]

theorem occursFrom_partPairs (hf : first ≠ ' ') (hs : second ≠ ' ') (text : List Char) :
    occursFrom [first, second] (partPairs first second text) = false := by
  induction text with
  | nil => rfl
  | cons c rest ih =>
    rw [partPairs, occursFrom_cons_eq_false, Bool.eq_false_iff, Ne, isPrefixOf_pair]
    split
    · -- The space is no second character, and no first one to what is behind it.
      refine ⟨fun pair => hs (Option.some.inj pair.2).symm, occursFrom_cons_eq_false.mpr ⟨?_, ih⟩⟩
      rw [Bool.eq_false_iff, Ne, isPrefixOf_pair]
      exact fun pair => hf pair.1.symm
    · rename_i apart
      rw [List.nil_append, head?_partPairs]
      exact ⟨apart, ih⟩

/-- Texts without the pair have none where they meet, unless its second half begins there. -/
theorem occursFrom_pair_append {text more : List Char}
    (free : occursFrom [first, second] text = false)
    (later : occursFrom [first, second] more = false) (apart : more.head? ≠ some second) :
    occursFrom [first, second] (text ++ more) = false := by
  induction text with
  | nil => exact later
  | cons c rest ih =>
    rw [occursFrom_cons_eq_false, Bool.eq_false_iff, Ne, isPrefixOf_pair] at free
    rw [List.cons_append, occursFrom_cons_eq_false, Bool.eq_false_iff, Ne, isPrefixOf_pair]
    refine ⟨fun pair => ?_, ih free.2⟩
    cases rest with
    | nil => exact apart pair.2
    | cons d others => exact free.1 pair

theorem partPairs_of_free {text : List Char} (free : occursFrom [first, second] text = false) :
    partPairs first second text = text := by
  induction text with
  | nil => rfl
  | cons c rest ih =>
    rw [occursFrom_cons_eq_false, Bool.eq_false_iff, Ne, isPrefixOf_pair] at free
    rw [partPairs, if_neg free.1, ih free.2, List.nil_append]

theorem head?_replaceEach_pair (text : List Char) :
    (replaceEach [first, second] [first, ' ', second] text).head? = text.head? := by
  induction text using pass_induction [first, second] (by simp) with
  | nil => rfl
  | found rest _ => rw [replaceEach_append (by simp)]; rfl
  | passed c rest other _ => rw [replaceEach_cons other]; rfl

/-- A pass parts some of the pairs, and leaves the others for later. -/
theorem partPairs_replaceEach (hs : second ≠ ' ') (hf : first ≠ ' ') (text : List Char) :
    partPairs first second (replaceEach [first, second] [first, ' ', second] text) =
      partPairs first second text := by
  induction text using pass_induction [first, second] (by simp) with
  | nil => rfl
  | found rest ih =>
    rw [replaceEach_append (by simp)]
    simp [partPairs, head?_replaceEach_pair, ih, hs.symm, hf.symm]
  | passed c rest other ih =>
    rw [replaceEach_cons other, partPairs, partPairs, head?_replaceEach_pair, ih]

/-- Each pass leaves fewer pairs, which are as many as the spaces that are still to come. -/
theorem settles_partPairs (hf : first ≠ ' ') (hs : second ≠ ' ') (text : List Char) :
    Settles [first, second] [first, ' ', second] text (partPairs first second text) := by
  induction pairs : (partPairs first second text).length - text.length
    using Nat.strongRecOn generalizing text with
  | _ n ih =>
    cases found : occursFrom [first, second] text with
    | false =>
      rw [partPairs_of_free found]
      exact .done found
    | true =>
      have same := partPairs_replaceEach hs hf text
      have longer : text.length < (replaceEach [first, second] [first, ' ', second] text).length :=
        length_lt_replaceEach (by simp) (by simp) found
      have room : (replaceEach [first, second] [first, ' ', second] text).length ≤
          (partPairs first second text).length := same ▸ (spaced_partPairs _).length_le
      refine .again found (same ▸ ih _ ?_ _ rfl)
      rw [same]
      omega

end Pairs

/-! ### Texts made safe -/

/-- Passes over the text that part the pair end, in this result and no other, where no pair is
left and which is the text but for spaces. -/
structure Parted (first second : Char) (text result : List Char) : Prop where
  settles : ∀ last, Settles [first, second] [first, ' ', second] text last ↔ last = result
  free : occursFrom [first, second] result = false
  spaced : Spaced text result

theorem parted_partPairs {first second : Char} (hf : first ≠ ' ') (hs : second ≠ ' ')
    (text : List Char) : Parted first second text (partPairs first second text) where
  settles last := by
    have ends := settles_partPairs hf hs text
    exact ⟨fun h => h.unique ends, fun h => h ▸ ends⟩
  free := occursFrom_partPairs hf hs text
  spaced := spaced_partPairs text

/-- The text with an entity for each `>`. -/
def closeless (text : List Char) : List Char :=
  replaceEach ['>'] ['&', 'g', 't', ';'] text

theorem closeless_eq_flatMap (text : List Char) :
    closeless text = text.flatMap fun c => if c = '>' then ['&', 'g', 't', ';'] else [c] := by
  unfold closeless
  induction text using pass_induction ['>'] (by simp) with
  | nil => rfl
  | found rest ih => rw [replaceEach_append (by simp), ih]; rfl
  | passed c rest other ih =>
    have plain : c ≠ '>' := fun same => by simp [same, List.isPrefixOf] at other
    rw [replaceEach_cons other, ih, List.flatMap_cons, if_neg plain]
    rfl

theorem not_mem_closeless (text : List Char) : '>' ∉ closeless text := by
  rw [closeless_eq_flatMap]
  intro h
  obtain ⟨c, _, h⟩ := List.mem_flatMap.mp h
  by_cases hc : c = '>'
  · simp [hc] at h
  · rw [if_neg hc, List.mem_singleton] at h
    exact hc h.symm

theorem parted_htmlCommentChars (text : List Char) :
    Parted '-' '-' (closeless text) (htmlCommentChars text) := by
  rw [htmlCommentChars, partHyphens_eq, ← closeless_eq_flatMap]
  exact parted_partPairs (by decide) (by decide) (closeless text)

theorem parted_partStarSlash (text : List Char) : Parted '*' '/' text (partStarSlash text) := by
  rw [partStarSlash_eq]
  exact parted_partPairs (by decide) (by decide) text

theorem not_mem_htmlCommentChars (text : List Char) : '>' ∉ htmlCommentChars text := by
  intro h
  rcases (parted_htmlCommentChars text).spaced.mem h with h | h
  · exact absurd h (by decide)
  · exact not_mem_closeless text h

theorem occursFrom_partStarSlash (text : List Char) :
    occursFrom ['*', '/'] (partStarSlash text) = false :=
  (parted_partStarSlash text).free

end PageBuilder.Text
