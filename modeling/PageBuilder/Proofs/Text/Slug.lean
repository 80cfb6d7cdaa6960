import Mathlib.Computability.RegularExpressions
import PageBuilder.Proofs.Text.Letters
import PageBuilder.Text.Slug
/-! Slugs as the runs of letters and digits in a text, joined by hyphens. They are the matches
of a regular expression, and just the texts that are slugs of themselves. -/
namespace PageBuilder.Text

/-! ### Runs -/

/-- The runs of letters and digits in a text, each as long as it can be. -/
def runs (text : List Char) : List (List Char) :=
  (text.splitOnP fun c => !c.isAlphanum).filter (· ≠ [])

def lowered (words : List (List Char)) : List (List Char) :=
  words.map fun word => word.map Char.toLower

/-- The words with a hyphen between neighbours. -/
def hyphenated (words : List (List Char)) : List Char :=
  ['-'].intercalate words

theorem runs_append {c : Char} (h : c.isAlphanum = false) (before behind : List Char) :
    runs (before ++ c :: behind) = runs before ++ runs behind := by
  unfold runs
  rw [List.splitOnP_append_cons _ _ (by simp [h]), List.filter_append]

theorem runs_word {word : List Char} (given : word ≠ [])
    (h : ∀ c ∈ word, c.isAlphanum = true) : runs word = [word] := by
  unfold runs
  rw [List.splitOnP_eq_singleton fun c hc => by simp [h c hc]]
  simp [given]

theorem hyphenated_cons (word : List Char) (words : List (List Char)) :
    hyphenated (word :: words) = word ++ words.flatMap ('-' :: ·) := by
  induction words generalizing word with
  | nil => simp [hyphenated]
  | cons next words ih =>
    have parted : hyphenated (word :: next :: words) =
        word ++ ['-'] ++ hyphenated (next :: words) :=
      List.intercalate_cons_cons
    rw [parted, ih, List.flatMap_cons]
    simp

theorem runs_hyphenated {words : List (List Char)} (given : ∀ word ∈ words, word ≠ [])
    (h : ∀ word ∈ words, ∀ c ∈ word, c.isAlphanum = true) : runs (hyphenated words) = words := by
  induction words with
  | nil => rfl
  | cons word words ih =>
    obtain ⟨wordGiven, given⟩ := List.forall_mem_cons.mp given
    obtain ⟨wordAlnum, h⟩ := List.forall_mem_cons.mp h
    have first := runs_word wordGiven wordAlnum
    cases words with
    | nil => rw [hyphenated, List.intercalate_singleton, first]
    | cons next words =>
      rw [hyphenated, List.intercalate_cons_cons, List.append_assoc, List.singleton_append,
        runs_append (by decide), first, show ['-'].intercalate _ = hyphenated _ from rfl,
        ih given h]
      rfl

/-! ### Slugs by their runs -/

/-- What is left of pieces that are cut at all other characters. -/
def wordsOf (pieces : List (List Char)) : List (List Char) :=
  lowered (pieces.filter (· ≠ []))

/-- Inside a run the first piece goes on with it; behind one a hyphen is due before every word,
and before the first run there is none. -/
theorem slugChars_of_splitOnP {text piece : List Char} {pieces : List (List Char)}
    (h : (text.splitOnP fun c => !c.isAlphanum) = piece :: pieces) :
    slugChars true false text = piece.map Char.toLower ++ (wordsOf pieces).flatMap ('-' :: ·) ∧
      slugChars true true text = (wordsOf (piece :: pieces)).flatMap ('-' :: ·) ∧
      ∀ gap, slugChars false gap text = hyphenated (wordsOf (piece :: pieces)) := by
  induction text generalizing piece pieces with
  | nil =>
    obtain ⟨rfl, rfl⟩ : [] = piece ∧ [] = pieces := by simpa using h
    exact ⟨rfl, rfl, fun _ => rfl⟩
  | cons c text ih =>
    obtain ⟨next, others, parted⟩ :=
      List.exists_cons_of_ne_nil (List.splitOnP_ne_nil (fun c => !c.isAlphanum) text)
    obtain ⟨inside, behind, start⟩ := ih parted
    rw [List.splitOnP_cons_eq_if_modifyHead, parted] at h
    cases alnum : c.isAlphanum with
    | true =>
      obtain ⟨rfl, rfl⟩ : c :: next = piece ∧ others = pieces := by simpa [alnum] using h
      have words : wordsOf ((c :: next) :: others) =
          (c.toLower :: next.map Char.toLower) :: wordsOf others := by
        simp [wordsOf, lowered]
      simp [slugChars, alnum, inside, words, hyphenated_cons]
    | false =>
      obtain ⟨rfl, rfl⟩ : [] = piece ∧ next :: others = pieces := by simpa [alnum] using h
      have words : wordsOf ([] :: next :: others) = wordsOf (next :: others) := by
        simp [wordsOf]
      simp [slugChars, alnum, behind, start, words]

theorem slugChars_eq_hyphenated (text : List Char) :
    slugChars false false text = hyphenated (lowered (runs text)) := by
  obtain ⟨piece, pieces, parted⟩ :=
    List.exists_cons_of_ne_nil (List.splitOnP_ne_nil (fun c => !c.isAlphanum) text)
  rw [(slugChars_of_splitOnP parted).2.2 false, runs, parted]
  rfl

theorem hyphenated_eq_nil_iff {words : List (List Char)} (given : ∀ word ∈ words, word ≠ []) :
    hyphenated words = [] ↔ words = [] := by
  cases words with
  | nil => simp [hyphenated]
  | cons word words => simp [hyphenated_cons, given word List.mem_cons_self]

/-! ### The words of a slug -/

/-- Small letters and digits, at least one. -/
structure IsSlugWord (word : List Char) : Prop where
  given : word ≠ []
  small : ∀ c ∈ word, c ∈ lowerAlphabet

theorem isAlphanum_of_mem_splitOnP {text piece : List Char}
    (h : piece ∈ text.splitOnP fun c => !c.isAlphanum) : ∀ c ∈ piece, c.isAlphanum = true := by
  induction text generalizing piece with
  | nil =>
    obtain rfl : piece = [] := by simpa using h
    exact fun c hc => absurd hc List.not_mem_nil
  | cons d text ih =>
    obtain ⟨next, others, parted⟩ :=
      List.exists_cons_of_ne_nil (List.splitOnP_ne_nil (fun c => !c.isAlphanum) text)
    rw [List.splitOnP_cons_eq_if_modifyHead, parted] at h
    rw [parted, List.forall_mem_cons] at ih
    cases alnum : d.isAlphanum with
    | true =>
      rcases List.mem_cons.mp (by simpa [alnum] using h) with rfl | later
      · exact List.forall_mem_cons.mpr ⟨alnum, ih.1⟩
      · exact ih.2 _ later
    | false =>
      have held : piece = [] ∨ piece = next ∨ piece ∈ others := by simpa [alnum] using h
      rcases held with rfl | rfl | later
      · exact fun c hc => absurd hc List.not_mem_nil
      · exact ih.1
      · exact ih.2 _ later

theorem isSlugWord_of_mem_lowered {text word : List Char} (h : word ∈ lowered (runs text)) :
    IsSlugWord word := by
  obtain ⟨run, hr, rfl⟩ := List.mem_map.mp h
  constructor
  · obtain ⟨-, given⟩ := List.mem_filter.mp hr
    simpa using given
  · exact List.forall_mem_map.mpr fun c hc =>
      toLower_mem_lowerAlphabet (isAlphanum_of_mem_splitOnP (List.mem_of_mem_filter hr) c hc)

/-- A text without letters and digits gets a name of one word. -/
theorem toList_slug (text : String) :
    (slug text).toList =
      if runs text.toList = [] then "project".toList
      else hyphenated (lowered (runs text.toList)) := by
  have empty : hyphenated (lowered (runs text.toList)) = [] ↔ runs text.toList = [] := by
    rw [hyphenated_eq_nil_iff fun word hw => (isSlugWord_of_mem_lowered hw).given, lowered,
      List.map_eq_nil_iff]
  rw [slug, slugChars_eq_hyphenated]
  split
  · rename_i blank
    rw [if_pos (empty.mp blank)]
  · rename_i given
    rw [if_neg (empty.not.mp given), String.toList_ofList]

theorem exists_words_slug (text : String) :
    ∃ words, words ≠ [] ∧ (∀ word ∈ words, IsSlugWord word) ∧
      (slug text).toList = hyphenated words := by
  rw [toList_slug]
  split
  · have small : IsSlugWord "project".toList :=
      ⟨by simp, List.all_iff_forall_prop.mp (by decide)⟩
    refine ⟨["project".toList], by simp, List.forall_mem_singleton.mpr small, ?_⟩
    rw [hyphenated, List.intercalate_singleton]
  · rename_i given
    refine ⟨lowered (runs text.toList), ?_, fun word hw => isSlugWord_of_mem_lowered hw, rfl⟩
    rwa [lowered, Ne, List.map_eq_nil_iff]

theorem slug_of_words {text : String} {words : List (List Char)} (given : words ≠ [])
    (h : ∀ word ∈ words, IsSlugWord word) (written : text.toList = hyphenated words) :
    slug text = text := by
  have found : runs text.toList = words := by
    rw [written]
    exact runs_hyphenated (fun word hw => (h word hw).given)
      fun word hw c hc => isAlphanum_of_mem_lowerAlphabet c ((h word hw).small c hc)
  have same : lowered words = words := by
    refine (List.map_congr_left fun word hw => ?_).trans (List.map_id words)
    exact (List.map_congr_left fun c hc => toLower_of_mem_lowerAlphabet c
      ((h word hw).small c hc)).trans (List.map_id word)
  rw [← String.toList_inj, toList_slug, found, if_neg given, same, written]

/-! ### The pattern of slugs -/

open RegularExpression in
/-- One of the characters. -/
def oneOf (chars : List Char) : RegularExpression Char :=
  chars.foldr (fun c others => char c + others) 0

open RegularExpression in
/-- `[a-z0-9]+(-[a-z0-9]+)*` -/
def slugPattern : RegularExpression Char :=
  let word := oneOf lowerAlphabet * star (oneOf lowerAlphabet)
  word * star (char '-' * word)

theorem mem_oneOf_iff {chars text : List Char} :
    text ∈ (oneOf chars).matches' ↔ ∃ c ∈ chars, text = [c] := by
  induction chars with
  | nil => simp [oneOf]
  | cons d chars ih =>
    have parted : (oneOf (d :: chars)).matches' = {[d]} + (oneOf chars).matches' := rfl
    rw [parted, Language.mem_add, ih, List.exists_mem_cons_iff]
    rfl

theorem mem_star_oneOf_iff {chars text : List Char} :
    text ∈ (oneOf chars).star.matches' ↔ ∀ c ∈ text, c ∈ chars := by
  rw [RegularExpression.matches'_star, Language.mem_kstar]
  constructor
  · rintro ⟨parts, rfl, single⟩ c hc
    obtain ⟨part, hp, hc⟩ := List.mem_flatten.mp hc
    obtain ⟨d, hd, rfl⟩ := mem_oneOf_iff.mp (single part hp)
    rwa [List.mem_singleton.mp hc]
  · intro h
    refine ⟨text.map fun c => [c], ?_, List.forall_mem_map.mpr fun c hc => ?_⟩
    · rw [← List.flatMap_def, ← List.map_eq_flatMap, List.map_id']
    · exact mem_oneOf_iff.mpr ⟨c, h c hc, rfl⟩

theorem mem_word_iff {text : List Char} :
    text ∈ (oneOf lowerAlphabet * (oneOf lowerAlphabet).star).matches' ↔ IsSlugWord text := by
  rw [RegularExpression.matches'_mul, Language.mem_mul]
  constructor
  · rintro ⟨_, first, others, later, rfl⟩
    obtain ⟨c, hc, rfl⟩ := mem_oneOf_iff.mp first
    exact ⟨List.cons_ne_nil _ _, List.forall_mem_cons.mpr ⟨hc, mem_star_oneOf_iff.mp later⟩⟩
  · intro h
    obtain ⟨c, others, rfl⟩ := List.exists_cons_of_ne_nil h.given
    obtain ⟨first, later⟩ := List.forall_mem_cons.mp h.small
    exact ⟨[c], mem_oneOf_iff.mpr ⟨c, first, rfl⟩, others, mem_star_oneOf_iff.mpr later, rfl⟩

theorem mem_slugPattern_iff {text : List Char} :
    text ∈ slugPattern.matches' ↔
      ∃ words, words ≠ [] ∧ (∀ word ∈ words, IsSlugWord word) ∧ text = hyphenated words := by
  rw [slugPattern, RegularExpression.matches'_mul, Language.mem_mul]
  constructor
  · rintro ⟨word, first, _, later, rfl⟩
    rw [RegularExpression.matches'_star, Language.mem_kstar] at later
    obtain ⟨parts, rfl, each⟩ := later
    have parted : ∀ part ∈ parts, IsSlugWord part.tail ∧ '-' :: part.tail = part := by
      intro part hp
      have joined := each part hp
      rw [RegularExpression.matches'_mul, Language.mem_mul] at joined
      obtain ⟨_, rfl, next, small, rfl⟩ := joined
      exact ⟨mem_word_iff.mp small, rfl⟩
    refine ⟨word :: parts.map List.tail, by simp, List.forall_mem_cons.mpr
      ⟨mem_word_iff.mp first, List.forall_mem_map.mpr fun part hp => (parted part hp).1⟩, ?_⟩
    have same : parts.map (fun part => '-' :: part.tail) = parts :=
      (List.map_congr_left fun part hp => (parted part hp).2).trans (List.map_id parts)
    rw [hyphenated_cons, List.flatMap_map, List.flatMap_def, same]
  · rintro ⟨words, given, h, rfl⟩
    obtain ⟨word, words, rfl⟩ := List.exists_cons_of_ne_nil given
    obtain ⟨first, later⟩ := List.forall_mem_cons.mp h
    refine ⟨word, mem_word_iff.mpr first, _, ?_, (hyphenated_cons word words).symm⟩
    rw [RegularExpression.matches'_star, Language.mem_kstar]
    refine ⟨words.map ('-' :: ·), rfl, List.forall_mem_map.mpr fun next hn => ?_⟩
    exact Language.mem_mul.mpr ⟨['-'], rfl, next, mem_word_iff.mpr (later next hn), rfl⟩

/-- The texts that match are slugs already, and they are all the slugs there are. -/
theorem slug_eq_self_iff {text : String} :
    slug text = text ↔ text.toList ∈ slugPattern.matches' := by
  rw [mem_slugPattern_iff]
  constructor
  · intro same
    have written := exists_words_slug text
    rwa [same] at written
  · rintro ⟨words, given, h, written⟩
    exact slug_of_words given h written

end PageBuilder.Text
