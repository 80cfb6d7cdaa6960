import PageBuilder.Proofs.Text.Letters
import PageBuilder.Proofs.Text.Lines
import Mathlib.Data.List.DropRight
/-! Words, which are runs of ASCII letters and digits, and a reader that finds one behind
a given text. -/
namespace PageBuilder.Text

theorem isDigit_of_mem_toString (n : Nat) : ∀ c ∈ (toString n).toList, c.isDigit = true := by
  intro c hc
  rw [Nat.toString_eq_ofList_toDigits, String.toList_ofList] at hc
  exact Nat.isDigit_of_mem_toDigits (by decide) (by decide) hc

theorem ofDigitChars_toString (n : Nat) : Nat.ofDigitChars 10 (toString n).toList 0 = n := by
  rw [Nat.toString_eq_ofList_toDigits, String.toList_ofList, Nat.ofDigitChars_ten_toDigits]

def isWord (text : String) : Bool :=
  !text.toList.isEmpty && text.toList.all Char.isAlphanum

theorem not_mem_of_isWord {text : String} (h : isWord text = true) {c : Char}
    (hc : c.isAlphanum = false) : c ∉ text.toList := by
  intro held
  simp only [isWord, Bool.and_eq_true, List.all_eq_true] at h
  rw [h.2 c held] at hc
  cases hc

theorem isLine_of_isWord {text : String} (h : isWord text = true) : isLine text = true := by
  have feed : '\n' ∉ text.toList := not_mem_of_isWord h (by decide)
  have carriage : '\r' ∉ text.toList := not_mem_of_isWord h (by decide)
  refine List.all_eq_true.mpr fun c hc => ?_
  have ne (d : Char) (hd : d ∉ text.toList) : c ≠ d := fun same => hd (same ▸ hc)
  simp [ne '\n' feed, ne '\r' carriage]

theorem takeWhile_ne_append {mark : Char} {text : List Char} (h : mark ∉ text)
    (rest : List Char) : (text ++ mark :: rest).takeWhile (· ≠ mark) = text := by
  have inside : ∀ c ∈ text, decide (c ≠ mark) = true :=
    fun c hc => decide_eq_true fun same => h (same ▸ hc)
  rw [List.takeWhile_append_of_pos inside, List.takeWhile_cons_of_neg (by simp), List.append_nil]

theorem dropWhile_ne_append {mark : Char} {text : List Char} (h : mark ∉ text)
    (rest : List Char) : (text ++ mark :: rest).dropWhile (· ≠ mark) = mark :: rest := by
  have inside : ∀ c ∈ text, decide (c ≠ mark) = true :=
    fun c hc => decide_eq_true fun same => h (same ▸ hc)
  rw [List.dropWhile_append_of_pos inside, List.dropWhile_cons_of_neg (by simp)]

/-- The word behind `before` at the start of a text, and what is behind the word. -/
def wordAfter? (before : String) (text : List Char) : Option (String × List Char) := do
  let rest ← before.toList.isPrefixOf? text
  let word := rest.takeWhile Char.isAlphanum
  if word.isEmpty then none else some (String.ofList word, rest.dropWhile Char.isAlphanum)

theorem wordAfter?_append {word : String} (h : isWord word = true) (before : String)
    (rest : List Char) (ends : rest.head?.any Char.isAlphanum = false) :
    wordAfter? before (before.toList ++ (word.toList ++ rest)) = some (word, rest) := by
  simp only [isWord, Bool.and_eq_true, List.all_eq_true] at h
  have behind : rest.takeWhile Char.isAlphanum = [] ∧ rest.dropWhile Char.isAlphanum = rest := by
    cases rest with
    | nil => exact ⟨rfl, rfl⟩
    | cons c rest =>
      have other : c.isAlphanum = false := ends
      simp [other]
  have passed : before.toList.isPrefixOf? (before.toList ++ (word.toList ++ rest)) =
      some (word.toList ++ rest) := List.isPrefixOf?_eq_some_iff_append_eq.mpr rfl
  have taken : (word.toList ++ rest).takeWhile Char.isAlphanum = word.toList := by
    rw [List.takeWhile_append_of_pos h.2, behind.1, List.append_nil]
  have left : (word.toList ++ rest).dropWhile Char.isAlphanum = rest := by
    rw [List.dropWhile_append_of_pos h.2, behind.2]
  have given : word.toList.isEmpty = false := by simpa using h.1
  simp only [wordAfter?, passed, taken, left, given, Option.bind_eq_bind, Option.bind_some]
  simp

/-- A text that starts with another character has no such word. -/
theorem wordAfter?_eq_none {before : String} {text : List Char}
    (h : text.head? ≠ before.toList.head?) (given : before.toList ≠ []) :
    wordAfter? before text = none := by
  have other : before.toList.isPrefixOf? text = none := by
    cases hb : before.toList with
    | nil => exact absurd hb given
    | cons c rest =>
      cases text with
      | nil => rfl
      | cons d text =>
        have ne : c ≠ d := fun same => h (by rw [hb, same]; rfl)
        simp [List.isPrefixOf?, ne]
  simp [wordAfter?, other]

/-- The word that a text consists of beside `before` and `behind`. -/
def wordBetween? (before behind : String) (text : List Char) : Option String := do
  let (word, rest) ← wordAfter? before text
  if rest = behind.toList then some word else none

theorem wordBetween?_append {word : String} (h : isWord word = true) (before : String)
    {behind : String} (ends : behind.toList.head?.any Char.isAlphanum = false) :
    wordBetween? before behind (before ++ word ++ behind).toList = some word := by
  have chars : (before ++ word ++ behind).toList =
      before.toList ++ (word.toList ++ behind.toList) := by
    simp only [String.toList_append, List.append_assoc]
  rw [wordBetween?, chars, wordAfter?_append h before behind.toList ends]
  exact if_pos rfl

theorem wordBetween?_eq_none {before behind : String} {text : List Char}
    (h : text.head? ≠ before.toList.head?) (given : before.toList ≠ []) :
    wordBetween? before behind text = none := by
  rw [wordBetween?, wordAfter?_eq_none h given]
  rfl

end PageBuilder.Text
