import PageBuilder.Json.Parser
/-! String literals, read back. The reader of JSON takes a written literal for its text, and so
does a reader that knows no other escapes than those that are written, and lets no control
character through. -/
namespace PageBuilder.Json

theorem toList_literal (text : String) : (literal text).toList = literalChars text.toList :=
  String.toList_ofList

theorem hexDigit?_digitChar {n : Nat} (h : n < 16) :
    Scan.hexDigit? (Nat.digitChar n) = some n := by
  have all : ∀ n < 16, Scan.hexDigit? (Nat.digitChar n) = some n := by decide
  exact all n h

/-! ### The reader of JSON -/

namespace Scan

theorem literalFrom_code {value : Nat} (h : value < 0x20) (done : List Char) (place : Place)
    (rest : List Char) :
    let code := ['\\', 'u', '0', '0', Nat.digitChar (value / 16), Nat.digitChar (value % 16)]
    literalFrom .plain done place (code ++ rest) =
      literalFrom .plain (Char.ofNat value :: done) (lastPlace place code) rest := by
  have high : hexDigit? (Nat.digitChar (value / 16)) = some (value / 16) :=
    hexDigit?_digitChar (by omega)
  have low : hexDigit? (Nat.digitChar (value % 16)) = some (value % 16) :=
    hexDigit?_digitChar (by omega)
  have zero : hexDigit? '0' = some 0 := by decide
  have whole : 16 * (value / 16) + value % 16 = value := Nat.div_add_mod ..
  have notHigh : isHigh value = false := by simp [isHigh]; omega
  have notLow : isLow value = false := by simp [isLow]; omega
  simp [literalFrom, hexCode?, high, low, zero, whole, notHigh, notLow, lastPlace]

theorem literalFrom_escapeChar (c : Char) (done : List Char) (place : Place) (rest : List Char) :
    literalFrom .plain done place (escapeChar c ++ rest) =
      literalFrom .plain (c :: done) (lastPlace place (escapeChar c)) rest := by
  unfold escapeChar
  split
  case h_8 quote slash _ _ _ _ _ =>
    split
    case isTrue control => rw [literalFrom_code control, Char.ofNat_toNat]
    case isFalse plain =>
      rw [List.singleton_append, literalFrom, if_neg quote, if_neg slash, if_neg plain]
      rfl
  all_goals rfl

theorem literalFrom_escaped (text done : List Char) (place : Place) (rest : List Char) :
    literalFrom .plain done place (text.flatMap escapeChar ++ rest) =
      literalFrom .plain (text.reverse ++ done) (lastPlace place (text.flatMap escapeChar))
        rest := by
  induction text generalizing done place with
  | nil => rfl
  | cons c others ih =>
    rw [List.flatMap_cons, List.append_assoc, literalFrom_escapeChar, ih, List.reverse_cons,
      List.append_assoc, List.singleton_append, lastPlace, lastPlace, lastPlace,
      List.foldl_append]

theorem run_string_of_ok {text rest : List Char} {place : Place} {after : Cursor}
    (read : literalFrom .plain [] (place.after '"') rest = .ok (text, after)) :
    string.run ⟨'"' :: rest, place⟩ = .ok (String.ofList text, after) := by
  simp only [string, skip, bind_pure_comp, StateT.run_bind, StateT.run_modify, StateT.run_get,
    StateT.run_monadLift, monadLift_self, StateT.run_map, StateT.run_set, map_pure,
    Functor.map_map, pure_bind, read]
  rfl

theorem run_string (text : String) (place : Place) (rest : List Char) :
    string.run ⟨literalChars text.toList ++ rest, place⟩ =
      .ok (text, ⟨rest, lastPlace place (literalChars text.toList)⟩) := by
  have read : literalFrom .plain [] (place.after '"')
      (text.toList.flatMap escapeChar ++ ['"'] ++ rest) =
      .ok (text.toList, ⟨rest, lastPlace place (literalChars text.toList)⟩) := by
    rw [List.append_assoc, literalFrom_escaped, List.singleton_append, literalFrom]
    simp [literalChars, lastPlace]
  rw [literalChars, List.cons_append, run_string_of_ok read, String.ofList_toList]
  rfl

theorem run_value_literal (text : String) (steps depth : Nat) :
    (value (steps + 1) depth).run ⟨literalChars text.toList, .start⟩ =
      .ok (.string text, ⟨[], lastPlace .start (literalChars text.toList)⟩) := by
  have solid : peekSolid.run ⟨literalChars text.toList, .start⟩ =
      .ok (some '"', ⟨literalChars text.toList, .start⟩) := rfl
  have read := run_string text .start []
  rw [List.append_nil] at read
  rw [value, StateT.run_bind, solid]
  change (scalar '"').run _ = _
  simp only [scalar, bind_pure_comp, StateT.run_map, read]
  rfl

end Scan

theorem parse_literal (text : String) : parse (literal text) = .ok (.string text) := by
  rw [parse, readAll, toList_literal, Scan.run_value_literal]
  rfl

/-! ### A reader of written literals -/

/-- What a backslash and one character stand for. -/
def shortEscape? : Char → Option Char
  | '"' => some '"'
  | '\\' => some '\\'
  | 'b' => some '\x08'
  | 'f' => some '\x0c'
  | 'n' => some '\n'
  | 'r' => some '\r'
  | 't' => some '\t'
  | _ => none

/-- The text from inside a literal on up to its closing quote, and what is behind that. Of
escapes, only the short ones and `\u00xx` are read, and no control character stands for
itself. -/
def textInside? : List Char → Option (List Char × List Char)
  | [] => none
  | '"' :: rest => some ([], rest)
  | '\\' :: 'u' :: '0' :: '0' :: high :: low :: rest => do
    let code := 16 * (← Scan.hexDigit? high) + (← Scan.hexDigit? low)
    (textInside? rest).map fun read => (Char.ofNat code :: read.1, read.2)
  | '\\' :: mark :: rest => do
    let c ← shortEscape? mark
    (textInside? rest).map fun read => (c :: read.1, read.2)
  | c :: rest =>
    if c = '\\' || c.toNat < 0x20 then none
    else (textInside? rest).map fun read => (c :: read.1, read.2)

/-- The text of the literal that a source starts with, and what is behind it. -/
def literalText? : List Char → Option (List Char × List Char)
  | '"' :: rest => textInside? rest
  | _ => none

theorem textInside?_escapeChar (c : Char) (rest : List Char) :
    textInside? (escapeChar c ++ rest) =
      (textInside? rest).map fun read => (c :: read.1, read.2) := by
  unfold escapeChar
  split
  case h_8 quote slash _ _ _ _ _ =>
    split
    case isTrue control =>
      have high : Scan.hexDigit? (Nat.digitChar (c.toNat / 16)) = some (c.toNat / 16) :=
        hexDigit?_digitChar (by omega)
      have low : Scan.hexDigit? (Nat.digitChar (c.toNat % 16)) = some (c.toNat % 16) :=
        hexDigit?_digitChar (by omega)
      have whole : 16 * (c.toNat / 16) + c.toNat % 16 = c.toNat := Nat.div_add_mod ..
      simp only [List.cons_append, List.nil_append, textInside?, high, low, Option.bind_eq_bind,
        Option.bind_some, whole, Char.ofNat_toNat]
    case isFalse plain =>
      have known : ¬((c = '\\' || decide (c.toNat < 0x20)) = true) := by
        simpa [plain] using slash
      rw [List.singleton_append, textInside?, if_neg known]
      · exact quote
      · exact fun _ _ _ same _ => slash same
      · exact fun _ _ same _ => slash same
  all_goals rfl

theorem textInside?_escaped (text rest : List Char) :
    textInside? (text.flatMap escapeChar ++ '"' :: rest) = some (text, rest) := by
  induction text with
  | nil => rfl
  | cons c others ih =>
    rw [List.flatMap_cons, List.append_assoc, textInside?_escapeChar, ih, Option.map_some]

theorem literalText?_append (text : String) (rest : List Char) :
    literalText? ((literal text).toList ++ rest) = some (text.toList, rest) := by
  rw [toList_literal, literalChars, List.cons_append, literalText?, List.append_assoc,
    List.singleton_append, textInside?_escaped]

theorem length_lt_of_textInside? {source text behind : List Char}
    (h : textInside? source = some (text, behind)) : behind.length < source.length := by
  fun_induction textInside? source generalizing text with
  | case1 => cases h
  | case2 rest =>
    cases h
    simp
  | case3 high low rest ih =>
    simp only [Option.bind_eq_bind, Option.bind_eq_some_iff, Option.map_eq_some_iff] at h
    obtain ⟨_, _, _, _, read, inside, same⟩ := h
    obtain ⟨-, rfl⟩ := Prod.mk.inj same
    have shorter := ih inside
    simp only [List.length_cons]
    omega
  | case4 mark rest _ ih =>
    simp only [Option.bind_eq_bind, Option.bind_eq_some_iff, Option.map_eq_some_iff] at h
    obtain ⟨_, _, read, inside, same⟩ := h
    obtain ⟨-, rfl⟩ := Prod.mk.inj same
    have shorter := ih inside
    simp only [List.length_cons]
    omega
  | case5 => cases h
  | case6 c rest _ _ _ _ ih =>
    obtain ⟨read, inside, same⟩ := Option.map_eq_some_iff.mp h
    obtain ⟨-, rfl⟩ := Prod.mk.inj same
    exact Nat.lt_succ_of_lt (ih inside)

theorem length_lt_of_literalText? {source text behind : List Char}
    (h : literalText? source = some (text, behind)) : behind.length < source.length := by
  unfold literalText? at h
  split at h
  case h_1 => exact Nat.lt_succ_of_lt (length_lt_of_textInside? h)
  case h_2 => cases h

theorem printable_escapeChar (c : Char) : ∀ d ∈ escapeChar c, 0x20 ≤ d.toNat := by
  unfold escapeChar
  split
  case h_8 =>
    split
    case isTrue control =>
      have digit : ∀ n < 16, 0x20 ≤ (Nat.digitChar n).toNat := by decide
      have high := digit (c.toNat / 16) (by omega)
      have low := digit (c.toNat % 16) (by omega)
      simp [high, low]
    case isFalse plain => simpa using plain
  all_goals simp

theorem printable_literal (text : String) : ∀ d ∈ (literal text).toList, 0x20 ≤ d.toNat := by
  intro d held
  rw [toList_literal, literalChars, List.mem_cons, List.mem_append, List.mem_singleton] at held
  rcases held with rfl | held | rfl
  · decide
  · obtain ⟨c, _, written⟩ := List.mem_flatMap.mp held
    exact printable_escapeChar c d written
  · decide

/-- What is written is one literal and nothing else, without any control character, and both
readers take it for the text. -/
structure IsLiteral (written text : String) : Prop where
  whole : literalText? written.toList = some (text.toList, [])
  printable : ∀ c ∈ written.toList, 0x20 ≤ c.toNat
  value : parse written = .ok (.string text)

theorem isLiteral_literal (text : String) : IsLiteral (literal text) text where
  whole := by
    have read := literalText?_append text []
    rwa [List.append_nil] at read
  printable := printable_literal text
  value := parse_literal text

end PageBuilder.Json
