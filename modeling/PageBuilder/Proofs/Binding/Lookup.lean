import PageBuilder.Binding.Path
/-! What a path says. Its pieces are keys, or names with an index in brackets, and looking up
two paths joined by a dot is looking up one and then the other in what was found. -/
namespace PageBuilder.Binding

open Json (Value Members)

/-! ### Pieces with an index -/

/-- The text is `name[digits]`. The name is not empty and on one line, and the digits, of any
script, are at least one. -/
structure IsIndexed (text name digits : List Char) : Prop where
  eq : text = name ++ '[' :: (digits ++ [']'])
  name_ne_nil : name ≠ []
  one_line : '\n' ∉ name
  digits_ne_nil : digits ≠ []
  all_digits : ∀ c ∈ digits, Text.isDecimalDigit c = true

theorem splitIndex_of_isIndexed {text name digits : List Char} (h : IsIndexed text name digits) :
    splitIndex text = some (name, digits) := by
  have back : text.reverse = ']' :: (digits.reverse ++ '[' :: name.reverse) := by
    rw [h.eq]
    simp
  have taken : (digits.reverse ++ '[' :: name.reverse).takeWhile Text.isDecimalDigit =
      digits.reverse := by
    have bracket : Text.isDecimalDigit '[' = false := by decide
    rw [List.takeWhile_append_of_pos fun c hc => h.all_digits c (List.mem_reverse.mp hc),
      List.takeWhile_cons_of_neg (by simp [bracket]), List.append_nil]
  unfold splitIndex
  rw [back]
  simp only [taken, List.drop_left]
  rw [if_neg]
  · simp
  · simp [h.name_ne_nil, h.digits_ne_nil, h.one_line]

theorem isIndexed_of_splitIndex {text name digits : List Char}
    (h : splitIndex text = some (name, digits)) : IsIndexed text name digits := by
  unfold splitIndex at h
  split at h
  · rename_i back reversed
    have whole := List.prefix_iff_eq_append.mp (List.takeWhile_prefix (l := back)
      Text.isDecimalDigit)
    dsimp only at h
    split at h
    · rename_i front dropped
      split at h
      · cases h
      · rename_i given
        simp only [Bool.or_eq_true, not_or, Bool.not_eq_true, List.isEmpty_eq_false_iff,
          List.contains_eq_mem, decide_eq_false_iff_not] at given
        cases h
        refine ⟨?_, ?_, ?_, ?_, ?_⟩
        · rw [dropped] at whole
          have parts : back.reverse =
              front.reverse ++ '[' :: (back.takeWhile Text.isDecimalDigit).reverse :=
            (congrArg List.reverse whole).symm.trans (by simp)
          rw [← List.reverse_reverse text, reversed, List.reverse_cons, parts]
          simp
        · simpa using given.1.2
        · simpa using given.2
        · simpa using given.1.1
        · intro c hc
          exact List.all_eq_true.mp List.all_takeWhile c (List.mem_reverse.mp hc)
    · cases h
  · cases h

theorem splitIndex_eq_some_iff {text name digits : List Char} :
    splitIndex text = some (name, digits) ↔ IsIndexed text name digits :=
  ⟨isIndexed_of_splitIndex, splitIndex_of_isIndexed⟩

theorem ofText_of_isIndexed {text name digits : List Char} (h : IsIndexed text name digits) :
    Segment.ofText text = .indexed name (index? digits) := by
  rw [Segment.ofText, splitIndex_of_isIndexed h]

theorem ofText_of_not_isIndexed {text : List Char}
    (h : ∀ name digits, ¬ IsIndexed text name digits) : Segment.ofText text = .key text := by
  unfold Segment.ofText
  split
  · rename_i name digits split
    exact absurd (isIndexed_of_splitIndex split) (h name digits)
  · rfl

/-! ### One path after the other -/

theorem walk_append (v : Value) (earlier later : List (List Char)) :
    walk v (earlier ++ later) = (walk v earlier).bind fun u => walk u later := by
  induction earlier generalizing v with
  | nil => rfl
  | cons segment rest ih =>
    rw [List.cons_append, walk, walk, Option.bind_assoc]
    exact congrArg _ (funext ih)

theorem lookup_of_ne_empty {path : String} (h : path ≠ "") (data : Value) :
    lookup data path = walk data (Text.pieces '.' path.toList) := by
  rw [lookup, if_neg]
  rwa [String.isEmpty_iff]

theorem walk_of_lookup {data v : Value} {path : String} (h : lookup data path = some v) :
    walk data (Text.pieces '.' path.toList) = some v := by
  unfold lookup at h
  split at h
  · cases h
  · exact h

/-- A dot between two paths leads on from what the first one finds. -/
theorem lookup_dotted {p q : String} (hp : p ≠ "") (hq : q ≠ "") (d v : Value) :
    lookup d (p ++ "." ++ q) = some v ↔ ∃ u, lookup d p = some u ∧ lookup u q = some v := by
  have chars : (p ++ "." ++ q).toList = p.toList ++ '.' :: q.toList := by
    simp
  have given : p ++ "." ++ q ≠ "" := by
    simp [hp]
  rw [lookup_of_ne_empty given, chars, Text.pieces_append, walk_append, ← lookup_of_ne_empty hp,
    Option.bind_eq_some_iff]
  simp only [lookup_of_ne_empty hq]

/-- The first path ends in an empty piece, and the second one writes the index of an element with
a sign, and then one behind a name that has a bracket itself. -/
theorem lookup_dotted_odd_pieces :
    let inner : Value := .array [.null, .object [("b[0", .array [.string "found"])]]
    let d : Value := .object [("a", .object [("", inner)])]
    "a." ≠ "" ∧ "+1.b[0[0]" ≠ "" ∧ lookup d "a." = some inner ∧
      lookup d ("a." ++ "." ++ "+1.b[0[0]") = some (.string "found") := by
  intro inner d
  have before : lookup d "a." = some inner := by decide
  have behind : lookup inner "+1.b[0[0]" = some (.string "found") := by decide
  refine ⟨by decide, by decide, before, ?_⟩
  exact (lookup_dotted (by decide) (by decide) d _).mpr ⟨inner, before, behind⟩

end PageBuilder.Binding
