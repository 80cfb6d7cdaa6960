import PageBuilder.Proofs.Markup.Texts
/-! Attributes and tags. With other texts in its attributes a tag leaves the same, since
they stand in quotes or literals, and no name begins a comment. -/
namespace PageBuilder.Markup

variable {dialect : Dialect}

/-! ### Attributes -/

def AttrValue.bare : AttrValue → AttrValue
  | .text _ => .text ""
  | value => value

def bareAttrs (attrs : Attrs) : Attrs :=
  attrs.map fun a => (a.1, a.2.bare)

/-- An expression without a string literal in double quotes and without a comment. -/
def AttrValue.isTame : AttrValue → Bool
  | .expr source => !source.toList.contains '"' && !Text.contains source "/*"
  | _ => true

def areTame (attrs : Attrs) : Bool :=
  attrs.all fun a => isName a.1 && a.2.isTame

theorem alike_quoted {one other : String} (h : Dialect.html.Alike one.toList other.toList) :
    Dialect.html.Alike (quotedAttr one).toList (quotedAttr other).toList := by
  have quote : Dialect.html.Leaves ['"'] ['"'] := fun rest => by
    simp [Dialect.skeleton, cutComments_cons (show '"' ≠ '<' by decide), isMark]
  simp only [quotedAttr, String.toList_append]
  exact (quote.alike.append h).append quote.alike

/-- The brace behind an expression keeps its last character from opening a comment. -/
theorem leaves_source {source : List Char} (hq : '"' ∉ source)
    (hc : Text.occursFrom ['/', '*'] source = false) :
    Dialect.jsx.Leaves (source ++ ['\x7d']) (source ++ ['\x7d']) := by
  intro rest
  simp only [Dialect.skeleton, List.append_assoc, List.cons_append, List.nil_append]
  induction source with
  | nil => exact cutLiterals_cons (by decide) (by decide) rest
  | cons c others ih =>
    obtain ⟨hp, ho⟩ := Text.occursFrom_cons_eq_false.mp hc
    have ht := ih (fun hm => hq (List.mem_cons_of_mem _ hm)) ho
    have hne : c ≠ '"' := by rintro rfl; exact hq (List.mem_cons_self ..)
    simp only [List.cons_append]
    by_cases hs : c = '/'
    · subst hs
      rw [cutLiterals_slash, ht]
      cases others with
      | nil => simp
      | cons d _ =>
        intro hd
        obtain rfl := Option.some.inj hd
        simp [List.isPrefixOf] at hp
    · rw [cutLiterals_cons hne hs, ht]

theorem alike_given {name one other : String} (hn : isName name = true)
    (h : dialect.Alike one.toList other.toList) :
    dialect.Alike (" " ++ dialect.attrName name ++ "=" ++ one).toList
      (" " ++ dialect.attrName name ++ "=" ++ other).toList := by
  have named : dialect.Alike (" " ++ dialect.attrName name ++ "=").toList
      (" " ++ dialect.attrName name ++ "=").toList := by
    refine Dialect.alike_inert fun c hc => ?_
    simp only [String.toList_append, List.mem_append] at hc
    rcases hc with (hc | hc) | hc
    · obtain rfl := List.mem_singleton.mp hc
      rfl
    · exact isInert_of_mem_name (isName_attrName hn) c hc
    · obtain rfl := List.mem_singleton.mp hc
      rfl
  rw [String.toList_append, String.toList_append (t := other)]
  exact named.append h

theorem alike_attr {name : String} {value : AttrValue} (hn : isName name = true)
    (hv : value.isTame = true) :
    dialect.Alike (dialect.attr name value).toList (dialect.attr name value.bare).toList := by
  cases value with
  | flag =>
    refine Dialect.alike_inert fun c hc => ?_
    rcases List.mem_append.mp (String.toList_append ▸ hc) with hc | hc
    · obtain rfl := List.mem_singleton.mp hc
      rfl
    · exact isInert_of_mem_name (isName_attrName hn) c hc
  | fixed v =>
    cases dialect with
    | html => exact alike_given hn (alike_quoted (leaves_escape v).alike)
    | jsx =>
      refine alike_given hn ?_
      split_ifs with plain
      · exact (leaves_quotedAttr plain).alike
      · exact alike_braced (leaves_literal v).alike
  | text v =>
    cases dialect with
    | html => exact alike_given hn (alike_quoted ⟨_, leaves_escape v, leaves_escape ""⟩)
    | jsx => exact alike_given hn (alike_braced ⟨_, leaves_literal v, leaves_literal ""⟩)
  | number n =>
    have digits : dialect.Alike (toString n).toList (toString n).toList :=
      Dialect.alike_inert (isInert_of_mem_toString n)
    cases dialect with
    | html => exact alike_given hn (alike_quoted digits)
    | jsx => exact alike_given hn (alike_braced digits)
  | expr source =>
    cases dialect with
    | html => exact Dialect.alike_nil
    | jsx =>
      simp only [AttrValue.isTame, Bool.and_eq_true, Bool.not_eq_eq_eq_not, Bool.not_true] at hv
      have hq : '"' ∉ source.toList := by simpa using hv.1
      have opened : Dialect.jsx.Alike ['\x7b'] ['\x7b'] := Dialect.alike_inert_char rfl
      refine alike_given hn ?_
      simp only [braced, String.toList_append, List.append_assoc]
      exact opened.append (leaves_source hq hv.2).alike

/-! ### Tags -/

/-- The attributes of an opening tag, each with the space before it. -/
def Dialect.attrChars (dialect : Dialect) (attrs : Attrs) : List Char :=
  attrs.flatMap fun a => (dialect.attr a.1 a.2).toList

theorem toList_opening (tag : String) (attrs : Attrs) :
    (dialect.opening tag attrs).toList = tag.toList ++ dialect.attrChars attrs := by
  simp [Dialect.opening, Dialect.attrChars, List.flatMap_map]

theorem alike_attrChars {attrs : Attrs}
    (h : areTame attrs = true) :
    dialect.Alike (dialect.attrChars attrs) (dialect.attrChars (bareAttrs attrs)) := by
  induction attrs with
  | nil => exact Dialect.alike_nil
  | cons a others ih =>
    simp only [areTame, List.all_cons, Bool.and_eq_true] at h
    exact (alike_attr h.1.1 h.1.2).append (ih h.2)

theorem attr_eq_nil_or_blank (dialect : Dialect) (name : String) (value : AttrValue) :
    (dialect.attr name value).toList = [] ∨ (dialect.attr name value).toList.head? = some ' ' := by
  cases dialect <;> cases value <;> simp [Dialect.attr]

/-- Behind a tag's name stands a blank, or what follows the attributes. -/
theorem head?_attrChars (dialect : Dialect) (attrs : Attrs) (c : Char) (rest : List Char) :
    (dialect.attrChars attrs ++ c :: rest).head? = some ' ' ∨
      (dialect.attrChars attrs ++ c :: rest).head? = some c := by
  induction attrs with
  | nil => exact .inr rfl
  | cons a others ih =>
    rw [Dialect.attrChars, List.flatMap_cons, List.append_assoc]
    rcases attr_eq_nil_or_blank dialect a.1 a.2 with h | h
    · rw [h]
      exact ih
    · rw [List.head?_append, h]
      exact .inl rfl

theorem head?_name_ne {name : String} {others : List Char} {c : Char} (hn : isName name = true)
    (hc : isNameChar c = false) (ho : others.head? ≠ some c) :
    (name.toList ++ others).head? ≠ some c := by
  cases h : name.toList with
  | nil => exact ho
  | cons d tail =>
    rintro hd
    obtain rfl : d = c := Option.some.inj hd
    have := List.all_eq_true.mp hn d (by simp [h])
    simp [hc] at this

theorem alike_opened {tag : String} {attrs : Attrs} {behind : List Char} {c : Char}
    (hc : c ≠ '!') (ht : isName tag = true)
    (ha : areTame attrs = true)
    (hb : dialect.Alike (c :: behind) (c :: behind)) :
    dialect.Alike ('<' :: ((dialect.opening tag attrs).toList ++ c :: behind))
      ('<' :: ((dialect.opening tag (bareAttrs attrs)).toList ++ c :: behind)) := by
  have named : dialect.Alike tag.toList tag.toList := Dialect.alike_inert (isInert_of_mem_name ht)
  have whole : dialect.Alike _ _ := (named.append (alike_attrChars ha)).append hb
  rw [← toList_opening, ← toList_opening] at whole
  have begun (attrs : Attrs) (rest : List Char) :
      ((dialect.opening tag attrs).toList ++ c :: behind ++ rest).head? ≠ some '!' := by
    rw [toList_opening, List.append_assoc, List.append_assoc]
    refine head?_name_ne ht (by decide) ?_
    rcases head?_attrChars dialect attrs c (behind ++ rest) with h | h <;>
      rw [List.cons_append, h] <;> simp [hc]
  obtain ⟨left, ho, ht⟩ := whole
  exact ⟨'<' :: left, ho.lt (begun attrs), ht.lt (begun (bareAttrs attrs))⟩

theorem alike_closing {tag : String} (ht : isName tag = true) :
    dialect.Alike ("</" ++ tag ++ ">").toList ("</" ++ tag ++ ">").toList := by
  have inert := isInert_of_mem_name ht
  have named : ∃ left, dialect.Leaves ('/' :: (tag.toList ++ ['>'])) left := by
    cases dialect with
    | html =>
      have unmarked : ∀ c ∈ '/' :: tag.toList, isMark c = false :=
        List.forall_mem_cons.mpr ⟨by decide, fun c hc => Dialect.isMark_of_isInert (inert c hc)⟩
      exact ⟨_, (Dialect.leaves_unmarked unmarked).append Dialect.leaves_gt⟩
    | jsx =>
      refine ⟨_, ((Dialect.leaves_inert inert).append Dialect.leaves_gt).slash fun rest => ?_⟩
      rw [List.append_assoc]
      exact head?_name_ne ht (by decide) (by simp)
  obtain ⟨left, h⟩ := named
  simp only [String.toList_append, List.append_assoc]
  exact (h.lt fun rest => by simp).alike

theorem alike_childless {tag : String} {attrs : Attrs} (ht : isName tag = true)
    (ha : areTame attrs = true) :
    dialect.Alike (dialect.childless tag attrs).toList
      (dialect.childless tag (bareAttrs attrs)).toList := by
  cases dialect with
  | html =>
    have opened : Dialect.html.Alike _ _ :=
      alike_opened (c := '>') (by decide) ht ha Dialect.leaves_gt.alike
    simp only [Dialect.childless]
    split_ifs
    · simpa using opened
    · simpa using opened.append (alike_closing ht)
  | jsx =>
    have slash : Dialect.jsx.Leaves ['/', '>'] ['/', '>'] :=
      Dialect.leaves_gt.slash fun rest => by simp
    have blank : Dialect.jsx.Leaves [' '] [' '] := Dialect.leaves_inert (by simp [Dialect.isInert, isMark])
    simpa [Dialect.childless] using
      alike_opened (c := ' ') (by decide) ht ha (blank.append slash).alike

end PageBuilder.Markup
