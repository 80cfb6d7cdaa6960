import PageBuilder.Proofs.Binding.Lookup
import PageBuilder.Proofs.Binding.Positions
/-! Paths that are read as they were written. A position whose keys a path can name is found again
by its path, and in a document of plain keys every position is: the paths listed for it are as
many as its positions, and each leads to the value at its own. -/
namespace PageBuilder.Binding

open Json (Value Members)
open Text (pieces)

/-! ### The pieces that are written -/

/-- What a path writes between its dots, from the key of a hop on. -/
def legs (key : List Char) : Position → List (List Char)
  | [] => [key]
  | .member next :: rest => key :: legs next.toList rest
  | .firstMember next :: rest => (key ++ ['[', '0', ']']) :: legs next.toList rest

/-- The pieces that a path of such legs is read as; a key with dots makes several. -/
def piecesOf (key : List Char) (rest : Position) : List (List Char) :=
  (legs key rest).flatMap (pieces '.')

theorem legs_ne_nil (key : List Char) (rest : Position) : legs key rest ≠ [] := by
  unfold legs
  split <;> exact List.cons_ne_nil _ _

theorem piecesOf_ne_nil (key : List Char) (rest : Position) : piecesOf key rest ≠ [] := by
  obtain ⟨leg, others, written⟩ := List.exists_cons_of_ne_nil (legs_ne_nil key rest)
  rw [piecesOf, written, List.flatMap_cons]
  exact List.append_ne_nil_of_left_ne_nil (Text.pieces_ne_nil '.' leg) _

theorem not_mem_of_mem_piecesOf {key piece : List Char} {rest : Position}
    (h : piece ∈ piecesOf key rest) : '.' ∉ piece := by
  obtain ⟨leg, -, there⟩ := List.mem_flatMap.mp h
  exact Text.not_mem_of_mem_pieces there

theorem piecesOf_dotted (before key : List Char) (rest : Position) :
    piecesOf (before ++ '.' :: key) rest = pieces '.' before ++ piecesOf key rest := by
  rcases rest with _ | ⟨_ | _, rest⟩ <;>
    simp [piecesOf, legs, Text.pieces_append]

theorem join_of_ne_empty {before : String} (h : before ≠ "") (key : String) :
    join before key = before ++ "." ++ key := by
  rw [join, if_neg]
  rwa [String.isEmpty_iff]

theorem textFrom_ne_empty {before : String} (h : before ≠ "") (rest : Position) :
    textFrom before rest ≠ "" := by
  induction rest generalizing before with
  | nil => exact h
  | cons hop rest ih =>
    cases hop with
    | member key =>
      rw [textFrom, join_of_ne_empty h]
      exact ih (by simp)
    | firstMember key =>
      rw [textFrom, join_of_ne_empty (by simp)]
      exact ih (by simp)

theorem textFrom_firstMember_ne_empty (before key : String) (rest : Position) :
    textFrom before (.firstMember key :: rest) ≠ "" := by
  rw [textFrom, join_of_ne_empty (by simp)]
  exact textFrom_ne_empty (by simp) rest

/-- The root of the document is an object, and the position goes on to a member of the object
under an empty key of it. Of such a position the path does not show that key. -/
def BelowEmpty : Position → Prop
  | .member key :: .member _ :: _ => key = ""
  | _ => False

theorem not_belowEmpty_of_ne_empty {key : String} (h : key ≠ "") (rest : Position) :
    ¬ BelowEmpty (.member key :: rest) := by
  rcases rest with _ | ⟨_ | _, rest⟩
  · exact not_false
  · exact h
  · exact not_false

theorem pieces_textFrom {before : String} {rest : Position}
    (h : ¬ BelowEmpty (.member before :: rest)) :
    pieces '.' (textFrom before rest).toList = piecesOf before.toList rest := by
  induction rest generalizing before with
  | nil => simp [textFrom, piecesOf, legs]
  | cons hop rest ih =>
    cases hop with
    | member key =>
      have given : before ≠ "" := h
      have chars : (before ++ "." ++ key).toList = before.toList ++ '.' :: key.toList := by
        simp
      rw [textFrom, join_of_ne_empty given, ih (not_belowEmpty_of_ne_empty (by simp) rest), chars,
        piecesOf_dotted]
      rfl
    | firstMember key =>
      have chars : (before ++ "[0]" ++ "." ++ key).toList =
          (before.toList ++ ['[', '0', ']']) ++ '.' :: key.toList := by
        simp
      rw [textFrom, join_of_ne_empty (by simp), ih (not_belowEmpty_of_ne_empty (by simp) rest),
        chars, piecesOf_dotted]
      rfl

theorem pieces_pathOf_member {key : String} {rest : Position}
    (h : ¬ BelowEmpty (.member key :: rest)) :
    pieces '.' (pathOf (.member key :: rest)).toList = piecesOf key.toList rest :=
  pieces_textFrom h

theorem pieces_pathOf_firstMember (key : String) (rest : Position) :
    pieces '.' (pathOf (.firstMember key :: rest)).toList = ['0'] :: piecesOf key.toList rest := by
  have chars : ("0" ++ "." ++ key).toList = ['0'] ++ '.' :: key.toList := by
    simp
  have shown := not_belowEmpty_of_ne_empty (show "0" ++ "." ++ key ≠ "" by simp) rest
  rw [pathOf, join_of_ne_empty (by decide), pieces_textFrom shown, chars, piecesOf_dotted]
  rfl

/-! ### Keys that are read as they are written -/

/-- The key has the form `name[digits]` itself. -/
def HasIndex (key : String) : Prop :=
  ∃ name digits, IsIndexed key.toList name digits

theorem hasIndex_iff {key : String} : HasIndex key ↔ (splitIndex key.toList).isSome = true := by
  simp [HasIndex, ← splitIndex_eq_some_iff, Option.isSome_iff_exists]

instance (key : String) : Decidable (HasIndex key) :=
  decidable_of_iff _ hasIndex_iff.symm

/-- A path that goes on with these hops behind the key names the key: it is in one piece, and it
is not taken for a name with an index, nor is the index behind it for a part of the key. -/
def Clear (key : String) : Position → Prop
  | .firstMember _ :: _ => '.' ∉ key.toList ∧ key ≠ "" ∧ '\n' ∉ key.toList
  | _ => '.' ∉ key.toList ∧ ¬ HasIndex key

def ReadsBack : Position → Prop
  | [] => True
  | hop :: rest => Clear hop.key rest ∧ ReadsBack rest

instance decidableClear (key : String) : (rest : Position) → Decidable (Clear key rest)
  | [] | .member _ :: _ => inferInstanceAs (Decidable ('.' ∉ key.toList ∧ ¬ HasIndex key))
  | .firstMember _ :: _ =>
    inferInstanceAs (Decidable ('.' ∉ key.toList ∧ key ≠ "" ∧ '\n' ∉ key.toList))

instance decidableReadsBack : (position : Position) → Decidable (ReadsBack position)
  | [] => isTrue trivial
  | hop :: rest =>
    have := decidableReadsBack rest
    inferInstanceAs (Decidable (Clear hop.key rest ∧ ReadsBack rest))

instance decidableBelowEmpty : (position : Position) → Decidable (BelowEmpty position)
  | .member key :: .member _ :: _ => inferInstanceAs (Decidable (key = ""))
  | [] | [.member _] | .member _ :: .firstMember _ :: _ | .firstMember _ :: _ => isFalse not_false

theorem Clear.dotless {key : String} {rest : Position} (h : Clear key rest) :
    '.' ∉ key.toList := by
  unfold Clear at h
  split at h
  · exact h.1
  · exact h.1

theorem piecesOf_nil {key : List Char} (dotless : '.' ∉ key) : piecesOf key [] = [key] := by
  rw [piecesOf, legs, List.flatMap_singleton, Text.pieces_of_not_mem dotless]

theorem piecesOf_member {key : List Char} (dotless : '.' ∉ key) (next : String)
    (rest : Position) : piecesOf key (.member next :: rest) = key :: piecesOf next.toList rest := by
  rw [piecesOf, legs, List.flatMap_cons, Text.pieces_of_not_mem dotless]
  rfl

theorem piecesOf_firstMember {key : List Char} (dotless : '.' ∉ key) (next : String)
    (rest : Position) :
    piecesOf key (.firstMember next :: rest) =
      (key ++ ['[', '0', ']']) :: piecesOf next.toList rest := by
  have alone : '.' ∉ key ++ ['[', '0', ']'] := by
    simpa using dotless
  rw [piecesOf, legs, List.flatMap_cons, Text.pieces_of_not_mem alone]
  rfl

theorem mem_piecesOf_cons {key : List Char} (dotless : '.' ∉ key) {hop : Hop} {rest : Position}
    {piece : List Char} (h : piece ∈ piecesOf hop.key.toList rest) :
    piece ∈ piecesOf key (hop :: rest) := by
  cases hop with
  | member next =>
    rw [piecesOf_member dotless]
    exact List.mem_cons_of_mem _ h
  | firstMember next =>
    rw [piecesOf_firstMember dotless]
    exact List.mem_cons_of_mem _ h

theorem piecesOf_of_clear {key : String} {rest : Position} (clear : Clear key rest)
    (readsBack : ReadsBack rest) : piecesOf key.toList rest = legs key.toList rest := by
  induction rest generalizing key with
  | nil => exact piecesOf_nil clear.dotless
  | cons hop rest ih =>
    have behind := ih readsBack.1 readsBack.2
    cases hop with
    | member next =>
      rw [piecesOf_member clear.dotless, legs]
      exact congrArg _ behind
    | firstMember next =>
      rw [piecesOf_firstMember clear.dotless, legs]
      exact congrArg _ behind

/-! ### Steps along a position -/

theorem step_key {key : String} (h : ¬ HasIndex key) (members : Members) :
    step (.object members) (.ofText key.toList) =
      (Assoc.get? key members).filter fun v => !v.isNull := by
  rw [ofText_of_not_isIndexed fun name digits indexed => h ⟨name, digits, indexed⟩]
  simp [step]

theorem isIndexed_first {key : String} (given : key ≠ "") (oneLine : '\n' ∉ key.toList) :
    IsIndexed (key.toList ++ ['[', '0', ']']) key.toList ['0'] where
  eq := rfl
  name_ne_nil := by simpa using given
  one_line := oneLine
  digits_ne_nil := List.cons_ne_nil _ _
  all_digits := List.forall_mem_singleton.mpr (by decide)

theorem step_first {key : String} (given : key ≠ "") (oneLine : '\n' ∉ key.toList)
    {members first : Members} {items : List Value}
    (found : Assoc.get? key members = some (.array (.object first :: items))) :
    step (.object members) (.ofText (key.toList ++ ['[', '0', ']'])) = some (.object first) := by
  have index : index? ['0'] = some 0 := by decide
  rw [ofText_of_isIndexed (isIndexed_first given oneLine)]
  simp [step, index, Value.member?, found, Value.items?, Value.isNull]

theorem step_zero (v : Value) (items : List Value) :
    step (.array (v :: items)) (.ofText ['0']) = (some v).filter fun v => !v.isNull := by
  have key : Segment.ofText ['0'] = .key ['0'] := by decide
  have index : elementIndex? ['0'] = some 0 := by decide
  rw [key]
  simp only [step, index]
  rfl

theorem walk_legs {key : String} {rest : Position} (clear : Clear key rest)
    (readsBack : ReadsBack rest) {members : Members} {w v : Value}
    (found : Assoc.get? key members = some w) (reached : valueAt w rest = some v) :
    walk (.object members) (legs key.toList rest) = (some v).filter fun v => !v.isNull := by
  induction rest generalizing key members w with
  | nil =>
    cases reached
    rw [legs, walk, step_key clear.2, found]
    cases (some v).filter fun v => !v.isNull <;> rfl
  | cons hop rest ih =>
    obtain ⟨u, next, below⟩ := valueAt_cons_eq_some_iff.mp reached
    cases hop with
    | member key' =>
      obtain ⟨inner, rfl, held⟩ := Hop.next?_member_eq_some_iff.mp next
      rw [legs, walk, step_key clear.2, found]
      exact ih readsBack.1 readsBack.2 held below
    | firstMember key' =>
      obtain ⟨inner, items, rfl, held⟩ := Hop.next?_firstMember_eq_some_iff.mp next
      rw [legs, walk, step_first clear.2.1 clear.2.2 found]
      exact ih readsBack.1 readsBack.2 held below

/-- The path of a position leads to the value there, or nowhere if that is null. -/
theorem walk_pathOf {position : Position} (shown : ¬ BelowEmpty position)
    (readsBack : ReadsBack position) (given : position ≠ []) {data v : Value}
    (reached : valueAt data position = some v) :
    walk data (pieces '.' (pathOf position).toList) = (some v).filter fun v => !v.isNull := by
  cases position with
  | nil => exact absurd rfl given
  | cons hop rest =>
    obtain ⟨u, next, below⟩ := valueAt_cons_eq_some_iff.mp reached
    cases hop with
    | member key =>
      have clear : Clear key rest := readsBack.1
      obtain ⟨members, rfl, held⟩ := Hop.next?_member_eq_some_iff.mp next
      rw [pieces_pathOf_member shown, piecesOf_of_clear clear readsBack.2]
      exact walk_legs clear readsBack.2 held below
    | firstMember key =>
      have clear : Clear key rest := readsBack.1
      obtain ⟨members, items, rfl, held⟩ := Hop.next?_firstMember_eq_some_iff.mp next
      rw [pieces_pathOf_firstMember, piecesOf_of_clear clear readsBack.2, walk, step_zero]
      exact walk_legs clear readsBack.2 held below

/-! ### Documents of plain keys -/

/-- A key that is a piece of a path by itself. It may hold brackets, but not be of the form
`name[digits]`, be the digits of which script they may. -/
def IsPlain (key : String) : Prop :=
  key ≠ "" ∧ '.' ∉ key.toList ∧ '\n' ∉ key.toList ∧ ¬ HasIndex key

instance (key : String) : Decidable (IsPlain key) :=
  inferInstanceAs (Decidable (_ ∧ _))

def HasPlainKeys (data : Value) : Prop :=
  data.AllObjects fun members => ∀ key ∈ Assoc.keys members, IsPlain key

instance (data : Value) : Decidable (HasPlainKeys data) :=
  inferInstanceAs (Decidable (data.AllObjects _))

theorem HasPlainKeys.of_members {members : Members} (plain : HasPlainKeys (.object members))
    {key : String} {w : Value} (held : Assoc.get? key members = some w) :
    IsPlain key ∧ HasPlainKeys w := by
  obtain ⟨keys, values⟩ := Value.allObjects_object_iff.mp plain
  have there := Assoc.mem_of_get?_eq_some held
  exact ⟨keys key (List.mem_map_of_mem (f := Prod.fst) there), values _ there⟩

theorem isPlain_of_valueAt {data v : Value} (plain : HasPlainKeys data) {position : Position}
    (reached : valueAt data position = some v) : ∀ hop ∈ position, IsPlain hop.key := by
  induction position generalizing data with
  | nil => simp
  | cons hop rest ih =>
    obtain ⟨u, next, below⟩ := valueAt_cons_eq_some_iff.mp reached
    rw [List.forall_mem_cons]
    cases hop with
    | member key =>
      obtain ⟨members, rfl, held⟩ := Hop.next?_member_eq_some_iff.mp next
      obtain ⟨here, inside⟩ := plain.of_members held
      exact ⟨here, ih inside below⟩
    | firstMember key =>
      obtain ⟨members, items, rfl, held⟩ := Hop.next?_firstMember_eq_some_iff.mp next
      have entered := Value.allObjects_array_iff.mp plain _ (List.mem_cons_self ..)
      obtain ⟨here, inside⟩ := HasPlainKeys.of_members entered held
      exact ⟨here, ih inside below⟩

theorem clear_of_isPlain {key : String} (h : IsPlain key) (rest : Position) : Clear key rest := by
  obtain ⟨given, dotless, oneLine, plain⟩ := h
  unfold Clear
  split
  · exact ⟨dotless, given, oneLine⟩
  · exact ⟨dotless, plain⟩

theorem readsBack_of_isPlain {position : Position} (h : ∀ hop ∈ position, IsPlain hop.key) :
    ReadsBack position := by
  induction position with
  | nil => trivial
  | cons hop rest ih =>
    obtain ⟨here, below⟩ := List.forall_mem_cons.mp h
    exact ⟨clear_of_isPlain here rest, ih below⟩

theorem not_belowEmpty_of_isPlain {position : Position} (h : ∀ hop ∈ position, IsPlain hop.key) :
    ¬ BelowEmpty position := by
  rcases position with _ | ⟨_ | _, rest⟩
  · exact not_false
  · exact not_belowEmpty_of_ne_empty (h _ (List.mem_cons_self ..)).1 rest
  · exact not_false

theorem pathOf_firstMember_ne_empty (key : String) (rest : Position) :
    pathOf (.firstMember key :: rest) ≠ "" := by
  rw [pathOf, join_of_ne_empty (by decide)]
  exact textFrom_ne_empty (by simp) rest

theorem pathOf_ne_empty {hop : Hop} (h : hop.key ≠ "") (rest : Position) :
    pathOf (hop :: rest) ≠ "" := by
  cases hop with
  | member key => exact textFrom_ne_empty h rest
  | firstMember key => exact pathOf_firstMember_ne_empty key rest

/-! Plain keys are known by what is written for them, and so are the hops behind them. -/

theorem not_isPlain_of_toList_eq {key name : String} (plain : IsPlain name)
    (h : key.toList = name.toList ++ ['[', '0', ']']) : ¬ IsPlain key := by
  intro other
  exact other.2.2.2 ⟨_, _, h ▸ isIndexed_first plain.1 plain.2.2.1⟩

theorem legs_inj {key key' : String} {rest rest' : Position} (plain : IsPlain key)
    (plain' : IsPlain key') (h : ∀ hop ∈ rest, IsPlain hop.key)
    (h' : ∀ hop ∈ rest', IsPlain hop.key)
    (same : legs key.toList rest = legs key'.toList rest') : key = key' ∧ rest = rest' := by
  induction rest generalizing key key' rest' with
  | nil =>
    rcases rest' with _ | ⟨_ | _, rest'⟩
    · exact ⟨String.toList_inj.mp (List.cons.inj same).1, rfl⟩
    · exact absurd (List.cons.inj same).2.symm (legs_ne_nil _ _)
    · exact absurd (List.cons.inj same).2.symm (legs_ne_nil _ _)
  | cons hop rest ih =>
    obtain ⟨next, below⟩ := List.forall_mem_cons.mp h
    cases rest' with
    | nil => cases hop <;> exact absurd (List.cons.inj same).2 (legs_ne_nil _ _)
    | cons hop' rest' =>
      obtain ⟨next', below'⟩ := List.forall_mem_cons.mp h'
      rcases hop with a | a <;> rcases hop' with b | b <;>
        obtain ⟨first, behind⟩ := List.cons.inj same <;>
        obtain ⟨rfl, rfl⟩ := ih next next' below below' behind
      · exact ⟨String.toList_inj.mp first, rfl⟩
      · exact absurd plain (not_isPlain_of_toList_eq plain' first)
      · exact absurd plain' (not_isPlain_of_toList_eq plain first.symm)
      · exact ⟨String.toList_inj.mp (List.append_cancel_right first), rfl⟩

theorem piecesOf_inj {key key' : String} {rest rest' : Position} (plain : IsPlain key)
    (plain' : IsPlain key') (h : ∀ hop ∈ rest, IsPlain hop.key)
    (h' : ∀ hop ∈ rest', IsPlain hop.key)
    (same : piecesOf key.toList rest = piecesOf key'.toList rest') : key = key' ∧ rest = rest' := by
  rw [piecesOf_of_clear (clear_of_isPlain plain rest) (readsBack_of_isPlain h),
    piecesOf_of_clear (clear_of_isPlain plain' rest') (readsBack_of_isPlain h')] at same
  exact legs_inj plain plain' h h' same

theorem pathOf_inj {data v w : Value} (plain : HasPlainKeys data) {p q : Position}
    (hp : p ≠ []) (hq : q ≠ []) (reached : valueAt data p = some v)
    (reached' : valueAt data q = some w) (same : pathOf p = pathOf q) : p = q := by
  have keys := isPlain_of_valueAt plain reached
  have keys' := isPlain_of_valueAt plain reached'
  have shown := not_belowEmpty_of_isPlain keys
  have shown' := not_belowEmpty_of_isPlain keys'
  have written := congrArg (fun path : String => pieces '.' path.toList) same
  obtain ⟨hop, rest, rfl⟩ := List.exists_cons_of_ne_nil hp
  obtain ⟨hop', rest', rfl⟩ := List.exists_cons_of_ne_nil hq
  obtain ⟨here, below⟩ := List.forall_mem_cons.mp keys
  obtain ⟨here', below'⟩ := List.forall_mem_cons.mp keys'
  obtain ⟨_, next, -⟩ := valueAt_cons_eq_some_iff.mp reached
  obtain ⟨_, next', -⟩ := valueAt_cons_eq_some_iff.mp reached'
  -- Both begin in the same way, as the root is an object or a list.
  cases hop with
  | member key =>
    obtain ⟨_, rfl, -⟩ := Hop.next?_member_eq_some_iff.mp next
    cases hop' with
    | member key' =>
      rw [pieces_pathOf_member shown, pieces_pathOf_member shown'] at written
      obtain ⟨rfl, rfl⟩ := piecesOf_inj here here' below below' written
      rfl
    | firstMember key' =>
      obtain ⟨_, _, list, -⟩ := Hop.next?_firstMember_eq_some_iff.mp next'
      cases list
  | firstMember key =>
    obtain ⟨_, _, rfl, -⟩ := Hop.next?_firstMember_eq_some_iff.mp next
    cases hop' with
    | member key' =>
      obtain ⟨_, object, -⟩ := Hop.next?_member_eq_some_iff.mp next'
      cases object
    | firstMember key' =>
      rw [pieces_pathOf_firstMember, pieces_pathOf_firstMember, List.cons.injEq] at written
      obtain ⟨rfl, rfl⟩ := piecesOf_inj here here' below below' written.2
      rfl

/-- In a document of plain keys the listed paths are those of its positions, each of them once, in
the order in which these lie in it; and each leads to the value at its position, or nowhere just
if that is null. -/
theorem fields_of_plain_keys {data : Value} (distinct : data.Distinct)
    (plain : HasPlainKeys data) :
    fields data = (positions data).map pathOf ∧ (fields data).Nodup ∧
      (∀ position, position ∈ positions data ↔
        position ≠ [] ∧ (valueAt data position).isSome = true) ∧
      ((positions data).Pairwise fun p q => ranks data p < ranks data q) ∧
      ∀ position ∈ positions data, ∃ v, valueAt data position = some v ∧
        lookup data (pathOf position) = if v.isNull then none else some v := by
  refine ⟨fields_eq_map data, ?_, fun _ => mem_positions_iff distinct,
    pairwise_ranks_positions distinct, ?_⟩
  · rw [fields_eq_map]
    refine List.Nodup.map_on (fun p hp q hq same => ?_) (nodup_positions distinct)
    obtain ⟨given, reached⟩ := (mem_positions_iff distinct).mp hp
    obtain ⟨given', reached'⟩ := (mem_positions_iff distinct).mp hq
    obtain ⟨v, reached⟩ := Option.isSome_iff_exists.mp reached
    obtain ⟨w, reached'⟩ := Option.isSome_iff_exists.mp reached'
    exact pathOf_inj plain given given' reached reached' same
  · intro position there
    obtain ⟨given, reached⟩ := (mem_positions_iff distinct).mp there
    obtain ⟨v, reached⟩ := Option.isSome_iff_exists.mp reached
    have keys := isPlain_of_valueAt plain reached
    have found := walk_pathOf (not_belowEmpty_of_isPlain keys) (readsBack_of_isPlain keys) given
      reached
    obtain ⟨hop, rest, rfl⟩ := List.exists_cons_of_ne_nil given
    refine ⟨v, reached, ?_⟩
    rw [lookup_of_ne_empty (pathOf_ne_empty (keys hop (List.mem_cons_self ..)).1 rest), found]
    cases null : v.isNull <;> simp [Option.filter, null]

/-- Keys with brackets and keys that look like indices, below a list at the root; an inner list
begins with a list, and one member is null. -/
theorem fields_of_plain_keys_brackets :
    let data : Value := .array [
      .object [("x[", .array [.object [("0", .null), ("[0]", .string "deep")]]),
        ("n]", .object [("+5", .bool true)]), ("grid", .array [.array []])],
      .object [("later", .null)]]
    data.Distinct ∧ HasPlainKeys data ∧
      fields data = ["0.x[", "0.x[[0].0", "0.x[[0].[0]", "0.n]", "0.n].+5", "0.grid"] ∧
      (fields data).Nodup ∧
      lookup data "0.x[[0].[0]" = some (.string "deep") ∧ lookup data "0.x[[0].0" = none := by
  intro data
  have distinct : data.Distinct := by decide
  have plain : HasPlainKeys data := by decide
  have listed : positions data = [[.firstMember "x["], [.firstMember "x[", .firstMember "0"],
      [.firstMember "x[", .firstMember "[0]"], [.firstMember "n]"],
      [.firstMember "n]", .member "+5"], [.firstMember "grid"]] := by decide
  obtain ⟨paths, once, -, -, leads⟩ := fields_of_plain_keys distinct plain
  obtain ⟨v, here, found⟩ := leads [.firstMember "x[", .firstMember "[0]"] (by rw [listed]; decide)
  obtain ⟨w, there, lost⟩ := leads [.firstMember "x[", .firstMember "0"] (by rw [listed]; decide)
  cases here
  cases there
  refine ⟨distinct, plain, ?_, once, found, lost⟩
  rw [paths, listed]
  decide

end PageBuilder.Binding
