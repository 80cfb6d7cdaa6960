import PageBuilder.Proofs.Binding.Readback
/-! When a listed path may lead astray. A key with a dot is read as several keys and a key of the
form `name[digits]` as an element of a list, so the path of such a position can lead to another
one. It never does where every key on the way is read as it is written, or where the path can
lead nowhere; for any other way there is a document in which it does. -/
namespace PageBuilder.Binding

open Json (Value Members)
open Text (pieces)

/-- The piece has the form `name[digits]`, but the digits write no index. -/
def IsLost (piece : List Char) : Prop :=
  ∃ name digits, IsIndexed piece name digits ∧ index? digits = none

/-- The path of the position leads nowhere in any document. -/
def LeadsNowhere (position : Position) : Prop :=
  ∃ piece ∈ pieces '.' (pathOf position).toList, IsLost piece

theorem walk_of_isLost {path : List (List Char)} {piece : List Char} (h : piece ∈ path)
    (lost : IsLost piece) (v : Value) : walk v path = none := by
  induction path generalizing v with
  | nil => cases h
  | cons first rest ih =>
    rcases List.mem_cons.mp h with rfl | h
    · obtain ⟨name, digits, indexed, none⟩ := lost
      rw [walk, ofText_of_isIndexed indexed]
      simp [step, none]
    · rw [walk, Option.bind_eq_none_iff]
      exact fun next _ => ih h next

/-! ### Documents for a path -/

/-- A member through which the piece of a path leads to the value. -/
def memberFor (piece : List Char) (v : Value) : String × Value :=
  match Segment.ofText piece with
  | .key text => (String.ofList text, v)
  | .indexed name index =>
    (String.ofList name, .array (List.replicate (index.getD 0) .null ++ [v]))

/-- A document in which the pieces lead to the value. -/
def documentFor (v : Value) : List (List Char) → Value
  | [] => v
  | piece :: rest => .object [memberFor piece (documentFor v rest)]

/-- A value whose members the hop leads to. -/
def Hop.holder : Hop → Members → Value
  | .member _, members => .object members
  | .firstMember _, members => .array [.object members]

/-- A document in which the hops lead to the value. -/
def documentBelow (v : Value) : Position → Value
  | [] => v
  | hop :: rest => hop.holder [(hop.key, documentBelow v rest)]

theorem isNull_documentFor {v : Value} (h : v.isNull = false) (path : List (List Char)) :
    (documentFor v path).isNull = false := by
  cases path with
  | nil => exact h
  | cons piece rest => rfl

theorem step_memberFor {piece : List Char} (readable : ¬ IsLost piece) {members : Members}
    {v : Value} (given : v.isNull = false)
    (found : Assoc.get? (memberFor piece v).1 members = some (memberFor piece v).2) :
    step (.object members) (.ofText piece) = some v := by
  unfold memberFor at found
  by_cases indexed : ∃ name digits, IsIndexed piece name digits
  · obtain ⟨name, digits, indexed⟩ := indexed
    rw [ofText_of_isIndexed indexed] at found ⊢
    cases index : index? digits with
    | none => exact absurd ⟨name, digits, indexed, index⟩ readable
    | some i =>
      simp only [index] at found
      simp [step, found, given, Value.member?, Value.items?]
  · rw [ofText_of_not_isIndexed fun name digits h => indexed ⟨name, digits, h⟩] at found ⊢
    simp only at found
    simp [step, found, given]

theorem walk_documentFor {v : Value} (given : v.isNull = false) {path : List (List Char)}
    (readable : ∀ piece ∈ path, ¬ IsLost piece) : walk (documentFor v path) path = some v := by
  induction path with
  | nil => rfl
  | cons piece rest ih =>
    obtain ⟨here, behind⟩ := List.forall_mem_cons.mp readable
    have led := step_memberFor here (isNull_documentFor given rest) (Assoc.get?_cons_self _ _ [])
    rw [documentFor, walk, led]
    exact ih behind

theorem valueAt_holder {hop : Hop} {members : Members} {w : Value}
    (held : Assoc.get? hop.key members = some w) (rest : Position) :
    valueAt (hop.holder members) (hop :: rest) = valueAt w rest := by
  have entered : hop.members? (hop.holder members) = some members := by
    cases hop <;> rfl
  rw [valueAt, Hop.next?, entered, Option.bind_some, held, Option.bind_some]

theorem valueAt_documentBelow (v : Value) (position : Position) :
    valueAt (documentBelow v position) position = some v := by
  induction position with
  | nil => rfl
  | cons hop rest ih => exact (valueAt_holder (Assoc.get?_cons_self ..) rest).trans ih

theorem distinct_singleton {v : Value} (h : v.Distinct) (key : String) :
    (Value.object [(key, v)]).Distinct :=
  Value.distinct_object_iff.mpr ⟨List.nodup_singleton key, by simpa using h⟩

theorem distinct_holder {members : Members} (h : (Value.object members).Distinct) (hop : Hop) :
    (hop.holder members).Distinct := by
  cases hop with
  | member key => exact h
  | firstMember key => exact Value.distinct_array_iff.mpr (List.forall_mem_singleton.mpr h)

theorem distinct_memberFor {v : Value} (h : v.Distinct) (piece : List Char) :
    (memberFor piece v).2.Distinct := by
  unfold memberFor
  split
  · exact h
  · refine Value.distinct_array_iff.mpr fun w hw => ?_
    rcases List.mem_append.mp hw with filling | last
    · obtain rfl := List.eq_of_mem_replicate filling
      decide
    · obtain rfl := List.mem_singleton.mp last
      exact h

theorem distinct_documentFor {v : Value} (h : v.Distinct) (path : List (List Char)) :
    (documentFor v path).Distinct := by
  induction path with
  | nil => exact h
  | cons piece rest ih => exact distinct_singleton (distinct_memberFor ih piece) _

theorem distinct_documentBelow {v : Value} (h : v.Distinct) (position : Position) :
    (documentBelow v position).Distinct := by
  induction position with
  | nil => exact h
  | cons hop rest ih => exact distinct_holder (distinct_singleton ih _) hop

/-! ### Ways that are not read back -/

theorem fst_memberFor_ne {piece : List Char} {key : String}
    (named : ∀ name digits, IsIndexed piece name digits → name ≠ key.toList)
    (other : (¬ ∃ name digits, IsIndexed piece name digits) → piece ≠ key.toList) (v : Value) :
    (memberFor piece v).1 ≠ key := by
  have differs {text : List Char} (h : text ≠ key.toList) : String.ofList text ≠ key := by
    rintro rfl
    exact h String.toList_ofList.symm
  unfold memberFor
  by_cases indexed : ∃ name digits, IsIndexed piece name digits
  · obtain ⟨name, digits, indexed⟩ := indexed
    rw [ofText_of_isIndexed indexed]
    exact differs (named name digits indexed)
  · rw [ofText_of_not_isIndexed fun name digits h => indexed ⟨name, digits, h⟩]
    exact differs (other indexed)

theorem fst_memberFor_ne_of_dotted {piece : List Char} {key : String} (dotted : '.' ∈ key.toList)
    (dotless : '.' ∉ piece) (v : Value) : (memberFor piece v).1 ≠ key := by
  refine fst_memberFor_ne (fun name digits indexed same => dotless ?_) (fun _ same => ?_) v
  · rw [indexed.eq, same]
    exact List.mem_append_left _ dotted
  · exact dotless (same ▸ dotted)

theorem fst_memberFor_ne_of_hasIndex {key : String} (h : HasIndex key) (v : Value) :
    (memberFor key.toList v).1 ≠ key := by
  refine fst_memberFor_ne (fun name digits indexed same => ?_) (fun plain => absurd h plain) v
  have shorter := congrArg List.length indexed.eq
  simp [same] at shorter

/-- An index behind it does not make a name of a key that is empty or goes over several lines. -/
theorem fst_memberFor_ne_of_unnamed {key : String} (h : ¬ (key ≠ "" ∧ '\n' ∉ key.toList))
    (v : Value) : (memberFor (key.toList ++ ['[', '0', ']']) v).1 ≠ key := by
  refine fst_memberFor_ne (fun name digits indexed same => h ⟨fun empty => ?_, ?_⟩)
    (fun _ same => ?_) v
  · refine indexed.name_ne_nil ?_
    rw [same, empty]
    rfl
  · exact same ▸ indexed.one_line
  · simp at same

/-- The first piece that is read for a key that is not clear names another key. -/
theorem exists_piece_of_not_clear {key : String} {rest : Position} (unclear : ¬ Clear key rest) :
    ∃ piece more, piecesOf key.toList rest = piece :: more ∧
      ∀ v, (memberFor piece v).1 ≠ key := by
  by_cases dotted : '.' ∈ key.toList
  · obtain ⟨piece, more, read⟩ := List.exists_cons_of_ne_nil (piecesOf_ne_nil key.toList rest)
    have dotless : '.' ∉ piece := not_mem_of_mem_piecesOf (read ▸ List.mem_cons_self ..)
    exact ⟨piece, more, read, fst_memberFor_ne_of_dotted dotted dotless⟩
  · rcases rest with _ | ⟨next | next, rest⟩
    · exact ⟨_, _, piecesOf_nil dotted,
        fst_memberFor_ne_of_hasIndex (not_not.mp fun plain => unclear ⟨dotted, plain⟩)⟩
    · exact ⟨_, _, piecesOf_member dotted next rest,
        fst_memberFor_ne_of_hasIndex (not_not.mp fun plain => unclear ⟨dotted, plain⟩)⟩
    · exact ⟨_, _, piecesOf_firstMember dotted next rest,
        fst_memberFor_ne_of_unnamed fun named => unclear ⟨dotted, named⟩⟩

/-- In some object the key leads on along the position, but its pieces lead to another value. -/
def IsMisread (key : String) (rest : Position) : Prop :=
  ∃ members w, (Value.object members).Distinct ∧ Assoc.get? key members = some w ∧
    valueAt w rest = some (.bool false) ∧
    walk (.object members) (piecesOf key.toList rest) = some (.bool true)

/-- Beside the key there is room for the member that is taken for it. -/
theorem isMisread_of_not_clear {key : String} {rest : Position} (unclear : ¬ Clear key rest)
    (readable : ∀ piece ∈ piecesOf key.toList rest, ¬ IsLost piece) : IsMisread key rest := by
  obtain ⟨piece, more, read, differs⟩ := exists_piece_of_not_clear unclear
  obtain ⟨here, behind⟩ := List.forall_mem_cons.mp (read ▸ readable)
  let own := documentBelow (.bool false) rest
  let other := documentFor (.bool true) more
  have apart : key ≠ (memberFor piece other).1 := (differs other).symm
  have taken : Assoc.get? (memberFor piece other).1 [(key, own), memberFor piece other] =
      some (memberFor piece other).2 := by
    rw [Assoc.get?_cons, if_neg apart]
    exact Assoc.get?_cons_self ..
  have distinct : (Value.object [(key, own), memberFor piece other]).Distinct := by
    refine Value.distinct_object_iff.mpr ⟨by simpa [Assoc.keys] using apart, ?_⟩
    rw [List.forall_mem_cons, List.forall_mem_singleton]
    exact ⟨distinct_documentBelow (by decide) rest,
      distinct_memberFor (distinct_documentFor (by decide) more) piece⟩
  refine ⟨_, own, distinct, Assoc.get?_cons_self .., valueAt_documentBelow _ rest, ?_⟩
  rw [read, walk, step_memberFor here (isNull_documentFor rfl more) taken]
  exact walk_documentFor rfl behind

/-- A way that is not read back is misread in some object. The key that is not clear may come only
further down, behind keys that lead to its object. -/
theorem isMisread_of_not_readsBack {key : String} {rest : Position}
    (unread : ¬ (Clear key rest ∧ ReadsBack rest))
    (readable : ∀ piece ∈ piecesOf key.toList rest, ¬ IsLost piece) : IsMisread key rest := by
  induction rest generalizing key with
  | nil => exact isMisread_of_not_clear (fun clear => unread ⟨clear, trivial⟩) readable
  | cons hop rest ih =>
    by_cases clear : Clear key (hop :: rest)
    · have unread' : ¬ (Clear hop.key rest ∧ ReadsBack rest) := fun read => unread ⟨clear, read⟩
      have readable' : ∀ piece ∈ piecesOf hop.key.toList rest, ¬ IsLost piece := fun piece there =>
        readable piece (mem_piecesOf_cons clear.dotless there)
      obtain ⟨members, w, distinct, held, below, leads⟩ := ih unread' readable'
      have found : Assoc.get? key [(key, hop.holder members)] = some (hop.holder members) :=
        Assoc.get?_cons_self ..
      refine ⟨_, _, distinct_singleton (distinct_holder distinct hop) key, found,
        (valueAt_holder held rest).trans below, ?_⟩
      cases hop with
      | member next =>
        rw [piecesOf_member clear.dotless, walk, step_key clear.2, found]
        exact leads
      | firstMember next =>
        rw [piecesOf_firstMember clear.dotless, walk, step_first clear.2.1 clear.2.2 found]
        exact leads
    · exact isMisread_of_not_clear clear readable

theorem lookup_pathOf_of_readsBack {position : Position} (shown : ¬ BelowEmpty position)
    (readsBack : ReadsBack position) {data v w : Value} (given : position ≠ [])
    (reached : valueAt data position = some w) (found : lookup data (pathOf position) = some v) :
    v = w := by
  have walked := walk_of_lookup found
  rw [walk_pathOf shown readsBack given reached, Option.filter_eq_some_iff] at walked
  exact (Option.some.inj walked.1).symm

theorem mem_pieces_pathOf {hop : Hop} {rest : Position} (shown : ¬ BelowEmpty (hop :: rest))
    {piece : List Char} (h : piece ∈ piecesOf hop.key.toList rest) :
    piece ∈ pieces '.' (pathOf (hop :: rest)).toList := by
  cases hop with
  | member key =>
    rw [pieces_pathOf_member shown]
    exact h
  | firstMember key =>
    rw [pieces_pathOf_firstMember]
    exact List.mem_cons_of_mem _ h

/-- The path of a position begins at the members that its first hop leads to. -/
theorem lookup_holder {hop : Hop} {rest : Position} (shown : ¬ BelowEmpty (hop :: rest))
    (given : pathOf (hop :: rest) ≠ "") (members : Members) :
    lookup (hop.holder members) (pathOf (hop :: rest)) =
      walk (.object members) (piecesOf hop.key.toList rest) := by
  rw [lookup_of_ne_empty given]
  cases hop with
  | member key =>
    rw [pieces_pathOf_member shown]
    rfl
  | firstMember key =>
    rw [pieces_pathOf_firstMember, Hop.holder, walk, step_zero]
    rfl

theorem pathOf_ne_empty_of_not_readsBack {position : Position} (shown : ¬ BelowEmpty position)
    (unread : ¬ ReadsBack position) : pathOf position ≠ "" := by
  rcases position with _ | ⟨key | key, rest⟩
  · exact absurd trivial unread
  · by_cases empty : key = ""
    · subst empty
      rcases rest with _ | ⟨next | next, rest⟩
      · exact absurd ⟨by decide, trivial⟩ unread
      · exact absurd rfl shown
      · exact textFrom_firstMember_ne_empty "" next rest
    · exact textFrom_ne_empty empty rest
  · exact pathOf_firstMember_ne_empty key rest

/-- Unless the position is in an object under an empty key of the document, which its path does
not show. -/
theorem exists_astray {position : Position} (shown : ¬ BelowEmpty position)
    (unread : ¬ ReadsBack position) (readable : ¬ LeadsNowhere position) :
    ∃ data, data.Distinct ∧ position ∈ positions data ∧
      valueAt data position = some (.bool false) ∧
      lookup data (pathOf position) = some (.bool true) := by
  have given := pathOf_ne_empty_of_not_readsBack shown unread
  cases position with
  | nil => exact absurd trivial unread
  | cons hop rest =>
    obtain ⟨members, w, distinct, held, below, leads⟩ := isMisread_of_not_readsBack unread
      fun piece there lost => readable ⟨piece, mem_pieces_pathOf shown there, lost⟩
    have listed : (hop.holder members).Distinct := distinct_holder distinct hop
    have reached : valueAt (hop.holder members) (hop :: rest) = some (.bool false) :=
      (valueAt_holder held rest).trans below
    have there : (hop :: rest) ∈ positions (hop.holder members) :=
      (mem_positions_iff listed).mpr ⟨List.cons_ne_nil _ _, by rw [reached]; rfl⟩
    exact ⟨_, listed, there, reached, (lookup_holder shown given members).trans leads⟩

/-- The listed paths are those of the positions. Leaving aside positions in an object under an
empty key of the document, the path of a position leads to no other value in any document just if
every key on the way is read back, or if the path leads nowhere. -/
theorem never_astray_iff :
    (∀ data, fields data = (positions data).map pathOf) ∧
      ∀ position, ¬ BelowEmpty position →
        ((∀ data, data.Distinct → position ∈ positions data →
          ∀ v, lookup data (pathOf position) = some v → valueAt data position = some v) ↔
          ReadsBack position ∨ LeadsNowhere position) := by
  refine ⟨fields_eq_map, fun position shown => ⟨fun never => ?_, ?_⟩⟩
  · refine or_iff_not_imp_left.mpr fun unread => not_not.mp fun readable => ?_
    obtain ⟨data, distinct, there, reached, astray⟩ := exists_astray shown unread readable
    have same := (never data distinct there _ astray).symm.trans reached
    exact absurd same (by decide)
  · intro safe data distinct there v found
    obtain ⟨given, reached⟩ := (mem_positions_iff distinct).mp there
    obtain ⟨w, reached⟩ := Option.isSome_iff_exists.mp reached
    rcases safe with readsBack | ⟨piece, written, lost⟩
    · rw [lookup_pathOf_of_readsBack shown readsBack given reached found]
      exact reached
    · have nowhere := (walk_of_isLost written lost data).symm.trans (walk_of_lookup found)
      cases nowhere

/-- The way goes through an empty key below a list, and keys that are not on it look like the
pieces of its path. -/
theorem never_astray_crowded :
    let position : Position := [.member "a", .firstMember "", .member "x]"]
    let data : Value := .object [
      ("a[0]", .object [("", .object [("x]", .string "other")])]),
      ("a", .array [.object [("", .object [("x]", .string "own")])]]),
      ("a[0]..x]", .string "whole")]
    ¬ BelowEmpty position ∧ data.Distinct ∧ position ∈ positions data ∧
      pathOf position = "a[0]..x]" ∧ lookup data "a[0]..x]" = some (.string "own") ∧
      valueAt data position = some (.string "own") := by
  intro position data
  have shown : ¬ BelowEmpty position := by decide
  have distinct : data.Distinct := by decide
  have there : position ∈ positions data := by decide
  have found : lookup data "a[0]..x]" = some (.string "own") := by decide
  have readsBack : ReadsBack position := by decide
  exact ⟨shown, distinct, there, by decide, found,
    (never_astray_iff.2 position shown).mpr (.inl readsBack) data distinct there _ found⟩

/-- The path that is listed for a key with a dot leads to a member inside another one. -/
theorem astray_dotted_key :
    let data : Value := .object [("a.b", .number (.integer 1)),
      ("a", .object [("b", .number (.integer 2))])]
    data.Distinct ∧ fields data = ["a.b", "a", "a.b"] ∧
      positions data = [[.member "a.b"], [.member "a"], [.member "a", .member "b"]] ∧
      valueAt data [.member "a.b"] = some (.number (.integer 1)) ∧
      lookup data "a.b" = some (.number (.integer 2)) ∧
      ¬ ∀ position ∈ positions data, ∀ v,
        lookup data (pathOf position) = some v → valueAt data position = some v := by
  refine ⟨by decide, ?_, by decide, by decide, by decide, fun never => ?_⟩
  · rw [fields_eq_map]
    decide
  · have own := never [.member "a.b"] (by decide) (.number (.integer 2)) (by decide)
    exact absurd own (by decide)

end PageBuilder.Binding
