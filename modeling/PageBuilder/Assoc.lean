/-! Association lists under text keys. A list keeps the order in which its keys
first came, so the order that readers see is part of the value. -/
namespace PageBuilder.Assoc

variable {β : Type}

/-- The value under the first entry for `key`. -/
def get? (key : String) : List (String × β) → Option β
  | [] => none
  | (k, v) :: rest => if k = key then some v else get? key rest

/-- A known key keeps its place; a new one goes to the end. -/
def put (key : String) (value : β) : List (String × β) → List (String × β)
  | [] => [(key, value)]
  | (k, v) :: rest => if k = key then (key, value) :: rest else (k, v) :: put key value rest

def erase (key : String) (entries : List (String × β)) : List (String × β) :=
  entries.filter fun e => e.1 ≠ key

/-- Changes the value under `key`, if there is one. -/
def modify (key : String) (change : β → β) : List (String × β) → List (String × β)
  | [] => []
  | (k, v) :: rest => if k = key then (k, change v) :: rest else (k, v) :: modify key change rest

def keys (entries : List (String × β)) : List String :=
  entries.map Prod.fst

@[simp] theorem get?_nil (key : String) : get? key ([] : List (String × β)) = none := rfl

theorem get?_cons (key k : String) (v : β) (rest : List (String × β)) :
    get? key ((k, v) :: rest) = if k = key then some v else get? key rest := rfl

theorem get?_cons_self (key : String) (v : β) (rest : List (String × β)) :
    get? key ((key, v) :: rest) = some v :=
  if_pos rfl

theorem get?_cons_congr {key k : String} {v w : β} {vs ws : List (String × β)}
    (head : k = key → v = w) (tail : get? key vs = get? key ws) :
    get? key ((k, v) :: vs) = get? key ((k, w) :: ws) := by
  rw [get?_cons, get?_cons, tail]
  split
  · rw [head ‹_›]
  · rfl

theorem mem_of_get?_eq_some {key : String} {value : β} {entries : List (String × β)}
    (h : get? key entries = some value) : (key, value) ∈ entries := by
  induction entries with
  | nil => cases h
  | cons e rest ih =>
    rcases e with ⟨k, v⟩
    rw [get?_cons] at h
    split at h
    · rename_i same
      cases h
      exact same ▸ List.mem_cons_self ..
    · exact List.mem_cons_of_mem _ (ih h)

@[simp] theorem get?_put_self (key : String) (value : β) (entries : List (String × β)) :
    get? key (put key value entries) = some value := by
  induction entries with
  | nil => simp [put, get?]
  | cons e rest ih => by_cases h : e.1 = key <;> simp [put, get?, h, ih]

theorem get?_put_of_ne {key other : String} (h : key ≠ other) (value : β)
    (entries : List (String × β)) : get? other (put key value entries) = get? other entries := by
  induction entries with
  | nil => simp [put, get?, h]
  | cons e rest ih =>
    by_cases hk : e.1 = key
    · have ho : e.1 ≠ other := fun ho => h (hk.symm.trans ho)
      simp [put, get?, hk, h]
    · simp [put, get?, hk, ih]

@[simp] theorem get?_erase_self (key : String) (entries : List (String × β)) :
    get? key (erase key entries) = none := by
  induction entries with
  | nil => rfl
  | cons e rest ih =>
    by_cases h : e.1 = key
    · simpa [erase, h] using ih
    · have : erase key (e :: rest) = e :: erase key rest := by simp [erase, h]
      rw [this, get?_cons]
      simp [h, ih]

theorem get?_erase_of_ne {key other : String} (h : key ≠ other) (entries : List (String × β)) :
    get? other (erase key entries) = get? other entries := by
  induction entries with
  | nil => rfl
  | cons e rest ih =>
    by_cases hk : e.1 = key
    · have ho : e.1 ≠ other := fun ho => h (hk.symm.trans ho)
      have : erase key (e :: rest) = erase key rest := by simp [erase, hk]
      rw [this, ih, get?_cons, if_neg ho]
    · have : erase key (e :: rest) = e :: erase key rest := by simp [erase, hk]
      rw [this, get?_cons, get?_cons, ih]

theorem get?_modify_self (key : String) (change : β → β) (entries : List (String × β)) :
    get? key (modify key change entries) = (get? key entries).map change := by
  induction entries with
  | nil => rfl
  | cons e rest ih => by_cases h : e.1 = key <;> simp [modify, get?, h, ih]

theorem get?_modify_of_ne {key other : String} (h : key ≠ other) (change : β → β)
    (entries : List (String × β)) : get? other (modify key change entries) = get? other entries := by
  induction entries with
  | nil => rfl
  | cons e rest ih =>
    by_cases hk : e.1 = key
    · have ho : e.1 ≠ other := fun ho => h (hk.symm.trans ho)
      simp [modify, get?, hk, h]
    · simp [modify, get?, hk, ih]

theorem keys_append (earlier later : List (String × β)) :
    keys (earlier ++ later) = keys earlier ++ keys later :=
  List.map_append

theorem length_keys (entries : List (String × β)) : (keys entries).length = entries.length :=
  List.length_map _

theorem get?_append (key : String) (earlier later : List (String × β)) :
    get? key (earlier ++ later) = (get? key earlier).or (get? key later) := by
  induction earlier with
  | nil => rfl
  | cons e rest ih => by_cases h : e.1 = key <;> simp [get?, h, ih]

theorem get?_eq_none_iff {key : String} {entries : List (String × β)} :
    get? key entries = none ↔ key ∉ keys entries := by
  induction entries with
  | nil => simp [keys]
  | cons e rest ih => by_cases h : e.1 = key <;> simp_all [get?, keys, eq_comm]

theorem keys_put (key : String) (value : β) (entries : List (String × β)) :
    keys (put key value entries) =
      if key ∈ keys entries then keys entries else keys entries ++ [key] := by
  induction entries with
  | nil => rfl
  | cons e rest ih =>
    by_cases h : e.1 = key
    · simp [put, keys, h]
    · have cons : keys (put key value (e :: rest)) = e.1 :: keys (put key value rest) := by
        simp [put, keys, h]
      have mem : key ∈ keys (e :: rest) ↔ key ∈ keys rest := by
        simp [keys, Ne.symm h]
      rw [cons, ih]
      simp only [mem]
      split <;> rfl

theorem nodup_keys_put {entries : List (String × β)} (distinct : (keys entries).Nodup)
    (key : String) (value : β) : (keys (put key value entries)).Nodup := by
  rw [keys_put]
  split
  · exact distinct
  · rename_i fresh
    rw [List.nodup_append]
    refine ⟨distinct, by simp, fun known hk new hn same => fresh ?_⟩
    rwa [← List.mem_singleton.mp hn, ← same]

theorem eq_or_mem_of_mem_put {key : String} {value : β} {entries : List (String × β)}
    {e : String × β} (h : e ∈ put key value entries) : e = (key, value) ∨ e ∈ entries := by
  induction entries with
  | nil => exact .inl (List.mem_singleton.mp h)
  | cons first rest ih =>
    rw [put] at h
    split at h
    · exact (List.mem_cons.mp h).imp_right (List.mem_cons_of_mem _)
    · rcases List.mem_cons.mp h with rfl | h
      · exact .inr (List.mem_cons_self ..)
      · exact (ih h).imp_right (List.mem_cons_of_mem _)

/-! ### Many puts, one after the other -/

/-- Of the entries that are put under one key the last stays. -/
theorem get?_foldl_put (key : String) (added entries : List (String × β)) :
    get? key (added.foldl (fun done e => put e.1 e.2 done) entries) =
      (get? key added.reverse).or (get? key entries) := by
  induction added generalizing entries with
  | nil => rfl
  | cons e rest ih =>
    rw [List.foldl_cons, ih, List.reverse_cons, get?_append, Option.or_assoc]
    apply congrArg
    by_cases h : e.1 = key
    · subst h
      simp [get?]
    · simp [get?, h, get?_put_of_ne h]

/-- Keys that were there keep their places; new ones follow in the order in which they first
came. -/
theorem keys_foldl_put (added entries : List (String × β)) :
    keys (added.foldl (fun done e => put e.1 e.2 done) entries) =
      keys entries ++ ((keys added).filter fun key => key ∉ keys entries).eraseDups := by
  induction added generalizing entries with
  | nil => simp [keys]
  | cons e rest ih =>
    have cons : keys (e :: rest) = e.1 :: keys rest := rfl
    rw [List.foldl_cons, ih, keys_put, cons]
    by_cases known : e.1 ∈ keys entries
    · rw [if_pos known, List.filter_cons_of_neg (by simpa using known)]
    · have fresh : ((keys rest).filter fun key => key ∉ keys entries ++ [e.1]) =
          ((keys rest).filter fun key => key ∉ keys entries).filter fun key => !key == e.1 := by
        rw [List.filter_filter]
        refine List.filter_congr fun key _ => ?_
        by_cases same : key = e.1 <;> simp [same]
      rw [if_neg known, List.filter_cons_of_pos (by simpa using known), List.eraseDups_cons, fresh,
        List.append_assoc, List.singleton_append]

/-- Where no two records have one key, each is found under its own. -/
theorem find?_key_of_mem {α : Type} {key : α → String} {records : List α}
    (distinct : (records.map key).Nodup) {x : α} (h : x ∈ records) :
    (records.find? fun y => key y = key x) = some x := by
  induction records with
  | nil => cases h
  | cons y rest ih =>
    rw [List.map_cons, List.nodup_cons] at distinct
    rcases List.mem_cons.mp h with rfl | later
    · simp
    · have other : key y ≠ key x := fun same => distinct.1 (same ▸ List.mem_map_of_mem later)
      rw [List.find?_cons_of_neg (by simpa using other)]
      exact ih distinct.2 later

end PageBuilder.Assoc
