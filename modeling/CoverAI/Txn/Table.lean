import Mathlib.Data.List.Nodup
import Mathlib.Data.List.Lookmap

/-!
# Tables keyed by an integer primary key

A table is the list of its rows in insertion order.  The primary key and the
CHECK constraint are fields of the structure, so a table with two rows of one
key, or with a row that fails the check, cannot be built.  The operations are
the ones a SQL program uses on a single table: look-up by key, look-up by a
condition, insertion, update of one row and the aggregate that counts the rows
with a property.
-/

namespace Txn

structure Table (row : Type) (check : row -> Bool) where
  rows : List (Int × row)
  keysNodup : (rows.map Prod.fst).Nodup
  checked : forall entry, entry ∈ rows -> check entry.2 = true

namespace Table

variable {row : Type} {check : row -> Bool}

def empty : Table row check where
  rows := []
  keysNodup := List.nodup_nil
  checked := fun _ h => nomatch h

def keys (T : Table row check) : List Int :=
  T.rows.map Prod.fst

def get (T : Table row check) (id : Int) : Option row :=
  T.rows.lookup id

/-- The first row with a property, in insertion order. -/
def first? (T : Table row check) (p : row -> Bool) : Option (Int × row) :=
  T.rows.find? (fun entry => p entry.2)

def count (T : Table row check) (p : row -> Bool) : Nat :=
  T.rows.countP (fun entry => p entry.2)

/-- Insertion under a key that is taken, or of a row that fails the check,
leaves the table as it is. -/
def insert (T : Table row check) (id : Int) (r : row) : Table row check :=
  if h : id ∉ T.rows.map Prod.fst ∧ check r = true then
    { rows := T.rows ++ [(id, r)]
      keysNodup := by
        rw [List.map_append, List.nodup_append']
        refine ⟨T.keysNodup, by simp, ?_⟩
        simpa using h.left
      checked := by
        intro entry hentry
        rcases List.mem_append.mp hentry with hold | hnew
        · exact T.checked entry hold
        · rw [List.mem_singleton.mp hnew]
          exact h.right }
  else T

def checkedUpdate (check : row -> Bool) (f : row -> row) (r : row) : row :=
  if check (f r) then f r else r

theorem check_checkedUpdate {f : row -> row} {r : row} (h : check r = true) :
    check (checkedUpdate check f r) = true := by
  unfold checkedUpdate
  split
  · assumption
  · exact h

theorem checkedUpdate_of_check {f : row -> row} {r : row}
    (h : check (f r) = true) : checkedUpdate check f r = f r :=
  if_pos h

def modifyEntry (check : row -> Bool) (id : Int) (f : row -> row)
    (entry : Int × row) : Int × row :=
  if entry.1 = id then (entry.1, checkedUpdate check f entry.2) else entry

@[simp] theorem modifyEntry_fst (id : Int) (f : row -> row)
    (entry : Int × row) : (modifyEntry check id f entry).1 = entry.1 := by
  unfold modifyEntry
  split <;> rfl

/-- Update of the row with a key, unless the new row fails the check; a key
without a row is ignored. -/
def modify (T : Table row check) (id : Int) (f : row -> row) :
    Table row check where
  rows := T.rows.map (modifyEntry check id f)
  keysNodup := by
    have hkeys :
        (T.rows.map (modifyEntry check id f)).map Prod.fst =
          T.rows.map Prod.fst := by
      simp [List.map_map, Function.comp_def]
    rw [hkeys]
    exact T.keysNodup
  checked := by
    intro entry hentry
    rcases List.mem_map.mp hentry with ⟨old, hold, rfl⟩
    have hcheck := T.checked old hold
    unfold modifyEntry
    split
    · exact check_checkedUpdate hcheck
    · exact hcheck

/-!
# Look-up by key
-/

@[simp] theorem get_empty (id : Int) :
    (empty : Table row check).get id = none := rfl

private theorem lookup_append_of_not_mem {rows : List (Int × row)} {id k : Int}
    {r : row} (hid : id ∉ rows.map Prod.fst) :
    (rows ++ [(id, r)]).lookup k =
      if k = id then some r else rows.lookup k := by
  induction rows with
  | nil =>
      by_cases hk : k = id
      · simp [hk]
      · simp [List.lookup_cons, hk, beq_eq_false_iff_ne.mpr hk]
  | cons entry rest ih =>
      rcases entry with ⟨key, value⟩
      simp only [List.map_cons, List.mem_cons, not_or] at hid
      by_cases hkey : k = key
      · have hne : ¬ k = id := by
          rw [hkey]
          exact fun h => hid.left h.symm
        simp [hkey, hkey ▸ hne]
      · simp [List.lookup_cons, beq_eq_false_iff_ne.mpr hkey, ih hid.right]

theorem get_eq_none_iff (T : Table row check) (id : Int) :
    T.get id = none <-> id ∉ T.keys := by
  simp only [get, keys, List.lookup_eq_none_iff, List.mem_map, not_exists,
    not_and, bne_iff_ne, ne_eq]
  constructor
  · intro h entry hentry heq
    exact h entry hentry heq.symm
  · intro h entry hentry heq
    exact h entry hentry heq.symm

theorem rows_insert {T : Table row check} {id : Int} {r : row}
    (h : T.get id = none) (hr : check r = true) :
    (T.insert id r).rows = T.rows ++ [(id, r)] := by
  have hmem : id ∉ T.rows.map Prod.fst := (T.get_eq_none_iff id).mp h
  unfold insert
  rw [dif_pos ⟨hmem, hr⟩]

theorem insert_of_rejected {T : Table row check} {id : Int} {r : row}
    (h : ¬ (T.get id = none ∧ check r = true)) : T.insert id r = T := by
  unfold insert
  rw [dif_neg]
  intro hentry
  rcases hentry with ⟨hmem, hr⟩
  exact h ⟨(T.get_eq_none_iff id).mpr hmem, hr⟩

theorem get_insert (T : Table row check) (id k : Int) (r : row) :
    (T.insert id r).get k =
      if k = id ∧ T.get id = none ∧ check r = true then some r
      else T.get k := by
  by_cases h : T.get id = none ∧ check r = true
  · have hmem : id ∉ T.rows.map Prod.fst := (T.get_eq_none_iff id).mp h.left
    unfold get
    rw [rows_insert h.left h.right, lookup_append_of_not_mem hmem]
    have hlook : T.rows.lookup id = none := h.left
    simp [hlook, h.right]
  · rw [insert_of_rejected h, if_neg]
    exact fun hk => h hk.right

theorem get_insert_self {T : Table row check} {id : Int} {r : row}
    (h : T.get id = none) (hr : check r = true) :
    (T.insert id r).get id = some r := by
  simp [get_insert, h, hr]

theorem get_insert_of_ne (T : Table row check) {id k : Int} (h : k ≠ id)
    (r : row) : (T.insert id r).get k = T.get k := by
  simp [get_insert, h]

theorem get_insert_of_some {T : Table row check} {k : Int} {old : row}
    (h : T.get k = some old) (id : Int) (r : row) :
    (T.insert id r).get k = some old := by
  rw [get_insert]
  by_cases hk : k = id
  · have hne : T.get id ≠ none := by
      rw [← hk, h]
      simp
    simp [hne, h]
  · simp [hk, h]

theorem get_modify (T : Table row check) (id k : Int) (f : row -> row) :
    (T.modify id f).get k =
      if k = id then (T.get id).map (checkedUpdate check f)
      else T.get k := by
  rcases T with ⟨rows, hnodup, hchecked⟩
  simp only [get, modify]
  clear hnodup hchecked
  induction rows with
  | nil => simp [List.lookup_nil]
  | cons entry rest ih =>
      rcases entry with ⟨key, value⟩
      by_cases hkey : key = id
      · by_cases hk : k = id
        · simp [modifyEntry, hkey, hk]
        · have hbeq : (k == id) = false := beq_eq_false_iff_ne.mpr hk
          simpa [modifyEntry, hkey, hk, List.lookup_cons, hbeq] using ih
      · by_cases hk : k = key
        · have hkid : ¬ k = id := fun h => hkey (hk.symm.trans h)
          simp [modifyEntry, hkey, hk]
        · have hbeq : (k == key) = false := beq_eq_false_iff_ne.mpr hk
          by_cases hkid : k = id
          · have hidkey : (id == key) = false :=
              beq_eq_false_iff_ne.mpr (fun h => hkey h.symm)
            simpa [modifyEntry, hkey, List.lookup_cons, hbeq, hidkey, hkid] using ih
          · simpa [modifyEntry, hkey, List.lookup_cons, hbeq, hkid] using ih

@[simp] theorem get_modify_self (T : Table row check) (id : Int)
    (f : row -> row) :
    (T.modify id f).get id = (T.get id).map (checkedUpdate check f) := by
  simp [get_modify]

theorem get_modify_of_ne (T : Table row check) {id k : Int} (h : k ≠ id)
    (f : row -> row) : (T.modify id f).get k = T.get k := by
  simp [get_modify, h]

/-- An update that does not touch a column leaves the column of every row. -/
theorem get_modify_column {β : Type} {T : Table row check} {id k : Int}
    {f : row -> row} {r : row} (column : row -> β)
    (hcolumn : forall r, column (f r) = column r) (hget : T.get k = some r) :
    exists r', (T.modify id f).get k = some r' ∧ column r' = column r := by
  by_cases hk : k = id
  · subst hk
    rw [get_modify_self, hget, Option.map_some]
    refine ⟨_, rfl, ?_⟩
    unfold checkedUpdate
    split
    · exact hcolumn r
    · rfl
  · rw [get_modify_of_ne _ hk]
    exact ⟨r, hget, rfl⟩

theorem get_of_mem {T : Table row check} {id : Int} {r : row}
    (h : (id, r) ∈ T.rows) : T.get id = some r := by
  rcases T with ⟨rows, hnodup, hchecked⟩
  simp only [get] at h ⊢
  clear hchecked
  induction rows with
  | nil => cases h
  | cons entry rest ih =>
      rcases entry with ⟨key, value⟩
      rw [List.map_cons, List.nodup_cons] at hnodup
      rcases List.mem_cons.mp h with heq | hrest
      · cases heq
        simp
      · have hne : id ≠ key := by
          intro heq
          apply hnodup.left
          exact List.mem_map.mpr ⟨(id, r), hrest, heq⟩
        simp [List.lookup_cons, beq_eq_false_iff_ne.mpr hne, ih hnodup.right hrest]

theorem mem_of_get {T : Table row check} {id : Int} {r : row}
    (h : T.get id = some r) : (id, r) ∈ T.rows := by
  rcases T with ⟨rows, hnodup, hchecked⟩
  simp only [get] at h ⊢
  clear hnodup hchecked
  induction rows with
  | nil => cases h
  | cons entry rest ih =>
      rcases entry with ⟨key, value⟩
      by_cases hk : id = key
      · simp [hk] at h
        simp [hk, h]
      · simp only [List.lookup_cons, beq_eq_false_iff_ne.mpr hk] at h
        exact List.mem_cons_of_mem _ (ih h)

theorem check_of_get {T : Table row check} {id : Int} {r : row}
    (h : T.get id = some r) : check r = true :=
  T.checked (id, r) (mem_of_get h)

theorem eq_of_rows_eq {T T' : Table row check} (h : T.rows = T'.rows) :
    T = T' := by
  cases T
  cases T'
  cases h
  rfl

theorem modify_of_none {T : Table row check} {id : Int} (h : T.get id = none)
    (f : row -> row) : T.modify id f = T := by
  apply eq_of_rows_eq
  refine (List.map_congr_left ?_).trans (List.map_id T.rows)
  intro entry hmem
  rcases entry with ⟨key, r⟩
  have hne : ¬ key = id := by
    intro heq
    rw [heq] at hmem
    rw [get_of_mem hmem] at h
    cases h
  simp [modifyEntry, hne]

/-- An update depends on what it makes of the row it finds. -/
theorem modify_congr {T : Table row check} {id : Int} {r : row}
    {f g : row -> row} (hget : T.get id = some r) (h : f r = g r) :
    T.modify id f = T.modify id g := by
  apply eq_of_rows_eq
  apply List.map_congr_left
  intro entry hmem
  rcases entry with ⟨key, stored⟩
  unfold modifyEntry
  split
  · rename_i hkey
    simp only at hkey
    rw [hkey] at hmem
    have heq : stored = r := Option.some.inj ((get_of_mem hmem).symm.trans hget)
    simp [checkedUpdate, heq, h]
  · rfl

/-- An update that leaves the row it finds as it is changes nothing. -/
theorem modify_eq_self {T : Table row check} {id : Int} {r : row}
    {f : row -> row} (hget : T.get id = some r) (h : f r = r) :
    T.modify id f = T := by
  rw [modify_congr hget h (g := fun stored => stored)]
  apply eq_of_rows_eq
  refine (List.map_congr_left fun entry _ => ?_).trans (List.map_id T.rows)
  simp [modifyEntry, checkedUpdate]

/-!
# Look-up by a condition
-/

theorem get_of_first? {T : Table row check} {p : row -> Bool} {id : Int}
    {r : row} (h : T.first? p = some (id, r)) : T.get id = some r :=
  get_of_mem (List.mem_of_find?_eq_some h)

theorem property_of_first? {T : Table row check} {p : row -> Bool} {id : Int}
    {r : row} (h : T.first? p = some (id, r)) : p r = true :=
  List.find?_some (p := fun entry : Int × row => p entry.2) h

theorem first?_insert_of_some {T : Table row check} {p : row -> Bool}
    {found : Int × row} (h : T.first? p = some found) (id : Int) (r : row) :
    (T.insert id r).first? p = some found := by
  by_cases hfree : T.get id = none ∧ check r = true
  · unfold first? at h ⊢
    rw [rows_insert hfree.left hfree.right, List.find?_append, h]
    rfl
  · rw [insert_of_rejected hfree]
    exact h

theorem first?_insert_of_none {T : Table row check} {p : row -> Bool}
    (h : T.first? p = none) {id : Int} {r : row} (hget : T.get id = none)
    (hr : check r = true) (hp : p r = true) :
    (T.insert id r).first? p = some (id, r) := by
  unfold first? at h ⊢
  rw [rows_insert hget hr, List.find?_append, h, Option.none_or,
    List.find?_singleton, hp]
  rfl

/-- A look-up does not see a row without its property. -/
theorem first?_insert_of_false {T : Table row check} {p : row -> Bool}
    {r : row} (hp : p r = false) (id : Int) :
    (T.insert id r).first? p = T.first? p := by
  by_cases hfree : T.get id = none ∧ check r = true
  · unfold first?
    rw [rows_insert hfree.left hfree.right, List.find?_append,
      List.find?_singleton, hp]
    exact Option.or_none
  · rw [insert_of_rejected hfree]

/-- An update that keeps the condition of every row keeps the row a look-up by
that condition finds. -/
theorem first?_modify (T : Table row check) (id : Int) {f : row -> row}
    {p : row -> Bool} (h : forall r, p (f r) = p r) :
    (T.modify id f).first? p = (T.first? p).map (modifyEntry check id f) := by
  unfold first? modify
  rw [List.find?_map]
  have hp : (fun entry : Int × row => p entry.2) ∘ modifyEntry check id f =
      fun entry => p entry.2 := by
    funext entry
    unfold modifyEntry checkedUpdate
    simp only [Function.comp_apply]
    split
    · split
      · exact h entry.2
      · rfl
    · rfl
  rw [hp]

theorem property_of_first?_none {T : Table row check} {p : row -> Bool}
    (h : T.first? p = none) {id : Int} {r : row} (hget : T.get id = some r) :
    p r = false := by
  have hall := List.find?_eq_none.mp h (id, r) (mem_of_get hget)
  simpa using hall

/-!
# One row put
-/

/-- The second table is the first one with the row under the key. -/
def Puts (T T' : Table row check) (id : Int) (r : row) : Prop :=
  forall k, T'.get k = if k = id then some r else T.get k

theorem puts_insert {T : Table row check} {id : Int} {r : row}
    (h : T.get id = none) (hr : check r = true) : Puts T (T.insert id r) id r := by
  intro k
  simp [get_insert, h, hr]

theorem puts_modify {T : Table row check} {id : Int} {old : row}
    {f : row -> row} (h : T.get id = some old) (hcheck : check (f old) = true) :
    Puts T (T.modify id f) id (f old) := by
  intro k
  rw [get_modify, h, Option.map_some, checkedUpdate_of_check hcheck]

theorem Puts.get_self {T T' : Table row check} {id : Int} {r : row}
    (h : Puts T T' id r) : T'.get id = some r := by
  rw [h id, if_pos rfl]

theorem Puts.get_of_ne {T T' : Table row check} {id k : Int} {r : row}
    (h : Puts T T' id r) (hk : k ≠ id) : T'.get k = T.get k := by
  rw [h k, if_neg hk]

/-- A row of the new table is the one that was put, or it was there. -/
theorem Puts.cases {T T' : Table row check} {id k : Int} {r found : row}
    (h : Puts T T' id r) (hget : T'.get k = some found) :
    (k = id ∧ found = r) ∨ (k ≠ id ∧ T.get k = some found) := by
  by_cases hk : k = id
  · rw [hk, h.get_self] at hget
    exact Or.inl ⟨hk, (Option.some.inj hget).symm⟩
  · rw [h.get_of_ne hk] at hget
    exact Or.inr ⟨hk, hget⟩

/-- Every key is below the bound, as the next value of a sequence is. -/
def KeysBelow (T : Table row check) (n : Int) : Prop :=
  forall id r, T.get id = some r -> id < n

theorem KeysBelow.get_eq_none {T : Table row check} {n : Int}
    (h : T.KeysBelow n) : T.get n = none := by
  cases hget : T.get n with
  | none => rfl
  | some r => exact (Int.lt_irrefl n (h n r hget)).elim

theorem KeysBelow.puts {T T' : Table row check} {n m id : Int} {r : row}
    (h : T.KeysBelow n) (hle : n ≤ m) (hid : id < m) (hputs : Puts T T' id r) :
    T'.KeysBelow m := by
  intro k found hget
  rcases hputs.cases hget with ⟨rfl, _⟩ | ⟨_, hold⟩
  · exact hid
  · exact Int.lt_of_lt_of_le (h k found hold) hle

/-!
# Counting rows
-/

@[simp] theorem count_empty (p : row -> Bool) :
    (empty : Table row check).count p = 0 := rfl

theorem count_eq_zero {T : Table row check} {p : row -> Bool}
    (h : forall id r, T.get id = some r -> p r = false) : T.count p = 0 := by
  apply List.countP_eq_zero.mpr
  intro entry hmem
  rcases entry with ⟨id, r⟩
  simp [h id r (get_of_mem hmem)]

theorem count_pos_iff {T : Table row check} {p : row -> Bool} :
    0 < T.count p <-> exists id r, T.get id = some r ∧ p r = true := by
  unfold count
  rw [List.countP_pos_iff]
  constructor
  · intro hentry
    rcases hentry with ⟨⟨id, r⟩, hmem, hp⟩
    exact ⟨id, r, get_of_mem hmem, hp⟩
  · intro hentry
    rcases hentry with ⟨id, r, hget, hp⟩
    exact ⟨(id, r), mem_of_get hget, hp⟩

theorem count_insert {T : Table row check} {id : Int} {r : row}
    (h : T.get id = none) (hr : check r = true) (p : row -> Bool) :
    (T.insert id r).count p = T.count p + if p r then 1 else 0 := by
  unfold count
  rw [rows_insert h hr]
  simp only [List.countP_append, List.countP_cons, List.countP_nil,
    Nat.zero_add]

theorem count_insert_le (T : Table row check) (id : Int) (r : row)
    (p : row -> Bool) :
    (T.insert id r).count p ≤ T.count p + if p r then 1 else 0 := by
  by_cases h : T.get id = none ∧ check r = true
  · exact Nat.le_of_eq (count_insert h.left h.right p)
  · rw [insert_of_rejected h]
    exact Nat.le_add_right _ _

/-- Updates that never give the property to a row do not raise the count. -/
theorem count_modify_le (T : Table row check) (id : Int) (f : row -> row)
    (p : row -> Bool)
    (h : forall r, T.get id = some r -> p (f r) = true -> p r = true) :
    (T.modify id f).count p ≤ T.count p := by
  simp only [count, modify, List.countP_map]
  apply List.countP_mono_left
  intro entry hmem
  rcases entry with ⟨key, value⟩
  by_cases hkey : key = id
  · have hget : T.get id = some value := hkey ▸ get_of_mem hmem
    simp only [Function.comp_apply, modifyEntry, hkey, if_true, checkedUpdate]
    split
    · exact h value hget
    · exact fun hp => hp
  · simp [modifyEntry, hkey]

theorem count_le_of_imp (T : Table row check) {p q : row -> Bool}
    (h : forall id r, T.get id = some r -> p r = true -> q r = true) :
    T.count p ≤ T.count q := by
  apply List.countP_mono_left
  intro entry hmem
  rcases entry with ⟨key, value⟩
  exact h key value (get_of_mem hmem)

end Table
end Txn
