import CoverAI.Txn.Footprint
import CoverAI.Txn.Table

/-!
# Rosters

A column of a table shows something of each row under the row's key, in
insertion order.  It is a roster if every statement leaves the entries that are
there and adds new ones at the end.  What a look-up has found on a roster it
finds ever after, whatever sessions run in between.
-/

namespace Txn

/-!
# Columns
-/

namespace Table

variable {row γ : Type} {check : row -> Bool} {f : row -> γ}
  {T T' : Table row check}

def column (f : row -> γ) (T : Table row check) : List (Int × γ) :=
  T.rows.map fun entry => (entry.1, f entry.2)

theorem lookup_column (f : row -> γ) (T : Table row check) (id : Int) :
    (T.column f).lookup id = (T.get id).map f := by
  unfold column get
  generalize T.rows = rows
  induction rows with
  | nil => rfl
  | cons entry rest ih =>
      rcases entry with ⟨key, r⟩
      rw [List.map_cons, List.lookup_cons, List.lookup_cons]
      cases id == key with
      | true => rfl
      | false => exact ih

/-- An update that leaves the column of the rows leaves the column. -/
theorem column_modify {g : row -> row} (h : forall r, f (g r) = f r)
    (T : Table row check) (id : Int) :
    (T.modify id g).column f = T.column f := by
  unfold column modify
  rw [List.map_map]
  apply List.map_congr_left
  intro entry _
  simp only [Function.comp_apply, modifyEntry, checkedUpdate]
  split
  · split
    · rw [h]
    · rfl
  · rfl

theorem column_insert (f : row -> γ) (T : Table row check) (id : Int)
    (r : row) : T.column f <+: (T.insert id r).column f := by
  by_cases hfree : T.get id = none ∧ check r = true
  · unfold column
    rw [rows_insert hfree.left hfree.right, List.map_append]
    exact List.prefix_append _ _
  · refine ⟨[], ?_⟩
    rw [insert_of_rejected hfree, List.append_nil]

/-- A row is found ever after, with what the roster shows of it. -/
theorem get_of_column_prefix (h : T.column f <+: T'.column f) {id : Int}
    {r : row} (hget : T.get id = some r) :
    exists r', T'.get id = some r' ∧ f r' = f r := by
  rcases h with ⟨added, hadded⟩
  have hfound : (T'.column f).lookup id = some (f r) := by
    rw [← hadded, List.lookup_append, lookup_column, hget]
    rfl
  rw [lookup_column] at hfound
  exact Option.map_eq_some_iff.mp hfound

theorem find?_column {p : row -> Bool} {p' : γ -> Bool}
    (hp : forall r, p r = p' (f r)) (T : Table row check) :
    (T.column f).find? (fun entry => p' entry.2) =
      (T.first? p).map fun entry => (entry.1, f entry.2) := by
  unfold column first?
  rw [List.find?_map]
  congr 2
  funext entry
  exact (hp entry.2).symm

/-- The first row with a property that the roster shows stays the first. -/
theorem first?_of_column_prefix (h : T.column f <+: T'.column f)
    {p : row -> Bool} (q : γ -> Bool) (hp : forall r, p r = q (f r))
    {id : Int} {r : row} (hfirst : T.first? p = some (id, r)) :
    exists r', T'.first? p = some (id, r') ∧ f r' = f r := by
  rcases h with ⟨added, hadded⟩
  have hfound : (T'.column f).find? (fun entry => q entry.2) =
      some (id, f r) := by
    rw [← hadded, List.find?_append, find?_column hp, hfirst]
    rfl
  rw [find?_column hp] at hfound
  rcases Option.map_eq_some_iff.mp hfound with ⟨entry, hentry, heq⟩
  rcases Prod.mk.inj heq with ⟨rfl, hcolumn⟩
  exact ⟨entry.2, hentry, hcolumn⟩

end Table

/-!
# Programs that only go forward
-/

section Forward

variable {S : Signature} {R : S.Db -> S.Db -> Prop}

/-- Every write leads to a later database. -/
def Footprint.forward (R : S.Db -> S.Db -> Prop) : Footprint S where
  sees := fun _ => True
  writes := fun w => forall db, R db (w.apply db)
  draws := fun _ => True
  emits := fun _ => True
  raises := fun _ => True

namespace Program

variable {α β : Type}

def Advances (R : S.Db -> S.Db -> Prop) (p : Program S α) : Prop :=
  p.Within (Footprint.forward R) fun _ => True

theorem advances_ret (a : α) : (ret a : Program S α).Advances R :=
  trivial

theorem advances_raise (e : S.Exc) : (raise e : Program S α).Advances R :=
  trivial

theorem advances_bind {p : Program S β} {f : β -> Program S α}
    (hp : p.Advances R) (hf : forall b, (f b).Advances R) :
    (p.bind f).Advances R :=
  within_bind hp fun b _ => hf b

theorem advances_void {p : Program S α} (h : p.Advances R) :
    p.void.Advances R :=
  advances_bind h fun _ => advances_ret ()

theorem advances_tryCatch {p : Program S α} {h : S.Exc -> Program S α}
    (hp : p.Advances R) (hh : forall e, (h e).Advances R) :
    (p.tryCatch h).Advances R :=
  within_tryCatch hp fun e _ => hh e

theorem advances_ask_bind {q : S.Db -> β} {f : β -> Program S α}
    (h : forall v, (f (q v)).Advances R) : ((ask q).bind f).Advances R :=
  fun v _ => h v

theorem advances_forUpdate_bind {r : S.Lock} {q : S.Db -> β}
    {f : β -> Program S α} (h : forall v, (f (q v)).Advances R) :
    ((forUpdate r q).bind f).Advances R :=
  fun v _ => h v

theorem advances_draw_bind {t : S.Seq} {f : Int -> Program S α}
    (h : forall id, (f id).Advances R) : ((draw t).bind f).Advances R :=
  ⟨trivial, h⟩

theorem advances_flush {rs : List S.Lock} {ws : List (Write S)}
    (h : forall w, w ∈ ws -> forall db, R db (w.apply db)) :
    (flushUnit rs ws).Advances R :=
  within_flushUnit h (fun _ _ _ _ _ => trivial) trivial

theorem advances_flush_bind {rs : List S.Lock} {ws : List (Write S)}
    {f : Unit -> Program S α}
    (h : forall w, w ∈ ws -> forall db, R db (w.apply db))
    (hf : (f ()).Advances R) : ((flushUnit rs ws).bind f).Advances R :=
  advances_bind (advances_flush h) fun _ => hf

theorem Advances.keeps [IsTrans S.Db R] {p : Program S α}
    (h : p.Advances R) (db : S.Db) : p.Keeps (R db) := by
  apply within_mono h
  · exact fun _ _ => trivial
  · exact fun w hw _ hdb => IsTrans.trans _ _ _ hdb (hw _)
  · exact fun _ _ => trivial
  · exact fun _ _ => trivial
  · exact fun _ _ => trivial
  · exact fun _ _ => trivial

/-- A transaction leads to a later database, also when it rolls back. -/
theorem Advances.transact [Std.Refl R] [IsTrans S.Db R] {p : Program S α}
    (h : p.Advances R) (s : Store S) : R s.db (p.transact s).2.db :=
  (h.keeps s.db).transact (Std.Refl.refl s.db)

end Program

/-- In any interleaving the committed database only goes forward, from whichever
moment on. -/
theorem World.Reaches.forward {α : Type} {adm : World S α -> Act S α -> Prop}
    {s : Store S} {w w' : World S α} [Std.Refl R] [IsTrans S.Db R]
    (hrun : Reaches adm (World.init s) w) (hlater : Reaches adm w w')
    (h : forall u i p, adm u (.start i p) -> p.Advances R) :
    R w.committed w'.committed := by
  have hkeepers : w.Keepers (R w.committed) := by
    apply hrun.keepers
    · intro i own p hproc
      cases hproc
    · exact fun u i p _ hadm => (h u i p hadm).keeps _
  have hall : w'.Keepers (R w.committed) ∧ R w.committed w'.committed := by
    induction hlater with
    | refl => exact ⟨hkeepers, Std.Refl.refl _⟩
    | @step u u' a _ hadm hexec ih =>
        rcases ih with ⟨hopen, hlate⟩
        have hm := moves_of_exec hexec
        constructor
        · apply hopen.step hm
          intro i p heq
          subst heq
          exact (h u i p hadm).keeps _
        · exact hopen.committed hm hlate
  exact hall.right

end Forward

end Txn
