import Mathlib.Data.List.Basic

/-!
# Cooperative tasks

The tasks of a pool share a state, and one of them runs at a time.  A task that
waits is resumed with an input and runs without a break until it waits again.
The log holds what the tasks have recorded, turn by turn.
-/

namespace Coop

variable {Task Input State Event : Type}

/-- What a task does between two of its waits. -/
structure Segment (Task State Event : Type) where
  task : Task
  state : State
  events : List Event

abbrev Resume (Task Input State Event : Type) : Type :=
  Task -> Input -> State -> Segment Task State Event

/-- The number of the task and the events of its turn. -/
abbrev Turn (Event : Type) : Type :=
  Nat × List Event

structure Pool (Task State Event : Type) where
  tasks : List Task
  state : State
  log : List (Turn Event)

/-- The events of one task, in order. -/
def own (i : Nat) (log : List (Turn Event)) : List Event :=
  (log.filter fun turn => turn.1 = i).flatMap Prod.snd

def replay (apply : State -> Event -> State) (s : State)
    (log : List (Turn Event)) : State :=
  (log.flatMap Prod.snd).foldl apply s

namespace Pool

def start (tasks : List Task) (s : State) : Pool Task State Event where
  tasks := tasks
  state := s
  log := []

/-- A turn of a task the pool does not have changes nothing. -/
def turn (resume : Resume Task Input State Event)
    (P : Pool Task State Event) (choice : Nat × Input) :
    Pool Task State Event :=
  match P.tasks[choice.1]? with
  | none => P
  | some task =>
      let segment := resume task choice.2 P.state
      { tasks := P.tasks.set choice.1 segment.task
        state := segment.state
        log := P.log ++ [(choice.1, segment.events)] }

/-- The schedule chooses the tasks and what they are resumed with. -/
def run (resume : Resume Task Input State Event)
    (P : Pool Task State Event) (schedule : List (Nat × Input)) :
    Pool Task State Event :=
  schedule.foldl (turn resume) P

theorem length_turn (resume : Resume Task Input State Event)
    (P : Pool Task State Event) (choice : Nat × Input) :
    (P.turn resume choice).tasks.length = P.tasks.length := by
  unfold turn
  cases P.tasks[choice.1]? with
  | none => rfl
  | some task => exact List.length_set

theorem length_run (resume : Resume Task Input State Event)
    (P : Pool Task State Event) (schedule : List (Nat × Input)) :
    (P.run resume schedule).tasks.length = P.tasks.length := by
  induction schedule generalizing P with
  | nil => rfl
  | cons choice schedule ih => exact (ih _).trans (length_turn resume P choice)

end Pool

/-!
# Logs
-/

section Logs

variable (log : List (Turn Event)) {apply : State -> Event -> State} {s : State}

theorem own_append_self (i : Nat) (es : List Event) :
    own i (log ++ [(i, es)]) = own i log ++ es := by
  simp [own]

theorem own_append_of_ne {i j : Nat} (h : j ≠ i) (es : List Event) :
    own i (log ++ [(j, es)]) = own i log := by
  simp [own, h]

theorem replay_append (i : Nat) (es : List Event) :
    replay apply s (log ++ [(i, es)]) = es.foldl apply (replay apply s log) := by
  simp [replay]

theorem exists_split {q : Nat} {turn : Turn Event}
    (h : log[q]? = some turn) :
    exists before after, log = before ++ turn :: after ∧ before.length = q := by
  rcases List.getElem?_eq_some_iff.mp h with ⟨hq, hturn⟩
  refine ⟨log.take q, log.drop (q + 1), ?_,
    List.length_take_of_le (Nat.le_of_lt hq)⟩
  rw [← hturn, ← List.drop_eq_getElem_cons hq, List.take_append_drop]

theorem getElem?_split (before after : List (Turn Event))
    (turn : Turn Event) :
    (before ++ turn :: after)[before.length]? = some turn := by
  rw [List.getElem?_append_right (Nat.le_refl _), Nat.sub_self,
    List.getElem?_cons_zero]

/-- The turns between two positions. -/
theorem mem_between {before mid after : List (Turn Event)}
    {first last turn : Turn Event} {r : Nat} (hlow : before.length < r)
    (hhigh : r < (before ++ first :: mid).length)
    (h : (before ++ first :: mid ++ last :: after)[r]? = some turn) :
    turn ∈ mid := by
  rw [List.getElem?_append_left hhigh,
    List.getElem?_append_right (Nat.le_of_lt hlow)] at h
  rcases Nat.exists_eq_add_of_lt hlow with ⟨k, rfl⟩
  have hindex : before.length + k + 1 - before.length = k + 1 := by omega
  rw [hindex, List.getElem?_cons_succ] at h
  exact List.mem_of_getElem? h

end Logs

/-!
# Proof outlines

An assertion about a task speaks of the task and of what it has recorded so
far.  The turns of the other tasks cannot break it, so it is enough that each
segment of the task keeps it.
-/

section Outline

variable {resume : Resume Task Input State Event}
  {apply : State -> Event -> State}
  {asserts : Nat -> Task -> List Event -> Prop} {s : State}

/-- The events of a segment tell what it does to the state. -/
def RecordsState (resume : Resume Task Input State Event)
    (apply : State -> Event -> State) : Prop :=
  forall t input s,
    (resume t input s).state = (resume t input s).events.foldl apply s

def KeepsAssertion (resume : Resume Task Input State Event)
    (asserts : Nat -> Task -> List Event -> Prop) : Prop :=
  forall i t es input s, asserts i t es ->
    asserts i (resume t input s).task (es ++ (resume t input s).events)

/-- The assertions hold, the state is the replay of the log, and every turn of
the log was a segment of a task with its assertion, from the state the earlier
turns had left. -/
structure Traced (resume : Resume Task Input State Event)
    (apply : State -> Event -> State)
    (asserts : Nat -> Task -> List Event -> Prop) (s : State)
    (P : Pool Task State Event) : Prop where
  tasks : forall i t, P.tasks[i]? = some t -> asserts i t (own i P.log)
  state : P.state = replay apply s P.log
  turns : forall before i es after, P.log = before ++ (i, es) :: after ->
    exists t input, asserts i t (own i before) ∧
      (resume t input (replay apply s before)).events = es

theorem traced_start {tasks : List Task}
    (h : forall i t, tasks[i]? = some t -> asserts i t []) :
    Traced resume apply asserts s (Pool.start tasks s) where
  tasks := h
  state := rfl
  turns := by
    intro before i es after heq
    exact (List.append_ne_nil_of_right_ne_nil before (List.cons_ne_nil _ _)
      heq.symm).elim

theorem Traced.turn (hrecords : RecordsState resume apply)
    (hkeeps : KeepsAssertion resume asserts) {P : Pool Task State Event}
    (h : Traced resume apply asserts s P) (choice : Nat × Input) :
    Traced resume apply asserts s (P.turn resume choice) := by
  unfold Pool.turn
  cases htask : P.tasks[choice.1]? with
  | none => exact h
  | some task =>
      have hassert := h.tasks choice.1 task htask
      constructor
      · intro i t ht
        simp only at ht ⊢
        rw [List.getElem?_set] at ht
        split at ht
        · rename_i heq
          split at ht
          · cases ht
            rw [← heq, own_append_self]
            exact hkeeps _ _ _ _ _ hassert
          · cases ht
        · rename_i hne
          rw [own_append_of_ne P.log hne]
          exact h.tasks i t ht
      · simp only
        rw [hrecords, replay_append, h.state]
      · intro before i es after heq
        simp only at heq
        rcases List.eq_nil_or_concat after with rfl | ⟨after', last, rfl⟩
        · rcases List.append_inj' heq rfl with ⟨rfl, hlast⟩
          cases hlast
          rw [← h.state]
          exact ⟨task, choice.2, hassert, rfl⟩
        · rw [List.concat_eq_append, ← List.cons_append,
            ← List.append_assoc] at heq
          exact h.turns before i es after' (List.append_inj' heq rfl).left

theorem Traced.run (hrecords : RecordsState resume apply)
    (hkeeps : KeepsAssertion resume asserts) {P : Pool Task State Event}
    (h : Traced resume apply asserts s P) (schedule : List (Nat × Input)) :
    Traced resume apply asserts s (P.run resume schedule) := by
  induction schedule generalizing P with
  | nil => exact h
  | cons choice schedule ih => exact ih (h.turn hrecords hkeeps choice)

end Outline

end Coop
