import Mathlib.Algebra.BigOperators.Group.List.Basic
import Mathlib.Algebra.Order.Group.Int
import Mathlib.Algebra.Ring.Int.Defs

/-!
# Accounts

An account opens with a balance and grows by entries.  Each entry carries the
balance after it; that these running balances are right is a field of the
structure.  Posting an amount is the only way an account grows.
-/

namespace Ledger

structure Entry where
  amount : Int
  balanceAfter : Int
  deriving DecidableEq

def total (entries : List Entry) : Int :=
  (entries.map Entry.amount).sum

@[simp] theorem total_nil : total [] = 0 := rfl

theorem total_append (es fs : List Entry) :
    total (es ++ fs) = total es + total fs := by
  simp [total]

@[simp] theorem total_singleton (e : Entry) : total [e] = e.amount := by
  simp [total]

/-- The balance after each entry is the opening balance plus the amounts up to
and including it. -/
def Running (opening : Int) (entries : List Entry) : Prop :=
  forall k e, entries[k]? = some e ->
    e.balanceAfter = opening + total (entries.take (k + 1))

theorem running_nil (opening : Int) : Running opening [] := by
  intro k e h
  simp at h

theorem running_append_singleton {opening : Int} {entries : List Entry}
    {e : Entry} (h : Running opening entries)
    (he : e.balanceAfter = opening + total entries + e.amount) :
    Running opening (entries ++ [e]) := by
  intro k f hf
  by_cases hk : k < entries.length
  · rw [List.getElem?_append_left hk] at hf
    rw [List.take_append_of_le_length (by omega)]
    exact h k f hf
  · have hlast : k = entries.length := by
      have hlen := (List.getElem?_eq_some_iff.mp hf).choose
      simp only [List.length_append, List.length_singleton] at hlen
      omega
    subst hlast
    have hfe : e = f := by simpa using hf
    rw [← hfe, he, List.take_of_length_le (by simp), total_append,
      total_singleton]
    omega

structure Account where
  opening : Int
  entries : List Entry
  running : Running opening entries

namespace Account

def openAt (opening : Int) : Account where
  opening := opening
  entries := []
  running := running_nil opening

def balance (a : Account) : Int :=
  a.opening + total a.entries

def post (a : Account) (amount : Int) : Account where
  opening := a.opening
  entries := a.entries ++ [{ amount := amount, balanceAfter := a.balance + amount }]
  running := running_append_singleton a.running rfl

@[simp] theorem balance_openAt (opening : Int) :
    (openAt opening).balance = opening := by
  simp [openAt, balance]

@[simp] theorem post_opening (a : Account) (amount : Int) :
    (a.post amount).opening = a.opening := rfl

@[simp] theorem post_entries (a : Account) (amount : Int) :
    (a.post amount).entries =
      a.entries ++ [{ amount := amount, balanceAfter := a.balance + amount }] :=
  rfl

@[simp] theorem balance_post (a : Account) (amount : Int) :
    (a.post amount).balance = a.balance + amount := by
  simp [balance, total_append]
  omega

end Account
end Ledger
