import CoverAI.Infra.Database

/-!
# User repository

An insertion draws its key from the table's sequence.  A row a repository has
mapped to an entity is not referenced any more, so a later look-up reads it
again; `held` is the caller's row where a route still references it.
-/

namespace CoverAI

open Txn Program

def userById (held : Option User) (userId : Int) : Session (Option User) :=
  match held with
  | some user => ret (some user)
  | none => select fun db => db.users.get userId

def userByEmail (email : String) : Session (Option (Int × User)) :=
  select fun db => db.users.first? fun u => u.email = some email

def userByTelegramId (telegramId : Int) : Session (Option (Int × User)) :=
  select fun db => db.users.first? fun u => u.telegramId = some telegramId

def uniqueUserKeys (user : User) : List LockName :=
  user.email.toList.map LockName.userEmail ++
    user.telegramId.toList.map LockName.userTelegramId

def createUser (user : User) : Session Int := do
  let id ← draw SeqName.users
  flushUnit (uniqueUserKeys user) [insertUser id user]
  return id

def updatePlan (userId : Int) (plan : Plan) : Session (Option User) := do
  match ← select fun db => db.users.get userId with
  | none => return none
  | some row => do
      let edited := { row with plan := plan }
      flushUnit [LockName.user userId] [updateUser userId row edited]
      return some edited

end CoverAI
