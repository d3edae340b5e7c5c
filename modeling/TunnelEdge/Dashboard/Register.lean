import TunnelEdge.Dashboard.Service
/-!
# Registering a user

`AuthService.Register` (`internal/dashboard/service.go`) with the two tables that it
writes, `users` and `email_verifications` (`internal/store/pgstore`). Each has a unique
column, and a row that was deleted keeps its value taken.

The random token and the bcrypt hash are arguments. The mail that goes out at the end is
left out: when it fails, that is only logged.
-/

namespace TunnelEdge.Store

open GoLib

/-- A table with a unique index on `key`. -/
structure UniqueTable {α : Type} (key : α → String) where
  table : SerialTable α := {}
  unique : (table.rows.map fun r => key r.data).Nodup := by exact List.nodup_nil

def UniqueTable.create {α : Type} {key : α → String} (what : String) (t : UniqueTable key) (now : Time) (m : α) :
    Except String (UniqueTable key × Nat) :=
  if h : key m ∈ t.table.rows.map fun r => key r.data then
    .error ("failed to create " ++ what ++ ": duplicate key value violates unique constraint")
  else .ok ({ table := t.table.create now m, unique := SerialTable.nodup_create t.unique h }, t.table.nextID)

structure UserModel where
  email : String
  passwordHash : String
  name : String
  emailVerified : Bool
deriving DecidableEq, Repr

structure EmailVerificationModel where
  userID : Nat
  token : String
  expiresAt : Time
deriving DecidableEq, Repr

abbrev Users := UniqueTable UserModel.email

abbrev EmailVerifications := UniqueTable EmailVerificationModel.token

def Users.create (users : Users) (now : Time) (m : UserModel) : Except String (Users × Nat) :=
  UniqueTable.create "user" users now m

def EmailVerifications.create (verifications : EmailVerifications) (now : Time) (m : EmailVerificationModel) :
    Except String (EmailVerifications × Nat) :=
  UniqueTable.create "email verification" verifications now m

theorem UniqueTable.create_ne {α : Type} {key : α → String} {what : String} {t t' : UniqueTable key} {now : Time}
    {m : α} {id : Nat} (h : t.create what now m = .ok (t', id)) : t' ≠ t := by
  unfold create at h
  split at h
  · cases h
  · cases h
    intro he
    have hlen := congrArg (fun t : UniqueTable key => t.table.rows.length) he
    simp [SerialTable.create] at hlen

end TunnelEdge.Store

namespace TunnelEdge.Dashboard

open GoLib Store

/-! ## ValidateEmail -/

inductive EmailError
  | empty
  | tooLong
  | notValid (email : String)
deriving DecidableEq, Repr

/-- `^[a-zA-Z0-9._%+\-]+@[a-zA-Z0-9.\-]+\.[a-zA-Z]{2,}$`. The class before the `@` does not
have it, and no letter is a dot, so each part is as long as it can be. -/
def matchesEmail (cs : List Char) : Bool :=
  let (user, rest) := cs.span fun c => c.isAlphanum || c ∈ ['.', '_', '%', '+', '-']
  match rest with
  | '@' :: domain =>
    let (tld, rest) := domain.reverse.span Char.isAlpha
    match rest with
    | '.' :: labels =>
      user ≠ [] && decide (2 ≤ tld.length) && labels ≠ [] && labels.all fun c => c.isAlphanum || c ∈ ['.', '-']
    | _ => false
  | _ => false

example : matchesEmail "a.b+c@mail.example.org".toList = true := by decide +kernel

def validateEmail (email : String) : Except EmailError Unit :=
  if email = "" then .error .empty
  else if email.utf8ByteSize > 254 then .error .tooLong
  else if matchesEmail email.toList = false then .error (.notValid email)
  else .ok ()

/-! ## AuthService.Register -/

structure RegisterInput where
  email : String
  password : String
  name : String

inductive RegisterError
  /-- From `ValidateEmail`. -/
  | email (err : EmailError)
  | service (err : ServiceError)
deriving DecidableEq, Repr

/-- The calls that fail by themselves, with their texts. -/
structure RegisterFaults where
  hash : Option String := none
  usersCreate : Option String := none
  token : Option String := none
  verificationsCreate : Option String := none

structure AuthRepositories where
  users : Users := {}
  verifications : EmailVerifications := {}

namespace AuthService

def createUser (s : AuthRepositories) (fails : RegisterFaults) (now : Time) (input : RegisterInput)
    (passwordHash : String) : Except RegisterError (Users × Nat) :=
  match validateEmail input.email with
  | .error err => .error (.email err)
  | .ok _ =>
    if input.password.utf8ByteSize < 8 then
      .error (.service (.new .invalidArg "password must be at least 8 characters"))
    else if input.name = "" then .error (.service (.new .invalidArg "name is required"))
    else
      match fails.hash with
      | some err => .error (.service (.wrapped "failed to hash password" err))
      | none =>
        match fails.usersCreate, Users.create s.users now ⟨input.email, passwordHash, input.name, false⟩ with
        | none, .ok r => .ok r
        | _, _ => .error (.service (.new .alreadyExists "user already exists"))

/-- The rest of `Register`. -/
def createVerification (s : AuthRepositories) (fails : RegisterFaults) (now : Time) (userID : Nat) (token : String) :
    Except RegisterError EmailVerifications :=
  match fails.token with
  | some err => .error (.service (.wrapped "failed to generate verification token" err))
  | none =>
    match fails.verificationsCreate with
    | some err => .error (.service (.wrapped "failed to create email verification" err))
    | none =>
      match EmailVerifications.create s.verifications now ⟨userID, token, now + 86400 * second⟩ with
      | .error err => .error (.service (.wrapped "failed to create email verification" err))
      | .ok (verifications, _) => .ok verifications

/-- The user stays when the verification could not be made. -/
def register (s : AuthRepositories) (fails : RegisterFaults) (now : Time) (input : RegisterInput)
    (passwordHash token : String) : AuthRepositories × Except RegisterError String :=
  match createUser s fails now input passwordHash with
  | .error err => (s, .error err)
  | .ok (users, userID) =>
    match createVerification s fails now userID token with
    | .error err => ({ s with users }, .error err)
    | .ok verifications =>
      ({ users, verifications }, .ok "registration successful, please check your email to verify your account")

theorem createUser_ne {s : AuthRepositories} {fails : RegisterFaults} {now : Time} {input : RegisterInput}
    {passwordHash : String} {users : Users} {id : Nat}
    (h : createUser s fails now input passwordHash = .ok (users, id)) : users ≠ s.users := by
  unfold createUser at h
  split at h
  · cases h
  · split at h
    · cases h
    · split at h
      · cases h
      · split at h
        · cases h
        · split at h
          · rename_i hc
            cases h
            exact UniqueTable.create_ne hc
          · cases h

end AuthService

end TunnelEdge.Dashboard
