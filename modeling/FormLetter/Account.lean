import FormLetter.Json.Value
import FormLetter.Timestamp

namespace FormLetter

structure Account where
  id : Int
  username : String
  passwordHash : String
  createdAt : Timestamp
  updatedAt : Timestamp
  deriving DecidableEq

structure NewAccount where
  username : String
  passwordHash : String
  deriving DecidableEq

def NewAccount.toAccount (new : NewAccount) (id : Int) (now : Timestamp) : Account where
  id := id
  username := new.username
  passwordHash := new.passwordHash
  createdAt := now
  updatedAt := now

/-- What may be told about an account. -/
structure Profile where
  id : Int
  username : String
  createdAt : Timestamp
  deriving DecidableEq

def Account.profile (account : Account) : Profile where
  id := account.id
  username := account.username
  createdAt := account.createdAt

def Profile.toJson (profile : Profile) : Json.Value :=
  .object
    [("id", .number (.integer profile.id)),
     ("username", .string profile.username),
     ("created_at", .string profile.createdAt.text)]

end FormLetter
