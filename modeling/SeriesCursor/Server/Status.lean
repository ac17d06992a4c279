import SeriesCursor.Error

/-!
The status of a reply. Code 200 is success, whatever text comes with it; any other code is an error that
keeps the server's text as it is.
-/

namespace SeriesCursor

structure Status where
  code : Int32
  message : Option String
  deriving DecidableEq, Repr

namespace Status

def successCode : Int32 := 200

def success : Status :=
  ⟨successCode, none⟩

def failure (code : Int32) (message : String) : Status :=
  ⟨code, some message⟩

def isSuccess (status : Status) : Bool :=
  status.code == successCode

def verify (status : Status) : Except Error Unit :=
  if status.isSuccess then .ok ()
  else .error (.refusedByServer status.code (status.message.getD ""))

def toText (status : Status) : String :=
  match status.message with
  | some message => toString status.code.toInt ++ ": " ++ message
  | none => toString status.code.toInt

theorem verify_eq_ok_iff (status : Status) : status.verify = .ok () ↔ status.code = 200 := by
  constructor
  · intro verified
    unfold verify at verified
    split at verified
    · rename_i success
      simpa [isSuccess, successCode] using success
    · cases verified
  · intro success
    simp [verify, isSuccess, successCode, success]

theorem verify_of_ne {status : Status} (refusal : status.code ≠ 200) :
    status.verify = .error (.refusedByServer status.code (status.message.getD "")) := by
  simp [verify, isSuccess, successCode, refusal]

end Status

end SeriesCursor
