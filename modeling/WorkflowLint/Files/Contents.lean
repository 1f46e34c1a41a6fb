/-!
# Contents of files

What reading the text of a file can come to, whoever does the reading.
-/

namespace WorkflowLint

/-- Why there is no text to read at a location. -/
inductive ReadError
  | missing
  /-- The system refused, and gave a reason and a number. -/
  | refused (reason : String) (number : Nat)
  /-- The octets of the file are not the octets of a text. -/
  | notText
  /-- No location has a null character. -/
  | nullInLocation
  deriving DecidableEq, Repr

namespace ReadError

/-- A step goes on from a file. -/
def notADirectory : ReadError :=
  .refused "Not a directory" 20

/-- What lies at the location is a directory. -/
def isADirectory : ReadError :=
  .refused "Is a directory" 21

/-- A name of the location, or the location itself, is too long. -/
def nameTooLong : ReadError :=
  .refused "File name too long" 36

/-- The file may not be read. -/
def denied : ReadError :=
  .refused "Permission denied" 13

/-- The error with a number of the system, in its usual wording if it has one. -/
def ofNumber (number : Nat) (reason : String) : ReadError :=
  match number with
  | 2 => missing
  | 13 => denied
  | 20 => notADirectory
  | 21 => isADirectory
  | 36 => nameTooLong
  | n => refused reason n

/-- The wording of a refusal of the system. -/
def refusal (reason : String) (number : Nat) : String :=
  reason ++ " (os error " ++ toString number ++ ")"

def message : ReadError → String
  | .missing => refusal "No such file or directory" 2
  | .refused reason number => refusal reason number
  | .notText => "stream did not contain valid UTF-8"
  | .nullInLocation => "file name contained an unexpected NUL byte"

end ReadError

/-- What reading a file comes to. -/
abbrev Contents := Except ReadError String

/-- The text of octets. -/
def Contents.ofOctets (octets : ByteArray) : Contents :=
  match String.fromUTF8? octets with
  | some text => .ok text
  | none => .error .notText

end WorkflowLint
