import Chronicle.Text.Quoted
import Chronicle.Time.Stamp
/-!
# Stamped lines

A log line is a time stamp, one space and a message. `Line.read` splits it and reads the stamp;
the two ways it can fail are `LineFault`.
-/

namespace Chronicle

/-- Why a line has no usable time. -/
inductive LineFault where
  | noSpace
  | badStamp (token : String)
deriving DecidableEq, Repr

/-- What a user is told. -/
def LineFault.message : LineFault → String
  | .noSpace => "malformed line"
  | .badStamp token => "parse timestamp " ++ Quoted.quote token

/-- A message and the time it was written. -/
structure Line where
  message : String
  time : Instant
deriving DecidableEq, Repr

namespace Line

/-- The text before the first space and the text after it. -/
def split : List Char → Option (List Char × List Char)
  | [] => none
  | ' ' :: rest => some ([], rest)
  | c :: rest => (split rest).map fun (token, message) => (c :: token, message)

/-- Reads a line that starts with its time. -/
def read (raw : String) : Except LineFault Line :=
  match split raw.toList with
  | none => .error .noSpace
  | some (token, message) =>
    match Stamp.read? token with
    | none => .error (.badStamp (String.ofList token))
    | some time => .ok ⟨String.ofList message, time⟩

end Line

end Chronicle
