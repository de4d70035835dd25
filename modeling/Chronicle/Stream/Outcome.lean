import Chronicle.Fault
/-!
# Outcomes

What comes of one read from a log stream.
-/

namespace Chronicle

/-- What comes of a read. -/
inductive Outcome where
  | line (text : String)
  /-- The stream is over, with what followed its last newline, if anything. -/
  | ended (trailing : Option String)
  | failed (fault : Fault)
deriving DecidableEq, Repr

end Chronicle
