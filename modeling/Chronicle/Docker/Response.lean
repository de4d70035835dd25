import Chronicle.Docker.Chunked
/-!
# Responses

The answer to a request: a status and a body. `Response.ofBytes?` reads one from the bytes of a
connection that is then closed. How long the body is follows from the status and the headers.
-/

namespace Chronicle

/-- An answer. -/
structure Response where
  status : Nat
  body : Body
deriving DecidableEq, Repr

namespace Body

/-- All content of a body. There is none if the body does not end. -/
def collect (b : Body) : Option (Except Fault (List UInt8)) :=
  match b.ending with
  | .complete => some (.ok (b.pieces.flatMap fun
    | .data bs => bs
    | .trailer => []))
  | .broken => some (.error .http)
  | .silent => none

/-- A body of some bytes, of which so many are announced but never come. -/
def ofBytes (bs : List UInt8) (missing : Nat) : Body where
  pieces := if bs = [] then [] else [.data bs]
  ending := if missing = 0 then .complete else .broken

end Body

namespace Response

/-- A provisional answer: the real one follows it. -/
def isProvisional (status : Nat) : Bool := 100 ≤ status && status ≤ 199 && status != 101

/-- Answers that never have a body, whatever is sent. -/
def isBare (status : Nat) : Bool := status == 101 || status == 204 || status == 304

/-- The request was successful. -/
def isSuccess (r : Response) : Bool := 200 ≤ r.status && r.status ≤ 299

/-- The body of an answer, given what follows its head. -/
def body? (line : StatusLine) (fields : List HeaderField) (rest : List UInt8) : Option Body :=
  let encodings := Head.valuesOf "transfer-encoding" fields
  let lengths := Head.valuesOf "content-length" fields
  if isBare line.status then some {}
  else if encodings ≠ [] then
    if line.version = '0' then none
    else if Head.isChunked encodings then some (Chunked.body rest)
    else some (Body.ofBytes rest 0)
  else if lengths = [] then some (Body.ofBytes rest 0)
  else (Head.length? lengths).map fun size => Body.ofBytes (rest.take size) (size - rest.length)

/-- Reads an answer. Empty lines and provisional answers before it are passed over. -/
def readFrom : Nat → List UInt8 → Option Response
  | 0, _ => none
  | fuel + 1, bs => do
    let (text, rest) ← Head.takeLine bs
    if text = [] then readFrom fuel rest
    else
      let line ← Head.statusLine? text
      let (fields, rest) ← Head.fields? Head.maxFields rest
      if isProvisional line.status then readFrom fuel rest
      else return { status := line.status, body := ← body? line fields rest }

/-- The answer in the bytes of a connection, if there is one. -/
def ofBytes? (bs : List UInt8) : Option Response := readFrom (bs.length + 1) bs

/-- An answer whose body comes by itself. -/
def make (status : Nat) (body : Body) : Response :=
  { status, body := if isBare status then {} else body }

end Response

end Chronicle
