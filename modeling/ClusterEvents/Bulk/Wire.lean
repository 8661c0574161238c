import ClusterEvents.Bulk.Request
import ClusterEvents.Bulk.Answer
import ClusterEvents.Settings.Words
import ClusterEvents.Text.Hex

/-!
# Requests and answers on the wire

How a request is written for the web server of the search store, and how its answer is
read. One connection carries one request: the server closes it after its answer.
-/

namespace ClusterEvents.Bulk

/-- The server that an address names, and the path on it. -/
structure Endpoint where
  host : String
  port : Nat
  path : String
deriving DecidableEq, Repr

namespace Endpoint

/-- Whether a byte stands for itself in a path. -/
def isPlain (b : UInt8) : Bool :=
  0x21 ≤ b && b ≤ 0x7E && b ≠ 0x22 && b ≠ 0x23 && b ≠ 0x3C && b ≠ 0x3E && b ≠ 0x3F
    && b ≠ 0x5E && b ≠ 0x60 && b ≠ 0x7B && b ≠ 0x7D

/-- A byte in a path. -/
def written (b : UInt8) : String :=
  if isPlain b then String.ofList [Char.ofNat b.toNat]
  else "%" ++ Text.uppercase (Text.hex [b])

/-- A segment of a path. -/
def segment (s : String) : String :=
  String.join ((Bytes.ofString s).map written)

/-- Segments without the ones that stay where they are or lead back. -/
def resolved (segments : List String) : List String :=
  segments.foldl (fun path s =>
    if s = "." then path else if s = ".." then path.dropLast else path ++ [s]) []

/-- The server and the path of an address. Only plain connections are known. -/
def ofAddress? (address : String) : Option Endpoint := do
  let rest ← Text.afterStart? "http://".toList address.toList
  let authority := String.ofList (rest.takeWhile (· ≠ '/'))
  let segments := (Text.split '/' (String.ofList (rest.dropWhile (· ≠ '/')))).drop 1
  let path := "/" ++ "/".intercalate ((resolved segments).map segment)
  match Text.split ':' authority with
  | [host] => if host.isEmpty then none else some ⟨host, 80, path⟩
  | [host, port] =>
    let port ← Words.digits? port.toList
    if host.isEmpty ∨ 65536 ≤ port then none else some ⟨host, port, path⟩
  | _ => none

end Endpoint

/-- The end of a line on the wire. -/
def lineEnd : String := "\r\n"

/-- A request as it is written. -/
def Request.render (r : Request) (e : Endpoint) : Bytes :=
  let authorization := match r.authorization with
    | some value => ["authorization: " ++ value]
    | none => []
  let head := [
    s!"POST {e.path} HTTP/1.1",
    s!"host: {e.host}:{e.port}",
    s!"content-type: {r.contentType}",
    s!"content-length: {r.body.length}",
    "connection: close"] ++ authorization
  Bytes.ofString (lineEnd.intercalate head ++ lineEnd ++ lineEnd) ++ r.body

namespace Answer

/-- The first line of bytes without its end, and what follows. -/
def nextLine? : Bytes → Option (Bytes × Bytes)
  | 0x0D :: 0x0A :: rest => some ([], rest)
  | b :: rest => (nextLine? rest).map fun (line, after) => (b :: line, after)
  | [] => none

theorem nextLine?_length {bytes line rest : Bytes} (h : nextLine? bytes = some (line, rest)) :
    rest.length < bytes.length := by
  fun_induction nextLine? bytes generalizing line rest with
  | case1 tail =>
    cases h
    simp only [List.length_cons]
    omega
  | case2 b tail _ ih =>
    obtain ⟨⟨l, r⟩, hl, he⟩ := Option.map_eq_some_iff.1 h
    cases he
    have hlt := ih hl
    simp only [List.length_cons]
    omega
  | case3 => simp at h

/-- The lines up to an empty one, and what follows that. -/
def headLines? (bytes : Bytes) : Option (List String × Bytes) :=
  match _h : nextLine? bytes with
  | none => none
  | some ([], rest) => some ([], rest)
  | some (line, rest) => do
    let text ← line.toString?
    let (lines, body) ← headLines? rest
    some (text :: lines, body)
termination_by bytes.length
decreasing_by exact nextLine?_length _h

/-- The value of a header. -/
def header? (name : String) (lines : List String) : Option String :=
  lines.findSome? fun line =>
    let key := String.ofList (line.toList.takeWhile (· ≠ ':'))
    if Text.lowercase key = name then
      some (Text.trim (String.ofList ((line.toList.dropWhile (· ≠ ':')).drop 1)))
    else none

/-- The number that a text of hexadecimal digits stands for. -/
def hexNumber? (text : List Char) : Option Nat :=
  if text.isEmpty then none
  else text.foldl (fun n c => do some ((← n) * 16 + (← Text.hexDigit? c))) (some 0)

/-- A body that comes in chunks, each after its length; a chunk of length zero is the
last. -/
def chunks? : Nat → Bytes → Option Bytes
  | 0, _ => none
  | fuel + 1, bytes => do
    let (line, rest) ← nextLine? bytes
    let length := (← line.toString?).toList.takeWhile (· ≠ ';')
    match ← hexNumber? (Text.trimBy Text.isBlank length) with
    | 0 => some []
    | n =>
      if rest.length < n + 2 then none
      else some (rest.take n ++ (← chunks? fuel (rest.drop (n + 2))))

/-- The body of an answer with certain headers. -/
def body? (lines : List String) (rest : Bytes) : Option Bytes :=
  if (header? "transfer-encoding" lines).map Text.lowercase = some "chunked" then
    chunks? (rest.length + 1) rest
  else
    match header? "content-length" lines with
    | none => some rest
    | some length => do
      let n ← Words.digits? length.toList
      if rest.length < n then none else some (rest.take n)

/-- The answer in the bytes that a server has sent until it closed the connection. -/
def ofWire (bytes : Bytes) : Answer :=
  let read : Option Answer := do
    let (lines, rest) ← headLines? bytes
    let status ← Words.digits? ((← (Text.split ' ' (← lines.head?))[1]?).toList)
    some (.response status (← body? lines.tail rest))
  read.getD (.lost "error sending request")

end Answer

end ClusterEvents.Bulk
