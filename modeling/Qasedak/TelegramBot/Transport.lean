import Qasedak.Foundation.Dict
import Qasedak.Foundation.Reading
import Qasedak.WizwizImport.Model

/-! `telegram_bot/transport.py`: the answer of the Bot API is read from a socket. How the answer is
cut into segments on its way makes no difference to what is read. -/

namespace Qasedak.TelegramBot

open Foundation Store WizwizImport

abbrev Bytes := List UInt8

/-- How a read fails; a loop that reads on after the end of the connection never ends. -/
inductive ReadFailure
  | runtimeError (message : String)
  | valueError
  | endless
deriving DecidableEq, Repr

/-! ## The head -/

def crlf : Bytes := [13, 10]

/-- `bytes.decode("iso-8859-1")`. -/
def latin1 (bytes : Bytes) : List Char := bytes.map fun b => Char.ofNat b.toNat

/-- `str.lower` of the characters of that encoding. -/
def lowerLatin1 (c : Char) : Char :=
  if 0xC0 ≤ c.toNat ∧ c.toNat ≤ 0xDE ∧ c.toNat ≠ 0xD7 then Char.ofNat (c.toNat + 32) else c.toLower

def lower (s : String) : String := String.ofList (s.toList.map lowerLatin1)

/-- `split("\r\n")`. -/
def splitLines : List Char → List (List Char)
  | [] => [[]]
  | '\r' :: '\n' :: cs => [] :: splitLines cs
  | c :: cs =>
      match splitLines cs with
      | [] => [[c]]
      | line :: lines => (c :: line) :: lines

structure ResponseHead where
  statusCode : ℤ
  reason : String
  headers : Dict String

structure TelegramHTTPResponse where
  head : ResponseHead
  content : Bytes

/-- The second and the third part of the status line. -/
def statusParts (line : List Char) : List Char × List Char :=
  match partition? [' '] line with
  | none => ([], [])
  | some (_, rest) => (partition? [' '] rest).getD (rest, [])

def parseStatus (code : List Char) : Except ReadFailure ℤ :=
  if code ≠ [] ∧ code.all isDigitChar then
    match pyInt (String.ofList code) with
    | some status => .ok status
    | none => .error .valueError
  else .ok 0

def parseHeader (headers : Dict String) (line : List Char) : Dict String :=
  match partition? [':'] line with
  | none => headers
  | some (key, value) =>
      headers.insert (lower (strip (String.ofList key))) (strip (String.ofList value))

/-- What `_read_http_response` makes of the head. -/
def parseHead (head : Bytes) : Except ReadFailure ResponseHead :=
  let lines := splitLines (latin1 head)
  let parts := statusParts (lines.headD [])
  (parseStatus parts.1).map fun statusCode =>
    { statusCode, reason := String.ofList parts.2, headers := lines.tail.foldl parseHeader ∅ }

def ResponseHead.isChunked (h : ResponseHead) : Bool :=
  (partition? "chunked".toList (lower ((h.headers.lookup "transfer-encoding").getD "")).toList).isSome

/-- The length of the body, where the head gives one. -/
def ResponseHead.contentLength (h : ResponseHead) : Option String :=
  (h.headers.lookup "content-length").filter (· ≠ "")

/-! ## Chunks -/

def hexValue (c : Char) : Option ℕ :=
  if '0' ≤ c ∧ c ≤ '9' then some (c.toNat - 48)
  else if 'A' ≤ c ∧ c ≤ 'F' then some (c.toNat - 55)
  else if 'a' ≤ c ∧ c ≤ 'f' then some (c.toNat - 87)
  else none

/-- The digits, with single underscores between them. -/
def hexNumber (cs : List Char) : Option ℕ :=
  if [] ∈ cs.splitOn '_' then none
  else ((cs.splitOn '_').flatten.mapM hexValue).map (·.foldl (fun n d => 16 * n + d) 0)

def hexMagnitude : List Char → Option ℕ
  | '0' :: x :: cs =>
      if x = 'x' ∨ x = 'X' then hexNumber (if cs.head? = some '_' then cs.tail else cs)
      else hexNumber ('0' :: x :: cs)
  | cs => hexNumber cs

/-- `int(text, 16)`. -/
def hexInt : List Char → Option ℤ
  | '-' :: cs => (hexMagnitude cs).map fun n => -(n : ℤ)
  | '+' :: cs => (hexMagnitude cs).map fun n => (n : ℤ)
  | cs => (hexMagnitude cs).map fun n => (n : ℤ)

/-- `bytes.strip` takes these away. -/
def isBlank (c : Char) : Bool := (9 ≤ c.toNat && c.toNat ≤ 13) || c.toNat == 32

/-- The size that the line before a chunk gives. -/
def chunkSize (line : Bytes) : Option ℤ :=
  match stripChars isBlank (latin1 (line.takeWhile (· ≠ 59))) with
  | [] => some 0
  | text => hexInt text

/-- `data[:i]`. -/
def sliceTo (i : ℤ) (data : Bytes) : Bytes :=
  if 0 ≤ i then data.take i.toNat else data.take (data.length - i.natAbs)

/-- `data[i:]`. -/
def sliceFrom (i : ℤ) (data : Bytes) : Bytes :=
  if 0 ≤ i then data.drop i.toNat else data.drop (data.length - i.natAbs)

def noLine (data : Bytes) : Bool := (partition? crlf data).isNone

/-- The loop that reads until there is a line. -/
def fillLine (data : Bytes) (conn : Connection UInt8) : Bytes × Connection UInt8 :=
  fill noLine (fun _ => 4096) data conn

/-- The loop that reads until there is a chunk and its line end. -/
def fillChunk (size : ℤ) (data : Bytes) (conn : Connection UInt8) : Bytes × Connection UInt8 :=
  fill (fun data => (data.length : ℤ) < size + 2)
    (fun data => max 4096 (size + 2 - data.length).toNat) data conn

/-- One turn of the loop of `_read_chunked_body`: the end, or a chunk and what was read after it. -/
def readChunk (data : Bytes) (conn : Connection UInt8) :
    Except ReadFailure (Option (Bytes × Bytes × Connection UInt8)) :=
  let (data, conn) := fillLine data conn
  match partition? crlf data with
  | none => .error .endless
  | some (line, data) =>
      match chunkSize line with
      | none => .error .valueError
      | some size =>
          if size = 0 then .ok none
          else
            let (data, conn) := fillChunk size data conn
            if (data.length : ℤ) < size + 2 then .error .endless
            else .ok (some (sliceTo size data, sliceFrom (size + 2) data, conn))

variable {data data' chunk : Bytes} {conn conn' : Connection UInt8} {size : ℤ}

theorem fillLine_spec (data : Bytes) (conn : Connection UInt8) :
    (fillLine data conn).1 ++ (fillLine data conn).2.incoming = data ++ conn.incoming ∧
      (noLine (fillLine data conn).1 = true → (fillLine data conn).2.incoming = []) :=
  fill_spec noLine (fun _ => 4096) (fun _ _ => by norm_num) data conn

theorem fillChunk_spec (size : ℤ) (data : Bytes) (conn : Connection UInt8) :
    (fillChunk size data conn).1 ++ (fillChunk size data conn).2.incoming = data ++ conn.incoming ∧
      (((fillChunk size data conn).1.length : ℤ) < size + 2 →
        (fillChunk size data conn).2.incoming = []) := by
  obtain ⟨happend, hclosed⟩ := fill_spec (fun data => (data.length : ℤ) < size + 2)
    (fun data => max 4096 (size + 2 - data.length).toNat) (fun _ _ => by omega) data conn
  exact ⟨happend, fun hshort => hclosed (decide_eq_true hshort)⟩

theorem length_sliceFrom_le (i : ℤ) (data : Bytes) : (sliceFrom i data).length ≤ data.length := by
  unfold sliceFrom
  split <;> rw [List.length_drop] <;> omega

/-- Every turn takes the line of a chunk away. -/
theorem length_readChunk (h : readChunk data conn = .ok (some (chunk, data', conn'))) :
    data'.length + conn'.incoming.length < data.length + conn.incoming.length := by
  unfold readChunk at h
  have hline := congrArg List.length (fillLine_spec data conn).1
  dsimp only at h
  split at h
  · cases h
  · next line rest hpart =>
      have hsplit := congrArg List.length (eq_of_partition? hpart)
      split at h
      · cases h
      · next size hsize =>
          have hfill := congrArg List.length (fillChunk_spec size rest (fillLine data conn).2).1
          split at h
          · cases h
          · split at h
            · cases h
            · obtain ⟨rfl, rfl, rfl⟩ : _ = chunk ∧ _ = data' ∧ _ = conn' := by simpa using h
              have hle := length_sliceFrom_le (size + 2) (fillChunk size rest (fillLine data conn).2).1
              simp only [List.length_append, crlf, List.length_cons, List.length_nil] at hline hsplit hfill
              omega

/-- `_read_chunked_body`. -/
def readChunkedBody (data : Bytes) (conn : Connection UInt8) : Except ReadFailure Bytes :=
  match _h : readChunk data conn with
  | .error e => .error e
  | .ok none => .ok []
  | .ok (some (chunk, data', conn')) => (readChunkedBody data' conn').map (chunk ++ ·)
termination_by data.length + conn.incoming.length
decreasing_by exact length_readChunk _h

/-! ## The answer -/

/-- `_read_until`. -/
def readUntil (delimiter : Bytes) (limit : ℕ) (conn : Connection UInt8) :
    Except ReadFailure (Bytes × Connection UInt8) :=
  match readWhile (fun data => (partition? delimiter data).isNone) (fun data => limit < data.length)
      (fun _ => 4096) [] conn with
  | none => .error (.runtimeError "Telegram proxy response header is too large.")
  | some read => .ok read

/-- `_read_exact`. -/
def readExact (size : ℕ) (conn : Connection UInt8) : Bytes :=
  (fill (fun data => data.length < size) (fun data => min 65536 (size - data.length)) [] conn).1

/-- The body, of which a part was read with the head. -/
def readBody (head : ResponseHead) (body : Bytes) (conn : Connection UInt8) :
    Except ReadFailure Bytes :=
  if head.isChunked then readChunkedBody body conn
  else
    match head.contentLength with
    | none => .ok (body ++ (fill (fun _ => true) (fun _ => 65536) [] conn).1)
    | some text =>
        match pyInt text with
        | none => .error .valueError
        | some expected =>
            .ok (sliceTo expected (body ++ readExact (expected - body.length).toNat conn))

def headEnd : Bytes := crlf ++ crlf

/-- `_read_http_response`. -/
def readHttpResponse (conn : Connection UInt8) : Except ReadFailure TelegramHTTPResponse :=
  match readUntil headEnd (64 * 1024) conn with
  | .error e => .error e
  | .ok (first, conn) =>
      let (head, body) := (partition? headEnd first).getD (first, [])
      match parseHead head with
      | .error e => .error e
      | .ok head => (readBody head body conn).map fun content => { head, content }

end Qasedak.TelegramBot
