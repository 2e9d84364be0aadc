import Qasedak.TelegramBot.Transport

/-! The answer that is read is the answer that was framed, however it was cut on its way. -/

namespace Qasedak.TelegramBot

open Foundation WizwizImport

variable {line payload coded content rest data : Bytes} {conn : Connection UInt8}

/-! ## Bodies in chunks -/

/-- The first line end comes after the line. -/
def IsLine (line : Bytes) : Prop := partition? crlf (line ++ crlf) = some (line, [])

instance (line : Bytes) : Decidable (IsLine line) := inferInstanceAs (Decidable (_ = _))

/-- A body as it is sent in chunks. Any two bytes may end a chunk. -/
inductive ChunkedBody : Bytes → Bytes → Prop
  | last {line : Bytes} (hline : IsLine line) (hsize : chunkSize line = some 0) :
      ChunkedBody (line ++ crlf) []
  | chunk {line payload lineEnd coded content : Bytes} (hline : IsLine line)
      (hsize : chunkSize line = some (payload.length : ℤ)) (hpayload : payload ≠ [])
      (hend : lineEnd.length = 2) (hrest : ChunkedBody coded content) :
      ChunkedBody (line ++ crlf ++ (payload ++ lineEnd ++ coded)) (payload ++ content)

/-- The line is found, wherever the segments end. -/
theorem fillLine_of_isLine (hline : IsLine line)
    (h : data ++ conn.incoming = line ++ crlf ++ rest) :
    ∃ tail, partition? crlf (fillLine data conn).1 = some (line, tail) ∧
      tail ++ (fillLine data conn).2.incoming = rest := by
  obtain ⟨happend, hclosed⟩ := fillLine_spec data conn
  refine partition?_of_append ?_ hclosed
  rw [happend, h]
  exact partition?_append hline rest

theorem readChunk_last (hline : IsLine line) (hsize : chunkSize line = some 0)
    (h : data ++ conn.incoming = line ++ crlf ++ rest) : readChunk data conn = .ok none := by
  obtain ⟨tail, hpart, -⟩ := fillLine_of_isLine hline h
  simp only [readChunk, hpart, hsize, if_pos]

theorem readChunk_chunk {lineEnd : Bytes} (hline : IsLine line)
    (hsize : chunkSize line = some (payload.length : ℤ)) (hpayload : payload ≠ [])
    (hend : lineEnd.length = 2)
    (h : data ++ conn.incoming = line ++ crlf ++ (payload ++ lineEnd ++ rest)) :
    ∃ data' conn', readChunk data conn = .ok (some (payload, data', conn')) ∧
      data' ++ conn'.incoming = rest := by
  obtain ⟨tail, hpart, htail⟩ := fillLine_of_isLine hline h
  obtain ⟨happend, hclosed⟩ := fillChunk_spec payload.length tail (fillLine data conn).2
  rw [htail] at happend
  have hlong : ¬ ((fillChunk payload.length tail (fillLine data conn).2).1.length : ℤ) <
      payload.length + 2 := by
    intro hshort
    have hlength := congrArg List.length happend
    rw [hclosed hshort, List.append_nil, List.length_append, List.length_append, hend] at hlength
    omega
  have hne : (payload.length : ℤ) ≠ 0 := by
    have := List.length_pos_of_ne_nil hpayload
    omega
  refine ⟨(fillChunk payload.length tail (fillLine data conn).2).1.drop (payload ++ lineEnd).length,
    (fillChunk payload.length tail (fillLine data conn).2).2, ?_, ?_⟩
  · have hpos : (0 : ℤ) ≤ (payload.length : ℤ) + 2 := by omega
    have hnat : ((payload.length : ℤ) + 2).toNat = (payload ++ lineEnd).length := by
      rw [List.length_append, hend]
      omega
    have htake : (fillChunk payload.length tail (fillLine data conn).2).1.take payload.length =
        payload := by
      have := congrArg (List.take payload.length) happend
      rwa [List.append_assoc, List.take_left, List.take_append_of_le_length (by omega)] at this
    simp only [readChunk, hpart, hsize, hne, if_false, hlong, sliceTo, sliceFrom,
      Int.natCast_nonneg, if_true, Int.toNat_natCast, htake, hpos, hnat]
  · have hdrop := congrArg (List.drop (payload ++ lineEnd).length) happend
    rwa [List.drop_left, List.drop_append_of_le_length] at hdrop
    rw [List.length_append, hend]
    omega

theorem readChunkedBody_eq (data : Bytes) (conn : Connection UInt8) :
    readChunkedBody data conn =
      match readChunk data conn with
      | .error e => .error e
      | .ok none => .ok []
      | .ok (some (chunk, data', conn')) => (readChunkedBody data' conn').map (chunk ++ ·) := by
  rw [readChunkedBody]
  split <;> next h => rw [h]

/-- A body is read as it was sent in chunks; what follows it is not looked at. -/
theorem readChunkedBody_of_chunked (h : ChunkedBody coded content)
    (hdata : data ++ conn.incoming = coded ++ rest) : readChunkedBody data conn = .ok content := by
  induction h generalizing data conn with
  | last hline hsize => rw [readChunkedBody_eq, readChunk_last hline hsize hdata]
  | @chunk line payload lineEnd coded content hline hsize hpayload hend _ ih =>
      have hsplit : data ++ conn.incoming =
          line ++ crlf ++ (payload ++ lineEnd ++ (coded ++ rest)) := by
        rw [hdata]
        simp only [List.append_assoc]
      obtain ⟨data', conn', hread, hrest⟩ := readChunk_chunk hline hsize hpayload hend hsplit
      rw [readChunkedBody_eq, hread]
      dsimp only
      rw [ih hrest]
      rfl

/-! ## Answers -/

/-- The body that follows a head, and the content that the head makes of it. -/
inductive FramedBody (head : ResponseHead) : Bytes → Bytes → Prop
  | chunked {coded content rest : Bytes} (hchunked : head.isChunked = true)
      (hcoded : ChunkedBody coded content) : FramedBody head (coded ++ rest) content
  | sized {body : Bytes} {text : String} {n : ℕ} (hchunked : head.isChunked = false)
      (htext : head.contentLength = some text) (hn : pyInt text = some (n : ℤ)) :
      FramedBody head body (body.take n)
  | unsized {body : Bytes} (hchunked : head.isChunked = false)
      (htext : head.contentLength = none) : FramedBody head body body

/-- The head is short enough to be read, or the whole answer is. -/
def HeadFits (stream head : Bytes) : Prop :=
  stream.length ≤ 65536 ∨ head.length + 4099 ≤ 65536

theorem readExact_spec (size : ℕ) (conn : Connection UInt8) :
    ∃ later, readExact size conn ++ later = conn.incoming ∧
      (size ≤ (readExact size conn).length ∨ later = []) := by
  obtain ⟨happend, hclosed⟩ := fill_spec (fun data => data.length < size)
    (fun data => min 65536 (size - data.length))
    (fun data hmore => by have := of_decide_eq_true hmore; omega) [] conn
  refine ⟨_, happend, (Nat.lt_or_ge (readExact size conn).length size).symm.imp id fun hshort => ?_⟩
  exact hclosed (decide_eq_true hshort)

theorem append_readExact (data : Bytes) (conn : Connection UInt8) (n : ℕ) :
    (data ++ readExact ((n : ℤ) - data.length).toNat conn).take n =
      (data ++ conn.incoming).take n := by
  obtain ⟨later, happend, hlong | rfl⟩ := readExact_spec ((n : ℤ) - data.length).toNat conn
  · have hle : n ≤ (data ++ readExact ((n : ℤ) - data.length).toNat conn).length := by
      rw [List.length_append]
      omega
    rw [← happend, ← List.append_assoc, List.take_append_of_le_length hle]
  · rw [← happend, List.append_nil]

theorem readBody_of_framed {head : ResponseHead} {body : Bytes} (h : FramedBody head body content)
    (hdata : data ++ conn.incoming = body) : readBody head data conn = .ok content := by
  cases h with
  | chunked hchunked hcoded =>
      rw [readBody, if_pos hchunked, readChunkedBody_of_chunked hcoded hdata]
  | @sized _ text n hchunked htext hn =>
      have hpos : (0 : ℤ) ≤ n := Int.natCast_nonneg n
      simp only [readBody, hchunked, htext, hn, sliceTo, if_pos hpos, Int.toNat_natCast,
        append_readExact, hdata, Bool.false_eq_true, if_false]
  | unsized hchunked htext =>
      obtain ⟨happend, hclosed⟩ := fill_spec (fun _ : Bytes => true) (fun _ => 65536)
        (fun _ _ => by norm_num) [] conn
      rw [hclosed rfl, List.append_nil, List.nil_append] at happend
      simp only [readBody, hchunked, htext, happend, hdata, Bool.false_eq_true, if_false]

theorem readUntil_of_head {stream head : Bytes} {arrivals : List ℕ}
    (hhead : partition? headEnd stream = some (head, rest)) (hfits : HeadFits stream head) :
    ∃ first conn tail, readUntil headEnd (64 * 1024) ⟨stream, arrivals⟩ = .ok (first, conn) ∧
      partition? headEnd first = some (head, tail) ∧ tail ++ conn.incoming = rest := by
  unfold readUntil
  cases hread : readWhile (fun data => (partition? headEnd data).isNone)
      (fun data => 64 * 1024 < data.length) (fun _ => 4096) [] ⟨stream, arrivals⟩ with
  | none =>
      obtain ⟨before, chunk, later, hmore, hlarge, hchunk, happend⟩ := readWhile_none hread
      have hlength := congrArg List.length happend
      have hlarge := of_decide_eq_true hlarge
      simp only [List.nil_append, List.length_append] at hlength hlarge
      rcases hfits with hfits | hfits
      · omega
      · -- What was there already held the whole head.
        have hstream := eq_of_partition? hhead
        have hprefix : head ++ headEnd <+: before := by
          have hbefore : before <+: stream :=
            ⟨chunk ++ later, by rw [← List.append_assoc, happend, List.nil_append]⟩
          refine List.prefix_of_prefix_length_le ⟨rest, hstream.symm⟩ hbefore ?_
          have hfour : headEnd.length = 4 := rfl
          rw [List.length_append, hfour]
          omega
        have hfound : headEnd <:+: before :=
          (List.suffix_append head headEnd).isInfix.trans hprefix.isInfix
        exact absurd (Option.isNone_iff_eq_none.mp hmore) (partition?_ne_none hfound)
  | some read =>
      obtain ⟨happend, hclosed, -⟩ := readWhile_some (fun _ _ => by norm_num) hread
      rw [List.nil_append] at happend
      obtain ⟨tail, hpart, htail⟩ := partition?_of_append (by rw [happend]; exact hhead) hclosed
      exact ⟨read.1, read.2, tail, rfl, hpart, htail⟩

/-- An answer is read as it was framed, however it arrives. -/
theorem response_read_as_framed {stream head body content : Bytes} {parsed : ResponseHead}
    (hhead : partition? headEnd stream = some (head, body)) (hfits : HeadFits stream head)
    (hparse : parseHead head = .ok parsed) (hbody : FramedBody parsed body content)
    (arrivals : List ℕ) :
    readHttpResponse ⟨stream, arrivals⟩ = .ok { head := parsed, content } := by
  obtain ⟨first, conn, tail, hread, hpart, htail⟩ := @readUntil_of_head _ _ _ arrivals hhead hfits
  simp only [readHttpResponse, hread, hpart, Option.getD_some, hparse,
    readBody_of_framed hbody htail]
  rfl

def bytesOf (s : String) : Bytes := s.toList.map fun c => UInt8.ofNat c.toNat

def chunkedHead : Bytes := bytesOf "HTTP/1.1 200 OK\r\nTransfer-Encoding: chunked"

def parsedHead : ResponseHead :=
  { statusCode := 200, reason := "OK"
    headers := (∅ : Dict String).insert "transfer-encoding" "chunked" }

theorem chunkedBody_ok :
    ChunkedBody (bytesOf "2;x=y\r\n{}\r\n0\r\n") (bytesOf "{}") :=
  @ChunkedBody.chunk (bytesOf "2;x=y") (bytesOf "{}") crlf _ _
    (by decide +kernel) (by decide +kernel) (by decide +kernel) rfl
    (@ChunkedBody.last (bytesOf "0") (by decide +kernel) (by decide +kernel))

theorem parseHead_chunkedHead : parseHead chunkedHead = .ok parsedHead := by
  with_unfolding_all rfl

theorem response_read_as_framed_two :
    readHttpResponse ⟨chunkedHead ++ headEnd ++ bytesOf "2;x=y\r\n{}\r\n0\r\n\r\n", [40, 13, 2]⟩ =
      .ok { head := parsedHead, content := bytesOf "{}" } :=
  @response_read_as_framed _ chunkedHead (bytesOf "2;x=y\r\n{}\r\n0\r\n\r\n") _ _
    (by decide +kernel) (.inl (by decide +kernel)) parseHead_chunkedHead
    (@FramedBody.chunked _ _ _ crlf (by decide +kernel) chunkedBody_ok) _

end Qasedak.TelegramBot
