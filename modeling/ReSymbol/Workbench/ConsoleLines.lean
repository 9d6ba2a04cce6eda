import ReSymbol.Schemes.Lines
import ReSymbol.Schemes.Texts

/-! Lines of the console.

    The console reads bounded lines from a buffered reader. The reader hands out the stream in
    pieces of any length. A line is collected piece by piece; a line above the limit is read to its
    end and reported once, so that the next call starts at the following line.

        pieces   │ab│c⏎d│e⏎…        lines   abc⏎  de⏎  …
                  bytes grows          ▲ one call for each line -/

namespace ReSymbol.Workbench
open Schemes

/-! ### The reader -/

/-- A stream that is handed out in pieces. The next piece is `cuts 0 + 1` bytes long, unless the
    stream ends before. -/
structure PieceReader where
  rest : List UInt8
  cuts : ℕ → ℕ

namespace PieceReader

/-- `fill_buf`: the next piece, empty at the end of the stream only. -/
def fillBuf (reader : PieceReader) : List UInt8 := reader.rest.take (reader.cuts 0 + 1)

def consume (reader : PieceReader) (amount : ℕ) : PieceReader where
  rest := reader.rest.drop amount
  cuts call := reader.cuts (call + 1)

end PieceReader

/-! ### Reading a line -/

def isNewline (byte : UInt8) : Bool := byte = 0x0a

inductive LineError where
  /-- "line exceeds the N-byte transport limit" -/
  | tooLong (maximumBytes : ℕ)
  /-- "line is not valid UTF-8", with a description of where the bytes fail -/
  | notUtf8 (bytes : List UInt8)

/-- `String::from_utf8`. -/
def decodeLine (bytes : List UInt8) : Except LineError (Option String) :=
  match String.fromUTF8? bytes.toByteArray with
  | some text => .ok (some text)
  | none => .error (.notUtf8 bytes)

/-- Through the first newline of a piece, or to its end. -/
def consumedOf (available : List UInt8) : ℕ := lineLength isNewline available

def endedAt (available : List UInt8) : Bool :=
  (available[consumedOf available - 1]?).any isNewline

theorem length_consume_lt {reader : PieceReader} (h : reader.fillBuf ≠ []) :
    (reader.consume (consumedOf reader.fillBuf)).rest.length < reader.rest.length := by
  have hpos : 0 < consumedOf reader.fillBuf := lineLength_pos h
  have hne : reader.rest ≠ [] := by
    intro hrest
    exact h (by rw [PieceReader.fillBuf, hrest, List.take_nil])
  have hlen := List.length_pos_of_ne_nil hne
  rw [PieceReader.consume, List.length_drop]
  omega

def drainThroughNewline (reader : PieceReader) : PieceReader :=
  if _h : reader.fillBuf = [] then reader
  else
    if endedAt reader.fillBuf then reader.consume (consumedOf reader.fillBuf)
    else drainThroughNewline (reader.consume (consumedOf reader.fillBuf))
termination_by reader.rest.length
decreasing_by exact length_consume_lt _h

/-- The loop of `read_bounded_line`: `bytes` is what was collected of the line. -/
def collectLine (maximumBytes : ℕ) (reader : PieceReader) (bytes : List UInt8) :
    Except LineError (Option String) × PieceReader :=
  if _h : reader.fillBuf = [] then
    if bytes.isEmpty then (.ok none, reader) else (decodeLine bytes, reader)
  else
    let consumed := consumedOf reader.fillBuf
    if bytes.length + consumed > maximumBytes then
      (.error (.tooLong maximumBytes),
        if endedAt reader.fillBuf then reader.consume consumed
        else drainThroughNewline (reader.consume consumed))
    else if endedAt reader.fillBuf then
      (decodeLine (bytes ++ reader.fillBuf.take consumed), reader.consume consumed)
    else collectLine maximumBytes (reader.consume consumed) (bytes ++ reader.fillBuf.take consumed)
termination_by reader.rest.length
decreasing_by exact length_consume_lt _h

def readBoundedLine (reader : PieceReader) (maximumBytes : ℕ) :
    Except LineError (Option String) × PieceReader :=
  collectLine maximumBytes reader []

/-- The results of successive calls, and the reader behind them. -/
def readLines (maximumBytes : ℕ) : ℕ → PieceReader →
    List (Except LineError (Option String)) × PieceReader
  | 0, reader => ([], reader)
  | calls + 1, reader =>
    let first := readBoundedLine reader maximumBytes
    let later := readLines maximumBytes calls first.2
    (first.1 :: later.1, later.2)

/-! ### What a call answers -/

/-- The answer for a line: its text, unless it is too long or no text. -/
def lineResult (maximumBytes : ℕ) (line : List UInt8) : Except LineError (Option String) :=
  if line.length > maximumBytes then .error (.tooLong maximumBytes) else decodeLine line

/-- The text of a line is exact. -/
theorem decodeLine_eq_some {bytes : List UInt8} {text : String} :
    decodeLine bytes = .ok (some text) ↔ utf8 text = bytes := by
  rw [decodeLine, String.fromUTF8?]
  constructor
  · intro h
    split at h
    · rename_i found hfound
      split_ifs at hfound with hvalid
      obtain rfl := Option.some.inj (Except.ok.inj h)
      rw [← Option.some.inj hfound, utf8, String.fromUTF8, List.data_toByteArray]
    · cases h
  · rintro rfl
    have hbytes : (utf8 text).toByteArray = text.toByteArray := by
      apply ByteArray.ext
      rw [List.data_toByteArray, utf8]
    rw [dif_pos (hbytes ▸ text.isValidUTF8)]
    exact congrArg (fun s => Except.ok (some s)) (String.toByteArray_inj.mp hbytes)

section Pieces

theorem endedAt_eq_any (available : List UInt8) : endedAt available = available.any isNewline := by
  by_cases hempty : available = []
  · rw [hempty]
    rfl
  · exact getElem?_lineLength hempty

/-- What a piece takes of the line at the front of the stream. -/
theorem lineLength_rest (reader : PieceReader) : lineLength isNewline reader.rest =
    consumedOf reader.fillBuf + if endedAt reader.fillBuf then 0 else
      lineLength isNewline (reader.consume (consumedOf reader.fillBuf)).rest := by
  have hsplit : reader.fillBuf ++ reader.rest.drop (reader.cuts 0 + 1) = reader.rest :=
    List.take_append_drop _ _
  rw [endedAt_eq_any, PieceReader.consume, consumedOf]
  dsimp only
  split_ifs with hended
  · rw [← hsplit, lineLength_append_of_any hended, Nat.add_zero]
  · have hopen : reader.fillBuf.any isNewline = false := by simpa using hended
    have hdrop : reader.rest.drop reader.fillBuf.length = reader.rest.drop (reader.cuts 0 + 1) := by
      conv_lhs => rw [← hsplit]
      exact List.drop_left
    rw [lineLength_of_not_any hopen, hdrop, ← lineLength_append_of_not_any hopen, hsplit]

/-- The bytes that a piece adds to the line. -/
theorem take_fillBuf (reader : PieceReader) : reader.fillBuf.take (consumedOf reader.fillBuf) =
    reader.rest.take (consumedOf reader.fillBuf) := by
  have hle : consumedOf reader.fillBuf ≤ reader.fillBuf.length := lineLength_le _
  have hsplit : reader.fillBuf ++ reader.rest.drop (reader.cuts 0 + 1) = reader.rest :=
    List.take_append_drop _ _
  conv_rhs => rw [← hsplit]
  rw [List.take_append_of_le_length hle]

theorem rest_of_fillBuf {reader : PieceReader} (h : reader.fillBuf = []) : reader.rest = [] := by
  simpa [PieceReader.fillBuf] using h

/-- What is left of a line is skipped, and nothing else. -/
theorem rest_drainThroughNewline (reader : PieceReader) : (drainThroughNewline reader).rest =
    reader.rest.drop (lineLength isNewline reader.rest) := by
  fun_induction drainThroughNewline reader with
  | case1 reader hempty => simp [rest_of_fillBuf hempty]
  | case2 reader hempty hended =>
    rw [lineLength_rest reader, if_pos hended, Nat.add_zero]
    rfl
  | case3 reader hempty hended ih =>
    rw [ih, lineLength_rest reader, if_neg hended]
    exact List.drop_drop

/-- A line is collected as it stands in the stream, however the pieces are cut. -/
theorem collectLine_spec {maximumBytes : ℕ} {reader : PieceReader} {bytes : List UInt8}
    (hbytes : bytes.length ≤ maximumBytes) :
    (collectLine maximumBytes reader bytes).1 =
        (if bytes = [] ∧ reader.rest = [] then .ok none else
          lineResult maximumBytes
            (bytes ++ reader.rest.take (lineLength isNewline reader.rest))) ∧
      (collectLine maximumBytes reader bytes).2.rest =
        reader.rest.drop (lineLength isNewline reader.rest) := by
  fun_induction collectLine maximumBytes reader bytes with
  | case1 reader bytes hempty hnone =>
    have hrest := rest_of_fillBuf hempty
    simp [hrest, List.isEmpty_iff.mp hnone]
  | case2 reader bytes hempty hsome =>
    have hrest := rest_of_fillBuf hempty
    have hne : bytes ≠ [] := fun hnil => hsome (by rw [hnil]; rfl)
    simp [hrest, hne, lineResult, not_lt.mpr hbytes]
  | case3 reader bytes hempty consumed hlong =>
    have hcut := lineLength_rest reader
    have hle : lineLength isNewline reader.rest ≤ reader.rest.length := lineLength_le _
    have hline : lineResult maximumBytes
        (bytes ++ reader.rest.take (lineLength isNewline reader.rest)) =
          .error (.tooLong maximumBytes) := by
      rw [lineResult, if_pos]
      rw [List.length_append, List.length_take]
      dsimp only [consumed] at hlong
      omega
    have hne : ¬(bytes = [] ∧ reader.rest = []) := by
      rintro ⟨-, hrest⟩
      exact hempty (by rw [PieceReader.fillBuf, hrest, List.take_nil])
    refine ⟨by rw [if_neg hne, hline], ?_⟩
    dsimp only
    split_ifs with hended
    · rw [hcut, if_pos hended, Nat.add_zero]
      rfl
    · rw [rest_drainThroughNewline, hcut, if_neg hended]
      exact List.drop_drop
  | case4 reader bytes hempty consumed hlong hended =>
    have hcut : lineLength isNewline reader.rest = consumed := by
      rw [lineLength_rest reader, if_pos hended, Nat.add_zero]
    have hne : ¬(bytes = [] ∧ reader.rest = []) := by
      rintro ⟨-, hrest⟩
      exact hempty (by rw [PieceReader.fillBuf, hrest, List.take_nil])
    have hshort : ¬(bytes ++ reader.rest.take consumed).length > maximumBytes := by
      rw [List.length_append, List.length_take]
      omega
    rw [hcut, if_neg hne, lineResult, if_neg hshort]
    exact ⟨by rw [take_fillBuf], rfl⟩
  | case5 reader bytes hempty consumed hlong hended ih =>
    have hcut : lineLength isNewline reader.rest =
        consumed + lineLength isNewline (reader.consume consumed).rest := by
      rw [lineLength_rest reader, if_neg hended]
    have hpos : 0 < consumed := lineLength_pos hempty
    have hne : ¬(bytes = [] ∧ reader.rest = []) := by
      rintro ⟨-, hrest⟩
      exact hempty (by rw [PieceReader.fillBuf, hrest, List.take_nil])
    have hgrown : ¬(bytes ++ reader.fillBuf.take consumed = [] ∧
        (reader.consume consumed).rest = []) := by
      rintro ⟨hnil, -⟩
      have htake := (List.append_eq_nil_iff.mp hnil).2
      rcases List.take_eq_nil_iff.mp htake with hzero | hnone
      · omega
      · exact hempty hnone
    have hbound : (bytes ++ reader.fillBuf.take consumed).length ≤ maximumBytes := by
      rw [List.length_append, List.length_take]
      omega
    obtain ⟨hresult, hrest⟩ := ih hbound
    refine ⟨?_, ?_⟩
    · rw [hresult, if_neg hgrown, if_neg hne, hcut, List.take_add, take_fillBuf, List.append_assoc]
      rfl
    · rw [hrest, hcut]
      exact List.drop_drop

end Pieces

/-! ### Successive calls -/

/-- The answer for the line at an index, if the stream has one. -/
def answerAt (maximumBytes : ℕ) (lines : List (List UInt8)) (index : ℕ) :
    Except LineError (Option String) :=
  match lines[index]? with
  | none => .ok none
  | some line => lineResult maximumBytes line

/-- A call answers for the first line of what is left, and leaves the other lines. -/
theorem readBoundedLine_spec (reader : PieceReader) (maximumBytes : ℕ) :
    (readBoundedLine reader maximumBytes).1 =
        answerAt maximumBytes (linesOf isNewline reader.rest) 0 ∧
      linesOf isNewline (readBoundedLine reader maximumBytes).2.rest =
        (linesOf isNewline reader.rest).drop 1 := by
  have hspec := @collectLine_spec maximumBytes reader [] (Nat.zero_le _)
  rw [readBoundedLine, hspec.1, hspec.2, answerAt]
  by_cases hrest : reader.rest = []
  · rw [hrest]
    exact ⟨rfl, rfl⟩
  · rw [linesOf_eq_cons hrest]
    simp [hrest]

theorem answerAt_succ (maximumBytes : ℕ) (lines : List (List UInt8)) (index : ℕ) :
    answerAt maximumBytes (lines.drop 1) index = answerAt maximumBytes lines (index + 1) := by
  rw [answerAt, answerAt, List.getElem?_drop, Nat.add_comm]

theorem readLines_spec (maximumBytes calls : ℕ) (reader : PieceReader) :
    (readLines maximumBytes calls reader).1 =
        (List.range calls).map (answerAt maximumBytes (linesOf isNewline reader.rest)) ∧
      linesOf isNewline (readLines maximumBytes calls reader).2.rest =
        (linesOf isNewline reader.rest).drop calls := by
  induction calls generalizing reader with
  | zero => exact ⟨rfl, rfl⟩
  | succ calls ih =>
    obtain ⟨hfirst, hleft⟩ := readBoundedLine_spec reader maximumBytes
    obtain ⟨hresults, hlater⟩ := ih (readBoundedLine reader maximumBytes).2
    refine ⟨?_, ?_⟩
    · rw [readLines, hfirst, hresults, hleft, List.range_succ_eq_map, List.map_cons, List.map_map]
      exact congrArg (_ :: ·)
        (List.map_congr_left fun index _ => answerAt_succ maximumBytes _ index)
    · rw [readLines, hlater, hleft, List.drop_drop, Nat.add_comm]

/-- A line is answered with its text or with an error, never with the end of the stream. -/
theorem lineResult_eq_some {maximumBytes : ℕ} {line : List UInt8} {text : String} :
    lineResult maximumBytes line = .ok (some text) ↔
      line.length ≤ maximumBytes ∧ utf8 text = line := by
  rw [lineResult]
  split_ifs with hlong
  · simp [hlong]
  · rw [decodeLine_eq_some]
    simp [not_lt.mp hlong]

theorem lineResult_ne_none (maximumBytes : ℕ) (line : List UInt8) :
    lineResult maximumBytes line ≠ .ok none := by
  rw [lineResult, decodeLine]
  split_ifs
  · exact nofun
  · split <;> exact nofun

/-- CORRECT (console lines): whatever the pieces of the stream, call after call answers for one
    line each, with its text exactly when it is within the limit and valid and with one error when
    it is not; behind the calls the reader stands at the first byte of the following line. -/
theorem readLines_exact (stream : List UInt8) (cuts : ℕ → ℕ) (maximumBytes calls : ℕ) :
    (readLines maximumBytes calls ⟨stream, cuts⟩).1 =
        (List.range calls).map (answerAt maximumBytes (linesOf isNewline stream)) ∧
      (readLines maximumBytes calls ⟨stream, cuts⟩).2.rest =
        ((linesOf isNewline stream).drop calls).flatten ∧
      (∀ line text, lineResult maximumBytes line = .ok (some text) ↔
        line.length ≤ maximumBytes ∧ utf8 text = line) ∧
      ∀ line, lineResult maximumBytes line ≠ .ok none := by
  obtain ⟨hresults, hleft⟩ := readLines_spec maximumBytes calls ⟨stream, cuts⟩
  refine ⟨hresults, ?_, fun line text => lineResult_eq_some, lineResult_ne_none maximumBytes⟩
  rw [← hleft, flatten_linesOf]

end ReSymbol.Workbench
