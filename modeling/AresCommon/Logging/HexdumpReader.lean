import AresCommon.Foundation.Rows
import AresCommon.Logging.Hexdump

/-!
# Reading a hex dump

A dump is a text of lines, one for every eight bytes. Its cells stand at fixed places
behind the padding, so that a reader who knows the padding gets the bytes back.
-/

namespace AresCommon.Logging

open AresCommon.Foundation

set_option autoImplicit false

/-! ## The reader -/

def hexValue (c : Char) : Option Nat :=
  if '0' ≤ c ∧ c ≤ '9' then some (c.toNat - 48)
  else if 'a' ≤ c ∧ c ≤ 'f' then some (c.toNat - 87)
  else none

def readCell (cell : List Char) : Option UInt8 := do
  let high ← cell[0]?.bind hexValue
  let low ← cell[1]?.bind hexValue
  some (UInt8.ofNat (16 * high + low))

/-- Where cell `i` stands in the hex area of a line. -/
def cellPlace (i : Nat) : Nat := 3 * i + if spaceBreak < i then 2 else 0

def hexAreaWidth : Nat := cellPlace bytesPerLine

def readLine (pad : Nat) (line : List Char) : List UInt8 :=
  let area := (line.drop pad).take hexAreaWidth
  (List.range bytesPerLine).filterMap fun i => readCell (area.drop (cellPlace i))

def readDump (pad : Nat) (dump : List Char) : List UInt8 :=
  (dump.splitOn '\n').flatMap (readLine pad)

/-! ## What a line looks like -/

def shownAs (byte : UInt8) : Char :=
  if 0x20 ≤ byte.toNat ∧ byte.toNat ≤ 0x7e then Char.ofNat byte.toNat else '.'

/-- A line with its padding, its hex area of fixed width and its ASCII column. -/
def ShowsRow (pad : Nat) (row : List UInt8) (line : List Char) : Prop :=
  ∃ area, line = List.replicate pad ' ' ++ area ++ "  |".toList ++
      ((row.take 4).map shownAs ++ ' ' :: (row.drop 4).map shownAs) ∧
    area.length = hexAreaWidth ∧
    ∀ i, i < bytesPerLine → readCell (area.drop (cellPlace i)) = row[i]?

def cell : Option UInt8 → List Char
  | some byte => [Nat.digitChar (byte.toNat / 16), Nat.digitChar (byte.toNat % 16), ' ']
  | none => [' ', ' ', ' ']

def hexArea (row : List UInt8) : List Char :=
  (List.range bytesPerLine).flatMap fun i =>
    cell row[i]? ++ if i = spaceBreak then "  ".toList else []

def asciiColumn (row : List UInt8) : List Char :=
  (List.range bytesPerLine).flatMap fun i =>
    (row[i]?.map shownAs).toList ++ if i = spaceBreak then " ".toList else []

def lineOf (pad : Nat) (row : List UInt8) : List Char :=
  List.replicate pad ' ' ++ hexArea row ++ "  |".toList ++ asciiColumn row

def dumpOf (pad : Nat) (data : List UInt8) : List Char :=
  List.intercalate ['\n'] ((rows bytesPerLine data).map (lineOf pad))

/-! ## What the functions write -/

namespace StringStream

variable {ss ss' ss'' : StringStream} {added later : List Char}

structure Adds (ss : StringStream) (added : List Char) (ss' : StringStream) : Prop where
  str : ss'.str = ss.str ++ added
  width : ss'.width = 0

theorem adds_insert (idle : ss.width = 0) (field : List Char) :
    ss.Adds field (ss.insert field) := by
  constructor
  · simp [insert, idle]
  · rfl

theorem adds_nothing (idle : ss.width = 0) : ss.Adds [] ss := by
  constructor
  · simp
  · exact idle

theorem Adds.append (first : ss.Adds added ss') (second : ss'.Adds later ss'') :
    ss.Adds (added ++ later) ss'' := by
  constructor
  · rw [second.str, first.str, List.append_assoc]
  · exact second.width

theorem adds_foldl {Index : Type} {step : StringStream → Index → StringStream}
    {text : Index → List Char} (indices : List Index) (idle : ss.width = 0)
    (pass : ∀ (ss : StringStream) i, ss.width = 0 → ss.Adds (text i) (step ss i)) :
    ss.Adds (indices.flatMap text) (indices.foldl step ss) := by
  induction indices generalizing ss with
  | nil => exact adds_nothing idle
  | cons i rest ih =>
      have first := pass ss i idle
      rw [List.flatMap_cons, List.foldl_cons]
      exact first.append (ih first.width)

theorem adds_if (idle : ss.width = 0) (field : List Char) (condition : Prop)
    [Decidable condition] :
    ss.Adds (if condition then field else []) (if condition then ss.insert field else ss) := by
  by_cases holds : condition
  · rw [if_pos holds, if_pos holds]
    exact adds_insert idle field
  · rw [if_neg holds, if_neg holds]
    exact adds_nothing idle

end StringStream

open StringStream

/-- The mask keeps the bits of a `char` and drops the copies of its sign. -/
theorem low_byte_of_signExtend (byte : BitVec 8) :
    (byte.signExtend 32 &&& 0xFF#32).toNat = byte.toNat := by
  have kept : (byte.signExtend 32).setWidth 8 = byte := by
    ext i inside
    rw [BitVec.getElem_setWidth, BitVec.getLsbD_signExtend, if_pos inside]
    simp [BitVec.getLsbD_eq_getElem inside, show i < 32 by omega]
  calc (byte.signExtend 32 &&& 0xFF#32).toNat
      = (byte.signExtend 32).toNat &&& (2 ^ 8 - 1) := rfl
    _ = (byte.signExtend 32).toNat % 2 ^ 8 := Nat.and_two_pow_sub_one_eq_mod _ 8
    _ = ((byte.signExtend 32).setWidth 8).toNat := (BitVec.toNat_setWidth ..).symm
    _ = byte.toNat := by rw [kept]

theorem masked_char (byte : UInt8) :
    (byte.toInt8.toInt32 &&& 0xFF).toUInt32.toNat = byte.toNat := by
  have low := low_byte_of_signExtend byte.toBitVec
  rw [← UInt32.toNat_toBitVec]
  simpa using low

theorem two_digits (n : Nat) (small : n < 256) :
    List.replicate (2 - (Nat.toDigits 16 n).length) '0' ++ Nat.toDigits 16 n =
      [Nat.digitChar (n / 16), Nat.digitChar (n % 16)] := by
  by_cases single : n < 16
  · simp [Nat.toDigits_of_lt_base single, Nat.div_eq_of_lt single, Nat.mod_eq_of_lt single]
  · rw [Nat.toDigits_of_base_le (by decide) (by omega), Nat.toDigits_of_lt_base (by omega)]
    rfl

variable {ss : StringStream} (data : List UInt8) (idx pad : Nat)

theorem hex_insertInt_str (ss : StringStream) (value : Int32) (small : value.toUInt32.toNat < 256) :
    (((ss.hex.setw 2).setfill '0').insertInt value).str =
      ss.str ++ [Nat.digitChar (value.toUInt32.toNat / 16),
        Nat.digitChar (value.toUInt32.toNat % 16)] := by
  rw [← two_digits _ small]
  rfl

theorem adds_cell (ss : StringStream) (byte : UInt8) :
    ss.Adds (cell (some byte))
      ((((ss.hex.setw 2).setfill '0').insertInt (byte.toInt8.toInt32 &&& 0xFF)).insert
        " ".toList) := by
  have value := masked_char byte
  have printed := hex_insertInt_str ss (byte.toInt8.toInt32 &&& 0xFF)
    (value ▸ byte.toNat_lt)
  rw [value] at printed
  have written : ss.Adds _ (((ss.hex.setw 2).setfill '0').insertInt _) := ⟨printed, rfl⟩
  exact written.append (adds_insert written.width " ".toList)

theorem char_at (i : Nat) :
    (data.map UInt8.toInt8)[i + idx]? = (data.drop idx)[i]?.map UInt8.toInt8 := by
  rw [List.getElem?_map, List.getElem?_drop, Nat.add_comm]

theorem dumpHex_adds (idle : ss.width = 0) :
    ss.Adds (hexArea (data.drop idx)) (dumpHex idx (data.map UInt8.toInt8) ss) := by
  apply adds_foldl _ idle
  intro ss i idle
  simp only [char_at]
  cases (data.drop idx)[i]? with
  | none =>
      have blank := adds_insert idle "   ".toList
      exact blank.append (adds_if blank.width "  ".toList (i = spaceBreak))
  | some byte =>
      have written := adds_cell ss byte
      exact written.append (adds_if written.width "  ".toList (i = spaceBreak))

theorem isprint_shownAs (byte : UInt8) :
    (if isprint byte then Char.ofNat byte.toNat else '.') = shownAs byte := by
  simp [isprint, shownAs, UInt8.le_iff_toNat_le]

theorem dumpAscii_column (idle : ss.width = 0) :
    ∃ ss', dumpAscii idx (data.map UInt8.toInt8) ss =
        (if bytesPerLine + idx < data.length then ss'.dec.insert ['\n'] else ss') ∧
      ss.Adds ("  |".toList ++ asciiColumn (data.drop idx)) ss' := by
  refine ⟨_, by rw [← List.length_map UInt8.toInt8]; rfl, ?_⟩
  have bar := adds_insert idle "  |".toList
  apply bar.append
  apply adds_foldl _ bar.width
  intro ss i idle
  simp only [char_at]
  cases (data.drop idx)[i]? with
  | none =>
      have unchanged := adds_nothing idle
      exact unchanged.append (adds_if unchanged.width " ".toList (i = spaceBreak))
  | some byte =>
      rw [Option.map_some, ← isprint_shownAs]
      have shown := adds_insert idle [if isprint byte then Char.ofNat byte.toNat else '.']
      exact shown.append (adds_if shown.width " ".toList (i = spaceBreak))

theorem dumpAscii_adds (idle : ss.width = 0) :
    ss.Adds ("  |".toList ++ asciiColumn (data.drop idx) ++
        if bytesPerLine + idx < data.length then ['\n'] else [])
      (dumpAscii idx (data.map UInt8.toInt8) ss) := by
  obtain ⟨ss', ending, column⟩ := dumpAscii_column data idx idle
  rw [ending]
  by_cases more : bytesPerLine + idx < data.length
  · rw [if_pos more, if_pos more]
    have idle' : ss'.dec.width = 0 := column.width
    have newline := adds_insert idle' ['\n']
    exact column.append ⟨newline.str, newline.width⟩
  · rw [if_neg more, if_neg more]
    exact column.append (adds_nothing column.width)

theorem applyPadding_adds (idle : ss.width = 0) :
    ss.Adds (List.replicate pad ' ') (applyPadding ss pad) := adds_insert idle _

/-- One pass of the loop writes a line and, before another, the end of it. -/
theorem line_adds (idle : ss.width = 0) :
    ss.Adds (lineOf pad (data.drop idx) ++
        if bytesPerLine + idx < data.length then ['\n'] else [])
      (dumpAscii idx (data.map UInt8.toInt8)
        (dumpHex idx (data.map UInt8.toInt8) (applyPadding ss pad))) := by
  have padding := applyPadding_adds pad idle
  have area := dumpHex_adds data idx padding.width
  have column := dumpAscii_adds data idx area.width
  have line := (padding.append area).append column
  simpa [lineOf] using line

theorem bytesPerLine_pos : 0 < bytesPerLine := by decide

@[simp]
theorem dumpOf_nil : dumpOf pad [] = [] := by
  simp [dumpOf]

theorem dumpOf_cons (present : data ≠ []) :
    dumpOf pad data = (lineOf pad (data.take bytesPerLine) ++
        if bytesPerLine < data.length then ['\n'] else []) ++
      dumpOf pad (data.drop bytesPerLine) := by
  have last : rows bytesPerLine (data.drop bytesPerLine) = [] ↔
      ¬ bytesPerLine < data.length := by
    rw [rows_eq_nil_iff bytesPerLine_pos, List.drop_eq_nil_iff, Nat.not_lt]
  unfold dumpOf
  rw [rows_cons bytesPerLine_pos present, List.map_cons]
  by_cases more : bytesPerLine < data.length
  · have following : (rows bytesPerLine (data.drop bytesPerLine)).map (lineOf pad) ≠ [] := by
      rw [ne_eq, List.map_eq_nil_iff, last]
      exact not_not_intro more
    rw [if_pos more, List.intercalate_cons_of_ne_nil following]
  · rw [if_neg more, last.mpr more]
    simp

theorem lineOf_take (row : List UInt8) : lineOf pad (row.take bytesPerLine) = lineOf pad row := by
  have same : ∀ i ∈ List.range bytesPerLine, (row.take bytesPerLine)[i]? = row[i]? := by
    intro i inside
    exact List.getElem?_take_of_lt (List.mem_range.mp inside)
  have area : hexArea (row.take bytesPerLine) = hexArea row :=
    List.flatMap_congr fun i inside => by rw [same i inside]
  have column : asciiColumn (row.take bytesPerLine) = asciiColumn row :=
    List.flatMap_congr fun i inside => by rw [same i inside]
  rw [lineOf, lineOf, area, column]

theorem dumpOf_drop (more : idx < data.length) :
    dumpOf pad (data.drop idx) = (lineOf pad (data.drop idx) ++
        if bytesPerLine + idx < data.length then ['\n'] else []) ++
      dumpOf pad (data.drop (idx + bytesPerLine)) := by
  have present : data.drop idx ≠ [] := by simpa using more
  have another : bytesPerLine < (data.drop idx).length ↔ bytesPerLine + idx < data.length := by
    rw [List.length_drop]
    omega
  rw [dumpOf_cons _ _ present, lineOf_take, List.drop_drop]
  simp only [another]

theorem constructHexdumpFrom_adds (idle : ss.width = 0) :
    ss.Adds (dumpOf pad (data.drop idx))
      (constructHexdumpFrom idx (data.map UInt8.toInt8) pad ss) := by
  induction rest : data.length - idx using Nat.strong_induction_on generalizing idx ss with
  | _ n ih =>
      rw [constructHexdumpFrom, List.length_map]
      by_cases more : idx < data.length
      · have fewer : data.length - (idx + bytesPerLine) < n := by
          simp only [bytesPerLine]
          omega
        have line := line_adds data idx pad idle
        have later := ih _ fewer (idx + bytesPerLine) line.width rfl
        rw [if_pos more, dumpOf_drop data idx pad more]
        exact line.append later
      · rw [if_neg more, List.drop_of_length_le (by omega), dumpOf_nil]
        exact adds_nothing idle

/-! ## Reading back -/

theorem hexValue_digitChar (n : Nat) (small : n < 16) : hexValue (Nat.digitChar n) = some n := by
  have digits : ∀ n < 16, hexValue (Nat.digitChar n) = some n := by decide
  exact digits n small

theorem readCell_cell (byte? : Option UInt8) (rest : List Char) :
    readCell (cell byte? ++ rest) = byte? := by
  cases byte? with
  | none => rfl
  | some byte =>
      have bound := byte.toNat_lt
      have high := hexValue_digitChar (byte.toNat / 16) (by omega)
      have low := hexValue_digitChar (byte.toNat % 16) (by omega)
      have whole : 16 * (byte.toNat / 16) + byte.toNat % 16 = byte.toNat := Nat.div_add_mod _ _
      calc readCell (cell (some byte) ++ rest)
          = some (UInt8.ofNat (16 * (byte.toNat / 16) + byte.toNat % 16)) := by
            simp only [readCell, cell, List.cons_append, List.getElem?_cons_zero,
              List.getElem?_cons_succ, Option.bind_some, high, low]
            rfl
        _ = some byte := by rw [whole, UInt8.ofNat_toNat]

theorem length_cell (byte? : Option UInt8) : (cell byte?).length = 3 := by
  cases byte? <;> rfl

theorem length_cells (row : List UInt8) (i : Nat) :
    ((List.range i).flatMap fun i =>
      cell row[i]? ++ if i = spaceBreak then "  ".toList else []).length = cellPlace i := by
  induction i with
  | zero => rfl
  | succ i ih =>
      have gap : (if i = spaceBreak then "  ".toList else []).length +
          (if spaceBreak < i then 2 else 0) = if spaceBreak < i + 1 then 2 else 0 := by
        by_cases here : i = spaceBreak
        · subst here
          rfl
        · have same : spaceBreak < i + 1 ↔ spaceBreak < i := by omega
          simp [here, same]
      rw [List.range_succ, List.flatMap_append, List.length_append, ih, List.flatMap_singleton,
        List.length_append, length_cell, cellPlace, cellPlace, ← gap]
      omega

theorem length_hexArea (row : List UInt8) : (hexArea row).length = hexAreaWidth :=
  length_cells row bytesPerLine

/-- Every cell stands at its place. -/
theorem readCell_hexArea (row : List UInt8) (i : Nat) (inside : i < bytesPerLine) :
    readCell ((hexArea row).drop (cellPlace i)) = row[i]? := by
  obtain ⟨rest, placed⟩ := drop_flatMap_range inside
  rw [length_cells] at placed
  rw [hexArea, placed, List.append_assoc, readCell_cell]

theorem asciiColumn_eq (row : List UInt8) (short : row.length ≤ bytesPerLine) :
    asciiColumn row = (row.take 4).map shownAs ++ ' ' :: (row.drop 4).map shownAs := by
  have halves : asciiColumn row =
      (List.range 4).flatMap (fun i => (row[i]?.map shownAs).toList) ++
        ' ' :: (List.range 4).flatMap (fun i => ((row.drop 4)[i]?.map shownAs).toList) := by
    simp [asciiColumn, bytesPerLine, spaceBreak, List.range_succ]
  have rest : (row.drop 4).take 4 = row.drop 4 :=
    List.take_of_length_le (by rw [List.length_drop]; simp only [bytesPerLine] at short; omega)
  rw [halves, flatMap_range_getElem?, flatMap_range_getElem?, rest]

theorem lineOf_shows (row : List UInt8) (short : row.length ≤ bytesPerLine) :
    ShowsRow pad row (lineOf pad row) := by
  refine ⟨hexArea row, ?_, length_hexArea row, readCell_hexArea row⟩
  rw [lineOf, asciiColumn_eq row short]

theorem ShowsRow.read {row : List UInt8} {line : List Char} (shows : ShowsRow pad row line)
    (short : row.length ≤ bytesPerLine) : readLine pad line = row := by
  obtain ⟨area, rfl, width, cells⟩ := shows
  have found : ((List.replicate pad ' ' ++ area ++ "  |".toList ++
      ((row.take 4).map shownAs ++ ' ' :: (row.drop 4).map shownAs)).drop pad).take
        hexAreaWidth = area := by
    rw [List.append_assoc, List.append_assoc, List.drop_left' List.length_replicate,
      List.take_left' width]
  have read : ∀ i ∈ List.range bytesPerLine, readCell (area.drop (cellPlace i)) = row[i]? :=
    fun i inside => cells i (List.mem_range.mp inside)
  rw [readLine, found, List.filterMap_congr read, filterMap_range_getElem?,
    List.take_of_length_le short]

theorem newline_not_shown (byte : UInt8) : '\n' ≠ shownAs byte := by
  have codes : ∀ n < 0x7f, 0x20 ≤ n → '\n' ≠ Char.ofNat n := by decide
  unfold shownAs
  split
  · next printable => exact codes byte.toNat (by omega) printable.1
  · decide

theorem newline_notMem_cell (byte? : Option UInt8) : '\n' ∉ cell byte? := by
  have digits : ∀ n < 16, '\n' ≠ Nat.digitChar n := by decide
  cases byte? with
  | none => decide
  | some byte =>
      have bound := byte.toNat_lt
      have high := digits (byte.toNat / 16) (by omega)
      have low := digits (byte.toNat % 16) (by omega)
      simp [cell, high, low]

theorem newline_notMem_lineOf (row : List UInt8) : '\n' ∉ lineOf pad row := by
  have area : '\n' ∉ hexArea row := by
    simp only [hexArea, List.mem_flatMap, not_exists, not_and, List.mem_append, not_or]
    intro i _
    refine ⟨newline_notMem_cell _, ?_⟩
    split <;> decide
  have column : '\n' ∉ asciiColumn row := by
    simp only [asciiColumn, List.mem_flatMap, not_exists, not_and, List.mem_append, not_or]
    intro i _
    constructor
    · cases row[i]? with
      | none => simp
      | some byte => simpa using newline_not_shown byte
    · split <;> decide
  simp [lineOf, area, column, List.mem_replicate]

theorem lineOf_ne_nil (row : List UInt8) : lineOf pad row ≠ [] := by
  simp [lineOf]

theorem lines_clean {line : List Char}
    (member : line ∈ (rows bytesPerLine data).map (lineOf pad)) : '\n' ∉ line ∧ line ≠ [] := by
  obtain ⟨row, _, rfl⟩ := List.mem_map.mp member
  exact ⟨newline_notMem_lineOf pad row, lineOf_ne_nil pad row⟩

theorem readLine_nil : readLine pad [] = [] := by
  rw [readLine, List.drop_nil, List.take_nil]
  rfl

/-- The bytes that a dump shows. -/
theorem readDump_dumpOf : readDump pad (dumpOf pad data) = data := by
  have lines : ∀ row ∈ rows bytesPerLine data, readLine pad (lineOf pad row) = row := by
    intro row member
    have short := length_le_of_mem_rows bytesPerLine_pos member
    exact (lineOf_shows pad row short).read pad short
  by_cases present : data = []
  · rw [present, dumpOf_nil, readDump, List.splitOn_nil, List.flatMap_singleton, readLine_nil]
  · have split : (dumpOf pad data).splitOn '\n' =
        (rows bytesPerLine data).map (lineOf pad) := by
      apply List.splitOn_intercalate
      · intro line member
        exact (lines_clean data pad member).1
      · rw [ne_eq, List.map_eq_nil_iff, rows_eq_nil_iff bytesPerLine_pos]
        exact present
    rw [readDump, split, List.flatMap_map]
    rw [List.flatMap_congr lines, List.flatMap_id', flatten_rows bytesPerLine_pos]

/-! ## The dump of a call -/

def hexdump (buf : List UInt8) (bytes pad : Nat) : List Char :=
  (constructHexdump (stringView buf bytes) pad StringStream.constructed).str

theorem constructHexdump_adds (buf : List UInt8) (bytes : Nat) (idle : ss.width = 0) :
    ss.Adds (dumpOf pad (buf.take (min bytes buf.length)))
      (constructHexdump (stringView buf bytes) pad ss) :=
  constructHexdumpFrom_adds (buf.take (min bytes buf.length)) 0 pad idle

theorem hexdump_eq (buf : List UInt8) (bytes : Nat) :
    hexdump buf bytes pad = dumpOf pad (buf.take (min bytes buf.length)) := by
  have idle : StringStream.constructed.width = 0 := rfl
  exact (constructHexdump_adds pad buf bytes idle).str

/-- Every dump, into any stream that a text was just written to, is a list of lines that
show the rows of the bytes one by one; a reader who knows the padding gets the bytes back,
so that no two dumps with one padding are the same. -/
theorem hexdump_reads_back (buf : List UInt8) (bytes pad : Nat) (ss : StringStream)
    (text : List Char) :
    (constructHexdump (stringView buf bytes) pad (ss.insert text)).str =
        (ss.insert text).str ++ hexdump buf bytes pad ∧
      (∃ lines, hexdump buf bytes pad = List.intercalate ['\n'] lines ∧
        lines.length = (min bytes buf.length + 7) / 8 ∧
        ∀ k line, lines[k]? = some line → '\n' ∉ line ∧
          ShowsRow pad (((buf.take (min bytes buf.length)).drop (8 * k)).take 8) line) ∧
      (hexdump buf bytes pad).getLast? ≠ some '\n' ∧
      readDump pad (hexdump buf bytes pad) = buf.take (min bytes buf.length) ∧
      ∀ other length, hexdump other length pad = hexdump buf bytes pad ↔
        other.take (min length other.length) = buf.take (min bytes buf.length) := by
  have idle : (ss.insert text).width = 0 := rfl
  have added := constructHexdump_adds pad buf bytes idle
  rw [hexdump_eq]
  refine ⟨added.str, ⟨_, rfl, ?count, ?lines⟩, ?last, readDump_dumpOf _ pad, ?distinct⟩
  case count =>
    rw [List.length_map, length_rows bytesPerLine_pos, List.length_take, Nat.min_assoc,
      Nat.min_self]
    rfl
  case lines =>
    intro k line found
    rw [List.getElem?_map, getElem?_rows bytesPerLine_pos] at found
    obtain ⟨row, inside, rfl⟩ := Option.map_eq_some_iff.mp found
    rw [Option.ite_none_right_eq_some, Option.some_inj] at inside
    rw [← inside.2]
    exact ⟨newline_notMem_lineOf pad _, lineOf_shows pad _ (List.length_take_le _ _)⟩
  case last =>
    apply getLast?_intercalate_ne
    · intro line member
      exact (lines_clean _ pad member).1
    · intro line member
      exact (lines_clean _ pad member).2
  case distinct =>
    intro other length
    rw [hexdump_eq]
    constructor
    · intro same
      have read := congrArg (readDump pad) same
      rwa [readDump_dumpOf, readDump_dumpOf] at read
    · intro same
      rw [same]

/-- The message of a dump is the text of the caller with the dump under it, from the
column on where the text itself is printed. -/
theorem logHexdump_eq (name msg : List Char) (level : LogLevel) (buf : List UInt8)
    (bytes : Nat) :
    logHexdump name level msg buf bytes = (Severity.ofLevel level).map fun severity =>
      (severity, msg ++ '\n' :: hexdump buf bytes
        ((if level = logLevelDbg ∨ level = logLevelError then 6 else 7) +
          (name.length + 2))) := by
  have idle : ((StringStream.constructed.insert msg).insert "\n".toList).width = 0 := rfl
  have header : ((StringStream.constructed.insert msg).insert "\n".toList).str =
      msg ++ ['\n'] := by
    simp [StringStream.insert, constructed]
  dsimp only [logHexdump]
  generalize (if level = logLevelDbg ∨ level = logLevelError then 6 else 7) +
    (name.length + 2) = pad
  rw [(constructHexdump_adds pad buf bytes idle).str, header, hexdump_eq, List.append_assoc]
  rfl

end AresCommon.Logging
