import AntWireless.Lib.Except
import AntWireless.Lib.Slices
import AntWireless.Ruby.Format

/-!
# AntWireless — `Ant::DataUtilities.hexdump`

The bytes of a string, `line_size` to a line: the number of the line, the bytes in
hexadecimal, and the characters of those that can be shown. The two fields are filled up with
blanks to the width of a whole line.

* `hexdump` — the dump, or what `each_slice` or `%*s` raise for a size that is no C integer.
* `IsDump` — lines that start with their number, have their separators in the same columns
  and show every byte twice; the bytes can be read back.
* `hexdump_lossless` — which sizes give such a dump.
-/

namespace AntWireless.DataUtilities

-- ---------------------------------------------------------------------------
-- The method
-- ---------------------------------------------------------------------------

/-- `each_slice( n )`, where `n` is a C `long`. -/
def eachSlice {α : Type} (l : List α) (n : Int) : Except RubyError (List (List α)) :=
  if n < -9223372036854775808 ∨ 9223372036854775807 < n then .error .rangeError
  else if n ≤ 0 then .error (.argError "invalid slice size")
  else .ok (Slices.slices n.toNat l)

/-- `"0x%02x" % [ b ]`. -/
def hexByte (b : UInt8) : String := "0x" ++ formatX 2 b.toNat

/-- `VISIBLES.include?(c) ? c.chr : '.'`. -/
def visibleChar (c : UInt8) : Char := if 32 ≤ c ∧ c ≤ 126 then Char.ofNat c.toNat else '.'

/-- One line of `hexdump`. -/
def hexdumpLine (lineSize : Int) (chunk : List UInt8) (line : Nat) : Except RubyError String := do
  let hexWidth := lineSize * 5
  let bytes := " ".intercalate (chunk.map hexByte)
  let strippedBytes := String.ofList (chunk.map visibleChar)
  let hexField ← formatStar (-hexWidth) bytes
  let textField ← formatStar (-lineSize) strippedBytes
  return formatX 4 line ++ ": " ++ hexField ++ " | " ++ textField ++ " |"

/-- `hexdump( data, line_size )`. -/
def hexdump (data : List UInt8) (lineSize : Int) : Except RubyError String := do
  let slices ← eachSlice data lineSize
  let lines ← slices.zipIdx.mapM fun (chunk, line) => hexdumpLine lineSize chunk line
  return "\n".intercalate lines

example : hexdump [0x41, 0x0A, 0x7C] 2 =
    .ok "0000: 0x41 0x0a  | A. |\n0001: 0x7c       | |  |" := by decide +kernel

/-- The largest size whose field of bytes has a width that is a C `int`. -/
def maxLineSize : Nat := 429496729

-- ---------------------------------------------------------------------------
-- Reading a dump
-- ---------------------------------------------------------------------------

/-- The bytes of a field, up to the first blank that stands for none. -/
def readHex : List Char → List UInt8
  | '0' :: 'x' :: h :: l :: ' ' :: rest =>
    match Digits.hexValue h, Digits.hexValue l with
    | some h, some l => UInt8.ofNat (16 * h + l) :: readHex rest
    | _, _ => []
  | _ => []

/-- The number at the start of a line. -/
def indexField (line : List Char) : List Char := line.takeWhile (· ≠ ':')

def hexField (lineSize : Nat) (line : List Char) : List Char :=
  ((line.dropWhile (· ≠ ':')).drop 2).take (5 * lineSize)

def textField (lineSize : Nat) (line : List Char) : List Char :=
  (((line.dropWhile (· ≠ ':')).drop 2).drop (5 * lineSize + 3)).take lineSize

/-- The bytes that a dump shows. -/
def readDump (lineSize : Nat) (dump : String) : List UInt8 :=
  (dump.toList.splitOn '\n').flatMap fun line => readHex (hexField lineSize line)

/-- `dump` has the lines `lines`, which show `data`. -/
structure IsDump (data : List UInt8) (lineSize : Nat) (dump : String) (lines : List String) :
    Prop where
  join : dump = "\n".intercalate lines
  count : lines.length = (data.length + lineSize - 1) / lineSize
  oneLine : ∀ line ∈ lines, '\n' ∉ line.toList
  index : ∀ i line, lines[i]? = some line →
    indexField line.toList = (Nat.toDigits 16 i).leftpad 4 '0'
  aligned : ∀ i line, lines[i]? = some line → i < 16 ^ 4 →
    line.length = 6 * lineSize + 11 ∧ line.toList[5 * lineSize + 7]? = some '|' ∧
      line.toList[6 * lineSize + 10]? = some '|'
  hex : (lines.flatMap fun line => readHex (hexField lineSize line.toList)) = data
  text : ∀ i line j b, lines[i]? = some line → j < lineSize → data[i * lineSize + j]? = some b →
    (textField lineSize line.toList)[j]? = some (visibleChar b)
  read : readDump lineSize dump = data

-- ---------------------------------------------------------------------------
-- The characters of a line
-- ---------------------------------------------------------------------------

/-- The characters of a byte in hexadecimal. -/
def hexChars (b : UInt8) : List Char :=
  ['0', 'x', Nat.digitChar (b.toNat / 16), Nat.digitChar (b.toNat % 16)]

theorem toList_hexByte (b : UInt8) : (hexByte b).toList = hexChars b := by
  show ("0x" ++ String.ofList ((Nat.toDigits 16 b.toNat).leftpad 2 '0')).toList = _
  rw [Digits.leftpad_toDigits_byte]
  simp [hexChars]

/-- The field of bytes: a blank after each byte, and blanks for the bytes that
are missing. -/
def hexCells (lineSize : Nat) (chunk : List UInt8) : List Char :=
  (chunk.flatMap fun b => hexChars b ++ [' ']) ++
    List.replicate (5 * (lineSize - chunk.length)) ' '

theorem rightpad_append {α : Type} (n : Nat) (a : α) (xs ys : List α) :
    (xs ++ ys).rightpad n a = xs ++ ys.rightpad (n - xs.length) a := by
  rw [List.rightpad, List.rightpad, List.length_append, List.append_assoc, Nat.sub_sub]

/-- Joined with blanks and filled up, a chunk is its cells: each byte takes
five characters, and the last of them is a blank. -/
theorem rightpad_intercalate {lineSize : Nat} {chunk : List UInt8}
    (hlen : chunk.length ≤ lineSize) :
    ([' '].intercalate (chunk.map hexChars)).rightpad (5 * lineSize) ' ' =
      hexCells lineSize chunk := by
  induction chunk generalizing lineSize with
  | nil => simp [hexCells, List.rightpad]
  | cons b chunk ih =>
    have hlen' : chunk.length ≤ lineSize - 1 := by
      rw [List.length_cons] at hlen
      omega
    have hsize : 5 * lineSize - 5 = 5 * (lineSize - 1) := by omega
    have hrest : lineSize - (chunk.length + 1) = lineSize - 1 - chunk.length := by omega
    have hcells := ih hlen'
    cases chunk with
    | nil =>
      have hblank : 5 * lineSize - 4 = 5 * (lineSize - 1) + 1 := by
        rw [List.length_singleton] at hlen
        omega
      simp only [List.map_cons, List.map_nil, List.intercalate_singleton, List.rightpad]
      simp [hexCells, hexChars, hblank, List.replicate_succ]
    | cons c chunk =>
      rw [List.map_cons, List.map_cons, List.intercalate_cons_cons, List.append_assoc,
        rightpad_append, rightpad_append]
      simp only [List.map_cons] at hcells
      have hwidth : 5 * lineSize - (hexChars b).length - [' '].length = 5 * (lineSize - 1) := by
        simp only [hexChars, List.length_cons, List.length_nil]
        omega
      rw [hwidth, hcells]
      simp only [hexCells, List.flatMap_cons, List.append_assoc, List.length_cons] at hrest ⊢
      rw [hrest]

/-- The field of bytes has the same width on every line. -/
theorem length_hexCells {lineSize : Nat} {chunk : List UInt8} (hlen : chunk.length ≤ lineSize) :
    (hexCells lineSize chunk).length = 5 * lineSize := by
  have hbytes : (chunk.flatMap fun b => hexChars b ++ [' ']).length = 5 * chunk.length := by
    rw [List.length_flatMap]
    simp [hexChars, Nat.mul_comm]
  rw [hexCells, List.length_append, hbytes, List.length_replicate]
  omega

/-- The characters of a line. -/
def lineChars (lineSize : Nat) (chunk : List UInt8) (line : Nat) : List Char :=
  (Nat.toDigits 16 line).leftpad 4 '0' ++ ':' :: ' ' :: (hexCells lineSize chunk ++
    ([' ', '|', ' '] ++ ((chunk.map visibleChar).rightpad lineSize ' ' ++ [' ', '|'])))

/-- `%*s` with a negative width that is a C `int` fills up on the right. -/
theorem formatStar_neg {width : Nat} (hpos : 0 < width) (hwidth : width ≤ 2147483647)
    (s : String) :
    formatStar (-width) s = .ok (String.ofList (s.toList.rightpad width ' ')) := by
  have hint : num2int (.int (-width)) = .ok (-(width : Int)) := by
    show checkRange _ _ _ = _
    rw [checkRange, if_pos (by omega)]
  have hne : ¬ -(width : Int) = -2147483648 := by omega
  have hneg : -(width : Int) < 0 := by omega
  rw [formatStar, hint]
  show (if -(width : Int) = -2147483648 then _ else _) = _
  rw [if_neg hne, if_pos hneg, Int.natAbs_neg, Int.natAbs_natCast]
  rfl

/-- A line of a size that can be formatted: its number in four digits at
least, the cells, and the text between bars. The width of the field is
negative, so both are filled up on the right. -/
theorem hexdumpLine_eq {lineSize : Nat} {chunk : List UInt8} (hpos : 1 ≤ lineSize)
    (hmax : lineSize ≤ maxLineSize) (hlen : chunk.length ≤ lineSize) (line : Nat) :
    hexdumpLine lineSize chunk line = .ok (String.ofList (lineChars lineSize chunk line)) := by
  have hbound : lineSize ≤ 429496729 := hmax
  have hwidth : (lineSize : Int) * 5 = (5 * lineSize : Nat) := by omega
  have hhex : formatStar (-(lineSize * 5)) (" ".intercalate (chunk.map hexByte)) =
      .ok (String.ofList (hexCells lineSize chunk)) := by
    rw [hwidth, formatStar_neg (by omega) (by omega), String.toList_intercalate, List.map_map]
    have hchars : String.toList ∘ hexByte = hexChars := funext toList_hexByte
    rw [hchars, show " ".toList = [' '] from rfl, rightpad_intercalate hlen]
  have htext := formatStar_neg (by omega : 0 < lineSize) (by omega)
    (String.ofList (chunk.map visibleChar))
  rw [String.toList_ofList] at htext
  simp only [hexdumpLine, hhex, htext, bind, Except.bind, pure, Except.pure, Except.ok.injEq]
  rw [← String.toList_inj]
  show (String.ofList _ ++ _ ++ _ ++ _ ++ _ ++ _).toList = _
  simp [lineChars]

/-- A width that is no C `int` raises, whatever the line holds. -/
theorem hexdumpLine_wide {lineSize : Nat} (hmax : maxLineSize < lineSize) (chunk : List UInt8)
    (line : Nat) : hexdumpLine lineSize chunk line = .error .rangeError := by
  have hbound : 429496729 < lineSize := hmax
  have hint : num2int (.int (-(lineSize * 5))) = .error .rangeError := by
    show checkRange _ _ _ = _
    rw [checkRange, if_neg (by omega)]
  rw [hexdumpLine, formatStar, hint]
  rfl

-- ---------------------------------------------------------------------------
-- Reading the characters back
-- ---------------------------------------------------------------------------

theorem readHex_cons (b : UInt8) (rest : List Char) :
    readHex (hexChars b ++ ' ' :: rest) = b :: readHex rest := by
  have hlt : b.toNat < 256 := b.toNat_lt
  have hhigh := Digits.hexValue_digitChar (show b.toNat / 16 < 16 by omega)
  have hlow := Digits.hexValue_digitChar (Nat.mod_lt b.toNat (show 0 < 16 by decide))
  have hbyte : UInt8.ofNat (16 * (b.toNat / 16) + b.toNat % 16) = b := by
    rw [Nat.div_add_mod, UInt8.ofNat_toNat]
  simp only [hexChars, List.cons_append, List.nil_append, readHex, hhigh, hlow, hbyte]

/-- The cells of a chunk are read as the chunk. -/
theorem readHex_hexCells (lineSize : Nat) (chunk : List UInt8) :
    readHex (hexCells lineSize chunk) = chunk := by
  have hblank : ∀ k, readHex (List.replicate k ' ') = [] := by
    intro k
    cases k <;> rfl
  unfold hexCells
  generalize 5 * (lineSize - chunk.length) = k
  induction chunk with
  | nil => exact hblank k
  | cons b chunk ih =>
    rw [List.flatMap_cons, List.append_assoc, List.append_assoc, List.singleton_append,
      readHex_cons, ih]

/-- A character that no digit is: the separators are not taken for one. -/
theorem digitChar_ne {d : Nat} (hd : d < 16) : Nat.digitChar d ≠ ':' ∧ Nat.digitChar d ≠ '\n' := by
  have hall : ∀ d : Fin 16, Nat.digitChar d ≠ ':' ∧ Nat.digitChar d ≠ '\n' := by decide
  exact hall ⟨d, hd⟩

section Line

variable (lineSize : Nat) (chunk : List UInt8) (line : Nat)

/-- The number of a line ends at its colon, which is the first one there. -/
theorem indexField_lineChars : indexField (lineChars lineSize chunk line) =
      (Nat.toDigits 16 line).leftpad 4 '0' ∧
    (lineChars lineSize chunk line).dropWhile (· ≠ ':') = ':' :: ' ' :: (hexCells lineSize chunk ++
      ([' ', '|', ' '] ++ ((chunk.map visibleChar).rightpad lineSize ' ' ++ [' ', '|']))) := by
  have hdigits : ∀ c ∈ (Nat.toDigits 16 line).leftpad 4 '0', decide (c ≠ ':') = true := by
    intro c hc
    obtain ⟨d, hd, rfl⟩ := Digits.exists_of_mem_leftpad (by decide) hc
    exact decide_eq_true (digitChar_ne hd).1
  rw [indexField, lineChars, List.takeWhile_append_of_pos hdigits,
    List.dropWhile_append_of_pos hdigits]
  simp

variable {lineSize chunk}

/-- The field of bytes starts behind the number and has its width. -/
theorem hexField_lineChars (hlen : chunk.length ≤ lineSize) :
    hexField lineSize (lineChars lineSize chunk line) = hexCells lineSize chunk := by
  rw [hexField, (indexField_lineChars lineSize chunk line).2]
  exact List.take_left' (length_hexCells hlen)

/-- The text starts behind the bar, and is filled up with blanks. -/
theorem textField_lineChars (hlen : chunk.length ≤ lineSize) :
    textField lineSize (lineChars lineSize chunk line) =
      (chunk.map visibleChar).rightpad lineSize ' ' := by
  have hcells := length_hexCells hlen
  have htext : ((chunk.map visibleChar).rightpad lineSize ' ').length = lineSize := by
    rw [List.length_rightpad, List.length_map]
    omega
  rw [textField, (indexField_lineChars lineSize chunk line).2]
  show ((hexCells lineSize chunk ++ _).drop _).take _ = _
  rw [← List.append_assoc, List.drop_left' (by simp [hcells]), List.take_left' htext]

theorem getElem?_column {before : List Char} {i : Nat} (hcolumn : before.length = i) (c : Char)
    (after : List Char) : (before ++ c :: after)[i]? = some c := by
  rw [← hcolumn, List.getElem?_append_right (Nat.le_refl _), Nat.sub_self, List.getElem?_cons_zero]

/-- A line whose number has four digits: its length, and where its separators
are, are those of every such line, however many bytes it has. -/
theorem aligned_lineChars (hlen : chunk.length ≤ lineSize) (hline : line < 16 ^ 4) :
    (lineChars lineSize chunk line).length = 6 * lineSize + 11 ∧
      (lineChars lineSize chunk line)[5 * lineSize + 7]? = some '|' ∧
      (lineChars lineSize chunk line)[6 * lineSize + 10]? = some '|' := by
  have hcells := length_hexCells hlen
  have hindex : ((Nat.toDigits 16 line).leftpad 4 '0').length = 4 := by
    have hle := (Nat.length_toDigits_le_iff (by decide) (by decide)).mpr hline
    rw [List.length_leftpad]
    omega
  have htext : ((chunk.map visibleChar).rightpad lineSize ' ').length = lineSize := by
    rw [List.length_rightpad, List.length_map]
    omega
  unfold lineChars
  generalize (Nat.toDigits 16 line).leftpad 4 '0' = index at hindex
  generalize (chunk.map visibleChar).rightpad lineSize ' ' = text at htext
  generalize hexCells lineSize chunk = cells at hcells
  refine ⟨?_, ?_, ?_⟩
  · simp only [List.length_append, List.length_cons, List.length_nil]
    omega
  · have hsplit : index ++ ':' :: ' ' :: (cells ++ ([' ', '|', ' '] ++ (text ++ [' ', '|']))) =
        (index ++ ':' :: ' ' :: (cells ++ [' '])) ++ '|' :: ' ' :: (text ++ [' ', '|']) := by simp
    rw [hsplit]
    refine getElem?_column ?_ _ _
    simp only [List.length_append, List.length_cons, List.length_nil]
    omega
  · have hsplit : index ++ ':' :: ' ' :: (cells ++ ([' ', '|', ' '] ++ (text ++ [' ', '|']))) =
        (index ++ ':' :: ' ' :: (cells ++ ([' ', '|', ' '] ++ (text ++ [' '])))) ++ ['|'] := by simp
    rw [hsplit]
    refine getElem?_column ?_ _ _
    simp only [List.length_append, List.length_cons, List.length_nil]
    omega

/-- A line feed in the data is shown as a dot. -/
theorem visibleChar_ne_newline (c : UInt8) : visibleChar c ≠ '\n' := by
  unfold visibleChar
  split
  · rename_i hvisible
    have hlow : 32 ≤ c.toNat := UInt8.le_iff_toNat_le.mp hvisible.1
    have hhigh : c.toNat ≤ 126 := UInt8.le_iff_toNat_le.mp hvisible.2
    have hall : ∀ d : Fin 95, Char.ofNat (d.val + 32) ≠ '\n' := by decide
    have hchar := hall ⟨c.toNat - 32, by omega⟩
    rwa [Nat.sub_add_cancel hlow] at hchar
  · decide

/-- No character of a line is a line feed: not the digits, not the separators,
and not the text, in which a line feed is a dot. -/
theorem newline_notMem_lineChars : '\n' ∉ lineChars lineSize chunk line := by
  have hdigit : ∀ d < 16, '\n' ≠ Nat.digitChar d := fun d hd => (digitChar_ne hd).2.symm
  have hindex : '\n' ∉ (Nat.toDigits 16 line).leftpad 4 '0' := by
    intro hc
    obtain ⟨d, hd, heq⟩ := Digits.exists_of_mem_leftpad (by decide) hc
    exact hdigit d hd heq
  have hcells : '\n' ∉ hexCells lineSize chunk := by
    intro hc
    rcases List.mem_append.mp hc with hbyte | hblank
    · obtain ⟨b, -, hb⟩ := List.mem_flatMap.mp hbyte
      have hlt : b.toNat < 256 := b.toNat_lt
      have hhigh := hdigit (b.toNat / 16) (by omega)
      have hlow := hdigit (b.toNat % 16) (by omega)
      simp [hexChars, hhigh, hlow] at hb
    · exact absurd (List.eq_of_mem_replicate hblank) (by decide)
  have htext : '\n' ∉ (chunk.map visibleChar).rightpad lineSize ' ' := by
    intro hc
    rcases List.mem_append.mp hc with hchar | hblank
    · obtain ⟨c, -, hc⟩ := List.mem_map.mp hchar
      exact visibleChar_ne_newline c hc
    · exact absurd (List.eq_of_mem_replicate hblank) (by decide)
  simp only [lineChars, List.mem_append, List.mem_cons, hindex, hcells, htext]
  decide

end Line

-- ---------------------------------------------------------------------------
-- The whole dump
-- ---------------------------------------------------------------------------

/-- The sizes that `each_slice` and, where there is a line, `%*s` can take. -/
def Formats (data : List UInt8) (lineSize : Nat) : Prop :=
  lineSize ≤ maxLineSize ∨ data = [] ∧ lineSize ≤ 9223372036854775807

def dumpLines (data : List UInt8) (lineSize : Nat) : List String :=
  (Slices.slices lineSize data).zipIdx.map fun (chunk, line) =>
    String.ofList (lineChars lineSize chunk line)

section Dump

variable {data : List UInt8} {lineSize : Nat}

/-- `each_slice` takes every size that is a C `long`. -/
theorem eachSlice_ok (hpos : 1 ≤ lineSize) (hmax : lineSize ≤ 9223372036854775807) :
    eachSlice data lineSize = .ok (Slices.slices lineSize data) := by
  rw [eachSlice, if_neg (by omega), if_neg (by omega), Int.toNat_natCast]

/-- A dump that can be formatted is its lines, joined; they are those of the
slices, numbered from 0. Without data there is no line, and any size will do
for the field. -/
theorem hexdump_eq (hpos : 1 ≤ lineSize) (h : Formats data lineSize) :
    hexdump data lineSize = .ok ("\n".intercalate (dumpLines data lineSize)) := by
  have hlong : lineSize ≤ 9223372036854775807 := by
    rcases h with hmax | ⟨-, hlong⟩
    · exact Nat.le_trans hmax (by decide)
    · exact hlong
  have hlines : ∀ p ∈ (Slices.slices lineSize data).zipIdx, hexdumpLine lineSize p.1 p.2 =
      .ok (String.ofList (lineChars lineSize p.1 p.2)) := by
    intro p hp
    have hchunk := List.fst_mem_of_mem_zipIdx hp
    rcases h with hmax | ⟨rfl, -⟩
    · exact hexdumpLine_eq hpos hmax (Slices.length_le_of_mem_slices hchunk) p.2
    · -- no bytes, no line
      have hzero : (0 + lineSize - 1) / lineSize = 0 := Nat.div_eq_of_lt (by omega)
      rw [Slices.slices, List.length_nil, hzero] at hchunk
      cases hchunk
  rw [hexdump, eachSlice_ok hpos hlong]
  show ((Slices.slices lineSize data).zipIdx.mapM
    fun p : List UInt8 × Nat => hexdumpLine lineSize p.1 p.2).bind _ = _
  rw [Except.mapM_eq_ok hlines]
  rfl

/-- One that cannot raises: the size is no C `long`, or there is a line and
the width of its field is no C `int`. -/
theorem hexdump_wide (hpos : 1 ≤ lineSize) (h : ¬ Formats data lineSize) :
    hexdump data lineSize = .error .rangeError := by
  rw [Formats, not_or, not_and, Nat.not_le] at h
  obtain ⟨hmax, hlong⟩ := h
  by_cases hsize : lineSize ≤ 9223372036854775807
  · have hdata : data ≠ [] := fun hnil => hlong hnil hsize
    have hlen : 0 < (Slices.slices lineSize data).length := by
      have hbytes := List.length_pos_iff.mpr hdata
      rw [Slices.length_slices]
      exact Nat.div_pos (by omega) (by omega)
    obtain ⟨chunk, chunks, hslices⟩ := List.exists_cons_of_length_pos hlen
    rw [hexdump, eachSlice_ok hpos hsize, hslices]
    show ((chunk :: chunks).zipIdx.mapM
      fun p : List UInt8 × Nat => hexdumpLine lineSize p.1 p.2).bind _ = _
    rw [List.zipIdx_cons, List.mapM_cons, hexdumpLine_wide hmax]
    rfl
  · rw [hexdump, eachSlice, if_pos (by omega)]
    rfl

theorem exists_of_getElem?_dumpLines {i : Nat} {line : String}
    (h : (dumpLines data lineSize)[i]? = some line) :
    ∃ chunk, (Slices.slices lineSize data)[i]? = some chunk ∧
      line.toList = lineChars lineSize chunk i := by
  rw [dumpLines, List.getElem?_map] at h
  obtain ⟨⟨chunk, j⟩, hp, rfl⟩ := Option.map_eq_some_iff.mp h
  rw [List.getElem?_zipIdx] at hp
  obtain ⟨chunk', hchunk, hpair⟩ := Option.map_eq_some_iff.mp hp
  rw [Prod.mk.injEq, Nat.zero_add] at hpair
  obtain ⟨rfl, rfl⟩ := hpair
  exact ⟨chunk', hchunk, String.toList_ofList⟩

theorem length_le_of_getElem?_slices {i : Nat} {chunk : List UInt8}
    (h : (Slices.slices lineSize data)[i]? = some chunk) : chunk.length ≤ lineSize :=
  Slices.length_le_of_mem_slices (List.mem_of_getElem? h)

/-- Every byte is in the cells of one line, in order. -/
theorem flatMap_dumpLines (data : List UInt8) (hpos : 1 ≤ lineSize) :
    ((dumpLines data lineSize).flatMap fun line => readHex (hexField lineSize line.toList)) =
      data := by
  have hread : ∀ p ∈ (Slices.slices lineSize data).zipIdx,
      readHex (hexField lineSize (String.ofList (lineChars lineSize p.1 p.2)).toList) = p.1 := by
    intro p hp
    have hlen := Slices.length_le_of_mem_slices (List.fst_mem_of_mem_zipIdx hp)
    rw [String.toList_ofList, hexField_lineChars _ hlen, readHex_hexCells]
  rw [dumpLines, List.flatMap_map, List.flatMap_def]
  calc ((Slices.slices lineSize data).zipIdx.map fun p =>
        readHex (hexField lineSize (String.ofList (lineChars lineSize p.1 p.2)).toList)).flatten
      = ((Slices.slices lineSize data).zipIdx.map Prod.fst).flatten := by
        rw [List.map_congr_left hread]
    _ = data := by rw [List.zipIdx_map_fst, Slices.flatten_slices hpos]

/-- The lines of a dump are what lies between its line feeds. -/
theorem newline_notMem_dumpLines (data : List UInt8) (lineSize : Nat) :
    ∀ line ∈ dumpLines data lineSize, '\n' ∉ line.toList := by
  intro line hline
  obtain ⟨i, hi⟩ := List.mem_iff_getElem?.mp hline
  obtain ⟨chunk, -, hchars⟩ := exists_of_getElem?_dumpLines hi
  rw [hchars]
  exact newline_notMem_lineChars i

/-- **Round trip.** The bytes can be read back from the dump: its lines are
what lies between the line feeds, and the cells of each line are read up to
the first blank one. -/
theorem readDump_dumpLines (hpos : 1 ≤ lineSize) :
    readDump lineSize ("\n".intercalate (dumpLines data lineSize)) = data := by
  have hbytes := flatMap_dumpLines data hpos
  have hnewline := newline_notMem_dumpLines data lineSize
  rw [readDump, String.toList_intercalate]
  generalize dumpLines data lineSize = lines at hbytes hnewline
  by_cases hnil : lines = []
  · rw [hnil] at hbytes ⊢
    rw [← hbytes, List.map_nil, List.intercalate_nil, List.splitOn_nil]
    simp [hexField, readHex]
  · have hsplit : (['\n'].intercalate (lines.map String.toList)).splitOn '\n' =
        lines.map String.toList := by
      refine List.splitOn_intercalate _ ?_ (by simpa using hnil)
      intro line hline
      obtain ⟨l, hl, rfl⟩ := List.mem_map.mp hline
      exact hnewline l hl
    rw [show "\n".toList = ['\n'] from rfl, hsplit, List.flatMap_map]
    exact hbytes

/-- The lines show the data: their number is that of the slices, their
separators stand below each other, and their bytes and texts are those of the
data. -/
theorem isDump_dumpLines (hpos : 1 ≤ lineSize) :
    IsDump data lineSize ("\n".intercalate (dumpLines data lineSize))
      (dumpLines data lineSize) where
  join := rfl
  count := by rw [dumpLines, List.length_map, List.length_zipIdx, Slices.length_slices]
  oneLine := newline_notMem_dumpLines data lineSize
  index := by
    intro i line hi
    obtain ⟨chunk, -, hchars⟩ := exists_of_getElem?_dumpLines hi
    rw [hchars]
    exact (indexField_lineChars lineSize chunk i).1
  aligned := by
    intro i line hi hline
    obtain ⟨chunk, hchunk, hchars⟩ := exists_of_getElem?_dumpLines hi
    rw [← String.length_toList, hchars]
    exact aligned_lineChars i (length_le_of_getElem?_slices hchunk) hline
  hex := flatMap_dumpLines data hpos
  text := by
    intro i line j b hi hj hb
    obtain ⟨chunk, hchunk, hchars⟩ := exists_of_getElem?_dumpLines hi
    have hbyte : chunk[j]? = some b := by
      rw [Slices.getElem?_slices hchunk, List.getElem?_take_of_lt hj, List.getElem?_drop]
      exact hb
    have hlt : j < (chunk.map visibleChar).length := by
      rw [List.length_map]
      exact (List.getElem?_eq_some_iff.mp hbyte).1
    rw [hchars, textField_lineChars _ (length_le_of_getElem?_slices hchunk), List.rightpad,
      List.getElem?_append_left hlt, List.getElem?_map, hbyte]
    rfl
  read := readDump_dumpLines hpos

/-- As the bytes can be read back, equal dumps are dumps of equal strings. -/
theorem hexdump_injective {data' : List UInt8} {dump : String} (hpos : 1 ≤ lineSize)
    (h : hexdump data lineSize = .ok dump) (h' : hexdump data' lineSize = .ok dump) :
    data' = data := by
  have hread : ∀ d, hexdump d lineSize = .ok dump → readDump lineSize dump = d := by
    intro d hd
    by_cases hf : Formats d lineSize
    · rw [hexdump_eq hpos hf, Except.ok.injEq] at hd
      rw [← hd]
      exact readDump_dumpLines hpos
    · rw [hexdump_wide hpos hf] at hd
      cases hd
  rw [← hread _ h, ← hread _ h']

/-- **Hexdump.** For every string and every size of at least 1: if the size is
one that `each_slice` and `%*s` can take, the dump has the lines of `IsDump`;
otherwise a RangeError is raised. Equal dumps are dumps of equal strings. -/
theorem hexdump_lossless (data : List UInt8) (lineSize : Nat) (hpos : 1 ≤ lineSize) :
    (Formats data lineSize →
      ∃ dump lines, hexdump data lineSize = .ok dump ∧ IsDump data lineSize dump lines) ∧
    (¬ Formats data lineSize → hexdump data lineSize = .error .rangeError) ∧
    ∀ data' dump, hexdump data lineSize = .ok dump → hexdump data' lineSize = .ok dump →
      data' = data :=
  ⟨fun h => ⟨_, _, hexdump_eq hpos h, isDump_dumpLines hpos⟩, hexdump_wide hpos,
    fun _ _ h h' => hexdump_injective hpos h h'⟩

/-- Three bytes in lines of two, with a line feed and a bar among them. -/
theorem hexdump_lossless_twoLines :
    ∃ dump lines, hexdump [0x41, 0x0A, 0x7C] 2 = .ok dump ∧
      IsDump [0x41, 0x0A, 0x7C] 2 dump lines ∧ lines.length = 2 := by
  obtain ⟨dump, lines, hdump, hlines⟩ :=
    (hexdump_lossless [0x41, 0x0A, 0x7C] 2 (by decide)).1 (.inl (by decide))
  exact ⟨dump, lines, hdump, hlines, hlines.count⟩

/-- **A line too wide.** One byte, in a line of 429496730: the width of its
field is no C `int`. -/
theorem wideLine_raises :
    hexdump [0] 429496730 = .error .rangeError ∧
    ¬ ∃ dump lines, hexdump [0] 429496730 = .ok dump ∧ IsDump [0] 429496730 dump lines := by
  have hwide : hexdump [0] 429496730 = .error .rangeError := by
    have hsize : ¬ Formats [0] 429496730 := by
      rw [Formats, not_or]
      exact ⟨by decide, fun h => nomatch h.1⟩
    exact hexdump_wide (by decide) hsize
  refine ⟨hwide, ?_⟩
  rintro ⟨dump, lines, hdump, -⟩
  rw [hwide] at hdump
  cases hdump

end Dump

end AntWireless.DataUtilities
