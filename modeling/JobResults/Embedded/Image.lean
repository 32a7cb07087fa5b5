import JobResults.Embedded.Tables

/-!
  # Images of the embedded store

  An image holds the rows of all tables, one after the other: a byte for the table, then the key
  and the content, each behind its length.  Reading an image gives back the rows that were written
  (`readRows_writeRows`).
-/

namespace JobResults.Embedded

open Bytes (bigEndian ofBigEndian)

/-- A row with its table. -/
structure Row where
  table : TableName
  key : Bytes
  content : Bytes
  deriving DecidableEq, Repr

def TableName.byte : TableName → UInt8
  | values => 0
  | scores => 1
  | members => 2

def TableName.ofByte? (b : UInt8) : Option TableName :=
  if b = 0 then some values else if b = 1 then some scores else if b = 2 then some members else none

@[simp] theorem TableName.ofByte?_byte (t : TableName) : ofByte? t.byte = some t := by
  cases t <;> simp [ofByte?, byte]

def writeField (b : Bytes) : Bytes := bigEndian wordWidth b.length ++ b

/-- Bytes behind their length, and what follows. -/
def readField (s : Bytes) : Option (Bytes × Bytes) :=
  if s.length < wordWidth then none
  else
    let length := ofBigEndian (s.take wordWidth)
    let rest := s.drop wordWidth
    if rest.length < length then none else some (rest.take length, rest.drop length)

theorem readField_writeField (b rest : Bytes) (h : b.length < 256 ^ wordWidth) :
    readField (writeField b ++ rest) = some (b, rest) := by
  have hlen : (bigEndian wordWidth b.length).length = wordWidth := Bytes.length_bigEndian ..
  have hn : ofBigEndian (bigEndian wordWidth b.length) = b.length := by
    rw [Bytes.ofBigEndian_bigEndian, Nat.mod_eq_of_lt h]
  have htake : (writeField b ++ rest).take wordWidth = bigEndian wordWidth b.length := by
    rw [writeField, List.append_assoc, List.take_left' hlen]
  have hdrop : (writeField b ++ rest).drop wordWidth = b ++ rest := by
    rw [writeField, List.append_assoc, List.drop_left' hlen]
  have hlong : ¬ (writeField b ++ rest).length < wordWidth := by
    simp [writeField, hlen]
  have hrest : ¬ (b ++ rest).length < b.length := by simp
  simp only [readField, hlong, htake, hdrop, hn, hrest, if_false, List.take_left, List.drop_left]

def writeRow (r : Row) : Bytes := r.table.byte :: (writeField r.key ++ writeField r.content)

def writeRows (rows : List Row) : Bytes := rows.flatMap writeRow

def readRow (s : Bytes) : Option (Row × Bytes) :=
  match s with
  | [] => none
  | b :: rest => do
    let table ← TableName.ofByte? b
    let (key, rest) ← readField rest
    let (content, rest) ← readField rest
    return (⟨table, key, content⟩, rest)

def readRowsFrom : (fuel : Nat) → Bytes → Option (List Row)
  | _, [] => some []
  | 0, _ :: _ => none
  | fuel + 1, b :: rest => do
    let (row, rest) ← readRow (b :: rest)
    let rows ← readRowsFrom fuel rest
    return row :: rows

def readRows (s : Bytes) : Option (List Row) := readRowsFrom s.length s

/-- Whether the key and the content of a row have lengths that can be written. -/
structure Row.Fits (r : Row) : Prop where
  key : r.key.length < 256 ^ wordWidth
  content : r.content.length < 256 ^ wordWidth

theorem readRow_cons {b : UInt8} {table : TableName} {key content fields rest rest' : Bytes}
    (hb : TableName.ofByte? b = some table) (hk : readField fields = some (key, rest))
    (hc : readField rest = some (content, rest')) :
    readRow (b :: fields) = some (⟨table, key, content⟩, rest') := by
  simp only [readRow, hb, hk, hc, bind, pure, Option.bind_some]

theorem readRow_writeRow (r : Row) (rest : Bytes) (h : r.Fits) :
    readRow (r.table.byte :: (writeField r.key ++ (writeField r.content ++ rest))) = some (r, rest) :=
  readRow_cons (TableName.ofByte?_byte r.table) (readField_writeField r.key _ h.key)
    (readField_writeField r.content rest h.content)

theorem readRowsFrom_writeRows (rows : List Row) (h : ∀ r ∈ rows, r.Fits) (fuel : Nat)
    (hf : (writeRows rows).length ≤ fuel) : readRowsFrom fuel (writeRows rows) = some rows := by
  induction rows generalizing fuel with
  | nil => cases fuel <;> rfl
  | cons r rows ih =>
    have hcons : writeRows (r :: rows)
        = r.table.byte :: (writeField r.key ++ (writeField r.content ++ writeRows rows)) := by
      simp only [writeRows, List.flatMap_cons, writeRow, List.cons_append, List.append_assoc]
    have hrow := readRow_writeRow r (writeRows rows) (h r (by simp))
    rw [hcons] at hf ⊢
    cases fuel with
    | zero => simp at hf
    | succ fuel =>
      have hfuel : (writeRows rows).length ≤ fuel := by
        simp only [List.length_cons, List.length_append] at hf
        omega
      have hrest := ih (fun r hr => h r (List.mem_cons_of_mem _ hr)) fuel hfuel
      simp only [readRowsFrom, hrow, hrest, bind, pure, Option.bind_some]

/-- Reading an image gives back the rows that were written. -/
theorem readRows_writeRows (rows : List Row) (h : ∀ r ∈ rows, r.Fits) :
    readRows (writeRows rows) = some rows :=
  readRowsFrom_writeRows rows h _ (Nat.le_refl _)

namespace Tables

def rowsOf (name : TableName) (t : Table) : List Row := t.toList.map fun r => ⟨name, r.1, r.2⟩

def rows (t : Tables) : List Row :=
  rowsOf .values t.values ++ rowsOf .scores t.scores ++ rowsOf .members t.members

def ofRows (rows : List Row) : Tables :=
  empty.writeAll (rows.map fun r => ⟨r.table, r.key, some r.content⟩)

def image (t : Tables) : Bytes := writeRows t.rows

def ofImage? (s : Bytes) : Option Tables := (readRows s).map ofRows

end Tables

end JobResults.Embedded
