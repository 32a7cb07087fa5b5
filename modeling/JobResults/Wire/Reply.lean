import JobResults.Binary64.Decimal
import JobResults.Bytes
import JobResults.Text.Blank
import JobResults.Text.Integer

/-!
  # Replies of a remote store

  A reply starts with a byte that tells its kind.  Most kinds then hold a line, which ends in a
  carriage return and a line feed; strings of any bytes hold their length and themselves; lists
  hold their length and their items.  A negative length stands for nothing.
-/

namespace JobResults.Wire

/-- A reply. -/
inductive Reply where
  | nil
  | line (text : String)
  | refusal (text : String)
  | integer (value : Int64)
  | double (value : Binary64)
  | bulk (payload : Bytes)
  | verbatim (text : String)
  | other
  | array (items : List Reply)
  | set (items : List Reply)
  | map (items : List Reply)
  | push (items : List Reply)
  /-- Keys and values in turn, with the reply that they annotate. -/
  | annotated (notes : List Reply) (reply : Reply)
  deriving Repr

namespace Reply

/-! ### Reading -/

/-- The bytes up to the end of a line, and those after it. -/
def splitLine : Bytes → Option (Bytes × Bytes)
  | [] => none
  | 13 :: 10 :: rest => some ([], rest)
  | b :: rest => (splitLine rest).map fun (front, rest) => (b :: front, rest)

def textLine (input : Bytes) : Option (String × Bytes) := do
  let (front, rest) ← splitLine input
  let text ← Bytes.toString? front
  return (text, rest)

def integerLine (input : Bytes) : Option (Int64 × Bytes) := do
  let (text, rest) ← textLine input
  let value ← Text.signed64? (Text.trim text.toList)
  return (value, rest)

/-- A string of a given length with its line end, and what follows. -/
def sized (length : Nat) (input : Bytes) : Option (Bytes × Bytes) :=
  if input.length < length then none
  else
    match input.drop length with
    | 13 :: 10 :: rest => some (input.take length, rest)
    | _ => none

/-- A given number of items, and what follows. -/
def repeated (item : Bytes → Option (Reply × Bytes)) : (count : Nat) → Bytes →
    Option (List Reply × Bytes)
  | 0, input => some ([], input)
  | count + 1, input => do
    let (reply, input) ← item input
    let (replies, input) ← repeated item count input
    return (reply :: replies, input)

/-- Items behind the line with their count, each of which takes `per` replies. -/
def container (item : Bytes → Option (Reply × Bytes)) (per : Nat) (make : List Reply → Reply)
    (input : Bytes) : Option (Reply × Bytes) := do
  let (count, input) ← integerLine input
  if count < 0 then return (nil, input)
  let (replies, input) ← repeated item (per * count.toInt.toNat) input
  return (make replies, input)

def sizedText (input : Bytes) : Option (Bytes × Bytes) := do
  let (length, input) ← integerLine input
  if length < 0 then none else sized length.toInt.toNat input

def withNotes (notes : List Reply) : Reply :=
  match notes.getLast? with
  | some reply => annotated notes.dropLast reply
  | none => nil

def verbatim? (payload : Bytes) : Option Reply := do
  let text ← Bytes.toString? payload
  let rest := text.toList.dropWhile (· != ':')
  match rest with
  | ':' :: body => some (verbatim (String.ofList body))
  | _ => none

/-- A reply of a kind that holds a line or a string. -/
def scalar (kind : Char) (input : Bytes) : Option (Reply × Bytes) :=
  match kind with
  | '+' => (textLine input).map fun (text, rest) => (line text, rest)
  | '-' => (textLine input).map fun (text, rest) => (refusal text, rest)
  | ':' => (integerLine input).map fun (value, rest) => (integer value, rest)
  | '_' => (textLine input).map fun (_, rest) => (nil, rest)
  | '$' => do
    let (length, input) ← integerLine input
    if length < 0 then return (nil, input)
    let (payload, input) ← sized length.toInt.toNat input
    return (bulk payload, input)
  | ',' => do
    let (text, input) ← textLine input
    let value ← Binary64.parse? (Text.trim text.toList)
    return (double value, input)
  | '#' => do
    let (text, input) ← textLine input
    if text = "t" ∨ text = "f" then return (other, input) else none
  | '(' => do
    let (text, input) ← textLine input
    let digits := match text.toList with
      | '+' :: rest => rest
      | '-' :: rest => rest
      | digits => digits
    if (Text.digits? digits).isSome then return (other, input) else none
  | '=' => do
    let (payload, input) ← sizedText input
    let reply ← verbatim? payload
    return (reply, input)
  | '!' => do
    let (payload, input) ← sizedText input
    return (refusal ((Bytes.toString? payload).getD ""), input)
  | _ => none

/-- A reply whose containers are nested at most `depth` deep, and what follows. -/
def read : (depth : Nat) → Bytes → Option (Reply × Bytes)
  | _, [] => none
  | 0, kind :: input => scalar (Char.ofNat kind.toNat) input
  | depth + 1, kind :: input =>
    match Char.ofNat kind.toNat with
    | '*' => container (read depth) 1 array input
    | '~' => container (read depth) 1 set input
    | '>' => container (read depth) 1 push input
    | '%' => container (read depth) 2 map input
    | '|' => do
      let (count, input) ← integerLine input
      if count < 0 then none
      else
        let (replies, input) ← repeated (read depth) (2 * count.toInt.toNat + 1) input
        return (withNotes replies, input)
    | kind => scalar kind input

def maxDepth : Nat := 100

/-- A given number of replies, and no more than they need of the input. -/
def readMany (count : Nat) (input : Bytes) : Option (List Reply) :=
  (repeated (read maxDepth) count input).map Prod.fst

/-! ### What a reply says -/

mutual

/-- Whether there is a refusal anywhere in a reply. -/
def refuses : Reply → Bool
  | refusal _ => true
  | array items => anyRefuses items
  | set items => anyRefuses items
  | map items => anyRefuses items
  | push items => anyRefuses items
  | annotated notes reply => anyRefuses notes || refuses reply
  | _ => false

/-- Whether there is a refusal anywhere in one of the replies. -/
def anyRefuses : List Reply → Bool
  | [] => false
  | reply :: rest => refuses reply || anyRefuses rest

end

def bare : Reply → Reply
  | annotated _ reply => bare reply
  | reply => reply

def text? (r : Reply) : Option String :=
  match r.bare with
  | line text => some text
  | verbatim text => some text
  | bulk payload => Bytes.toString? payload
  | integer value => some (Text.decimal value.toInt)
  | double value => some value.plainText
  | _ => none

/-- The texts that a reply lists.  One string is a list of one, nothing is the empty list. -/
def texts? (r : Reply) : Option (List String) :=
  match r.bare with
  | array items => items.mapM text?
  | set items => items.mapM text?
  | map items => if items.isEmpty then some [] else none
  | bulk payload => (Bytes.toString? payload).map fun text => [text]
  | nil => some []
  | _ => none

def byteOfText? (text : String) : Option UInt8 := do
  let value ← Text.unsigned64? text.toList
  if value < 256 then some value.toUInt8 else none

/-- The byte that a reply stands for.  An integer gives its last eight bits, a double is cut to a
    whole number and to the range of a byte. -/
def byte? (r : Reply) : Option UInt8 :=
  match r.bare with
  | integer value => some (UInt8.ofNat (value.toInt % 256).toNat)
  | line text => byteOfText? text
  | bulk payload => (Bytes.toString? payload).bind byteOfText?
  | double value => some (UInt8.ofNat (value.truncateWithin 0 255).toNat)
  | _ => none

/-- The payload that a reply stands for, if any.  A list is a payload byte by byte. -/
def payload? (r : Reply) : Option (Option Bytes) :=
  match r.bare with
  | nil => some none
  | bulk payload => some (some payload)
  | array items => (items.mapM byte?).map some
  | set items => (items.mapM byte?).map some
  | map items => if items.isEmpty then some (some []) else none
  | _ => none

end Reply

end JobResults.Wire
