import JobResults.Config.Fault
import JobResults.Text.LowerCase

/-!
  # Conversions of single values

  Settings are lenient: a number may be written as a text or a truth value, and a text as a number.
-/

namespace JobResults.Config

abbrev Decoder (α : Type) := Value → Except Fault α

/-- The fault of a value that cannot be converted. -/
def unfit (v : Value) (need : Need) : Fault := ⟨[], .mismatch v.finding need, v.origin⟩

/-- The truth value that a word stands for, in any case. -/
def switch? (s : String) : Option Bool :=
  let word := String.ofList (Text.lower s.toList)
  if ["true", "on", "yes"].contains word then some true
  else if ["false", "off", "no"].contains word then some false
  else none

def signed : Decoder Int64
  | v@(.scalar _ scalar) =>
    match scalar with
    | .integer n => .ok n
    | .boolean b => .ok (if b then 1 else 0)
    | .float x => .ok (Int64.ofInt (x.roundWithin (-2 ^ 63) (2 ^ 63 - 1)))
    | .text s =>
      match switch? s, Text.signed64? s.toList with
      | some b, _ => .ok (if b then 1 else 0)
      | none, some n => .ok n
      | none, none => .error (unfit v .integer)
    | .absent => .error (unfit v .integer)
  | v => .error (unfit v .integer)

def unsigned : Decoder UInt64
  | v@(.scalar origin scalar) =>
    match scalar with
    | .integer n => if 0 ≤ n then .ok n.toUInt64 else .error ⟨[], .negative n, origin⟩
    | .boolean b => .ok (if b then 1 else 0)
    | .float x => .ok (UInt64.ofNat (x.roundWithin 0 (2 ^ 64 - 1)).toNat)
    | .text s =>
      match switch? s, Text.unsigned64? s.toList with
      | some b, _ => .ok (if b then 1 else 0)
      | none, some n => .ok n
      | none, none => .error (unfit v .integer)
    | .absent => .error (unfit v .integer)
  | v => .error (unfit v .integer)

def text : Decoder String
  | v@(.scalar _ scalar) =>
    match scalar with
    | .text s => .ok s
    | .boolean b => .ok (toString b)
    | .integer n => .ok (Text.decimal n.toInt)
    | .float x => .ok x.plainText
    | .absent => .error (unfit v .text)
  | v => .error (unfit v .text)

def duration (v : Value) : Except Fault Duration :=
  (Duration.ofFinding v.finding).mapError fun e => .plain (.duration e)

def textsFrom : (index : Nat) → List Value → Except Fault (List String)
  | _, [] => .ok []
  | index, v :: rest => do
    let s ← (text v).mapError (Fault.under (.position index))
    let others ← textsFrom (index + 1) rest
    return s :: others

def texts : Decoder (List String)
  | .list _ items => textsFrom 0 items
  | v => .error (.plain (.mismatch v.finding .sequence))

end JobResults.Config
