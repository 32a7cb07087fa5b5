import JobResults.Proofs.Text.Numeral
import JobResults.Wire.Request

/-!
  # Reading requests back

  A server reads a request by the places of its arguments: the first names the command, and each of
  the others has its meaning from its place (`read?`).  What it makes of a batch is the batch, with
  every time to live in whole milliseconds and those that it could not count left out
  (`received`).  So two batches go out alike exactly if they are received alike, whatever
  their keys, members and payloads look like.
-/

namespace JobResults.Wire

/-! ### What a server makes of a command -/

/-- How long a server keeps a value: a number of whole milliseconds, but at least one, and for good
    if this is more than it can count. -/
def receivedLifetime (ttl : Duration) : Option Duration :=
  if ttl.millis ≤ (2 ^ 63 - 1) / 2 then
    some (Duration.ofMillis (UInt64.ofNat (max 1 ttl.millis)))
  else none

def received : Command → Command
  | .set key payload ttl => .set key payload (ttl.bind receivedLifetime)
  | command => command

/-! ### Reading by places -/

def readNumber? (argument : Bytes) : Option Int64 :=
  (Bytes.toString? argument).bind fun text => Text.signed64? text.toList

/-- The limit of a value's life, which may be left out. -/
def readLifetime? : Request → Option (Option Duration)
  | [] => some none
  | [option, amount] =>
    if option = word "PX" then
      ((Bytes.toString? amount).bind fun text => Text.unsigned64? text.toList).map fun n =>
        some (Duration.ofMillis n)
    else none
  | _ => none

/-- The arguments of a command, by its name. -/
def readArguments? : (name : String) → Request → Option Command
  | "SET", key :: payload :: rest => do
    let key ← Bytes.toString? key
    let ttl ← readLifetime? rest
    return .set key payload ttl
  | "DEL", [key] => do
    let key ← Bytes.toString? key
    return .delete key
  | "ZADD", [key, score, member] => do
    let key ← Bytes.toString? key
    let score ← readNumber? score
    let member ← Bytes.toString? member
    return .rank key member score
  | "ZREM", [key, member] => do
    let key ← Bytes.toString? key
    let member ← Bytes.toString? member
    return .unrank key member
  | "ZREMRANGEBYSCORE", [key, min, max] => do
    let key ← Bytes.toString? key
    let min ← readNumber? min
    let max ← readNumber? max
    return .unrankRange key min max
  | _, _ => none

def read? : Request → Option Command
  | [] => none
  | name :: arguments => (Bytes.toString? name).bind fun name => readArguments? name arguments

/-! ### Arguments -/

@[simp] theorem toString?_word (s : String) : Bytes.toString? (word s) = some s :=
  Bytes.toString?_ofString s

@[simp] theorem readNumber?_number (v : Int64) : readNumber? (number v.toInt) = some v := by
  rw [readNumber?, number, toString?_word, Option.bind_some, Text.signed64?_eq_some_iff]
  exact ⟨v.toInt, Text.signedNumeral_decimal v.toInt, v.le_toInt, v.toInt_lt,
    (Int64.ofInt_toInt v).symm⟩

/-! ### Times to live -/

/-- What is sent of a time to live can be counted and is not zero. -/
theorem bounds_of_millis? {ttl : Option Duration} {n : Nat} (h : ttl.bind millis? = some n) :
    1 ≤ n ∧ n ≤ (2 ^ 63 - 1) / 2 := by
  obtain ⟨d, -, hd⟩ := Option.bind_eq_some_iff.1 h
  rw [millis?] at hd
  split at hd
  · next hshort =>
    obtain rfl := Option.some.inj hd
    rw [maxMillis] at hshort
    omega
  · cases hd

/-- A server keeps a value for as long as it is told. -/
theorem bind_receivedLifetime (ttl : Option Duration) :
    ttl.bind receivedLifetime
      = (ttl.bind millis?).map fun n => Duration.ofMillis (UInt64.ofNat n) := by
  cases ttl with
  | none => rfl
  | some ttl =>
    simp only [Option.bind_some, receivedLifetime, millis?]
    rw [maxMillis]
    split <;> rfl

/-- Whole milliseconds within the bounds are sent as they are. -/
theorem millis?_ofMillis {n : Nat} (hlow : 1 ≤ n) (hhigh : n ≤ (2 ^ 63 - 1) / 2) :
    millis? (Duration.ofMillis (UInt64.ofNat n)) = some n := by
  have hword : n < 2 ^ 64 := by omega
  have hmillis : (Duration.ofMillis (UInt64.ofNat n)).millis = n := by
    simp only [Duration.millis, Duration.ofMillis, UInt64.toNat_ofNat_of_lt' hword]
    exact Nat.mul_div_cancel n (by decide)
  rw [millis?, hmillis, maxMillis, if_pos hhigh, Nat.max_eq_right hlow]

/-- A lifetime that was received goes out as the one that it was made of. -/
theorem lifetime_received (ttl : Option Duration) :
    lifetime (ttl.bind receivedLifetime) = lifetime ttl := by
  rw [bind_receivedLifetime, lifetime, lifetime]
  cases hmillis : ttl.bind millis? with
  | none => rfl
  | some n =>
    obtain ⟨hlow, hhigh⟩ := bounds_of_millis? hmillis
    rw [Option.map_some, Option.bind_some, millis?_ofMillis hlow hhigh]

theorem readLifetime?_lifetime (ttl : Option Duration) :
    readLifetime? (lifetime ttl) = some (ttl.bind receivedLifetime) := by
  rw [bind_receivedLifetime, lifetime]
  cases hmillis : ttl.bind millis? with
  | none => rfl
  | some n =>
    have hword : n < 2 ^ 64 := by
      have := (bounds_of_millis? hmillis).2
      omega
    have hread : Text.unsigned64? (Text.decimal n).toList = some (UInt64.ofNat n) := by
      rw [Text.toList_decimal, Text.unsigned64?_of_numeral (Text.numeral_toDigits n),
        if_pos hword]
    simp only [readLifetime?, number, toString?_word, Option.bind_some, hread, Option.map_some,
      if_true]

/-! ### Commands -/

/-- A request is read as what its command is to be received as. -/
theorem read?_ofCommand (command : Command) :
    read? (ofCommand command) = some (received command) := by
  cases command with
  | set key payload ttl =>
    simp [ofCommand, read?, readArguments?, readLifetime?_lifetime, received]
  | delete key => simp [ofCommand, read?, readArguments?, received]
  | rank key member score => simp [ofCommand, read?, readArguments?, received]
  | unrank key member => simp [ofCommand, read?, readArguments?, received]
  | unrankRange key min max => simp [ofCommand, read?, readArguments?, received]

/-- A command goes out as what it is received as would. -/
theorem ofCommand_received (command : Command) :
    ofCommand (received command) = ofCommand command := by
  cases command with
  | set key payload ttl => rw [received, ofCommand, ofCommand, lifetime_received]
  | delete key => rfl
  | rank key member score => rfl
  | unrank key member => rfl
  | unrankRange key min max => rfl

/-! ### Batches -/

theorem mapM_read?_ofCommand (commands : List Command) :
    (commands.map ofCommand).mapM read? = some (commands.map received) := by
  induction commands with
  | nil => rfl
  | cons command commands ih =>
    rw [List.map_cons, List.mapM_cons, read?_ofCommand, ih]
    rfl

/-- Commands go out alike exactly if they are received alike. -/
theorem map_ofCommand_eq_iff (xs ys : List Command) :
    xs.map ofCommand = ys.map ofCommand ↔ xs.map received = ys.map received := by
  have hreceived : ∀ commands : List Command,
      (commands.map received).map ofCommand = commands.map ofCommand := fun commands => by
    rw [List.map_map]
    exact List.map_congr_left fun command _ => ofCommand_received command
  constructor
  · intro h
    have hread := mapM_read?_ofCommand xs
    rw [h, mapM_read?_ofCommand] at hread
    exact (Option.some.inj hread).symm
  · intro h
    rw [← hreceived xs, h, hreceived]

theorem ofCall_execute {commands : List Command} (hne : commands ≠ []) :
    ofCall (.execute commands)
      = [word "MULTI"] :: commands.map ofCommand ++ [[word "EXEC"]] := by
  rw [ofCall, ofBatch, List.isEmpty_eq_false_iff.2 hne]
  rfl

theorem ofCall_execute_eq_iff {xs ys : List Command} (hne : ys ≠ []) :
    ofCall (.execute xs) = ofCall (.execute ys) ↔ xs.map received = ys.map received := by
  by_cases hempty : xs = []
  · have hys : ys.map received ≠ [] := by simpa using hne
    rw [hempty, ofCall_execute hne]
    exact ⟨nofun, fun h => absurd h.symm hys⟩
  · rw [ofCall_execute hempty, ofCall_execute hne, ← map_ofCommand_eq_iff]
    simp only [List.cons_append, List.cons.injEq, true_and, List.append_cancel_right_eq]

/-- A value that is sent with more than its key and payload has a time to live that a server can
    count and that is not zero. -/
theorem lifetime_of_mem_execute {commands : List Command} {key payload option amount : Bytes}
    (h : [word "SET", key, payload, option, amount] ∈ ofCall (.execute commands)) :
    option = word "PX" ∧
      ∃ n : Nat, 1 ≤ n ∧ n ≤ (2 ^ 63 - 1) / 2 ∧ amount = number n := by
  have hne : commands ≠ [] := by
    rintro rfl
    cases h
  rw [ofCall_execute hne] at h
  -- only a command has so many arguments, and only one that sets a value
  obtain ⟨command, -, hcommand⟩ : ∃ command ∈ commands,
      ofCommand command = [word "SET", key, payload, option, amount] := by simpa using h
  cases command with
  | set k p ttl =>
    simp only [ofCommand, List.cons_append, List.nil_append, List.cons.injEq, true_and] at hcommand
    obtain ⟨-, -, hlifetime⟩ := hcommand
    rw [lifetime] at hlifetime
    cases hmillis : ttl.bind millis? with
    | none => simp [hmillis] at hlifetime
    | some n =>
      simp only [hmillis, List.cons.injEq, and_true] at hlifetime
      obtain ⟨rfl, rfl⟩ := hlifetime
      obtain ⟨hlow, hhigh⟩ := bounds_of_millis? hmillis
      exact ⟨rfl, n, hlow, hhigh, rfl⟩
  | delete k => simp [ofCommand] at hcommand
  | rank k m score => simp [ofCommand] at hcommand
  | unrank k m => simp [ofCommand] at hcommand
  | unrankRange k min max => simp [ofCommand] at hcommand

/-- A batch goes out as a transaction of one request for each command in order, which read back as
    the batch, but for times to live: they come back in whole milliseconds, at least one, or not at
    all if they are too long.  Batches go out alike only if they differ in nothing else, and no time
    to live is sent that is zero or too long to be counted. -/
theorem batch_received (commands : List Command) (hne : commands ≠ []) :
    (∃ requests,
      ofCall (.execute commands) = [word "MULTI"] :: requests ++ [[word "EXEC"]] ∧
        requests.mapM read? = some (commands.map received)) ∧
    (∀ others, ofCall (.execute others) = ofCall (.execute commands) ↔
      others.map received = commands.map received) ∧
    ∀ key payload option amount,
      [word "SET", key, payload, option, amount] ∈ ofCall (.execute commands) →
        option = word "PX" ∧
          ∃ n : Nat, 1 ≤ n ∧ n ≤ (2 ^ 63 - 1) / 2 ∧ amount = number n := by
  refine ⟨⟨commands.map ofCommand, ofCall_execute hne, mapM_read?_ofCommand commands⟩, ?_, ?_⟩
  · intro others
    exact ofCall_execute_eq_iff hne
  · intro key payload option amount hsent
    exact lifetime_of_mem_execute hsent

/-- A payload that looks like an option, a member that looks like a score, a lifetime below one
    millisecond, one that rounds down and one that is too long. -/
theorem batch_received_lookalikes :
    let commands : List Command :=
      [.set "PX" (word "PX") (some ⟨999999, by decide⟩),
        .set "a" (word "0") (some ⟨2999999, by decide⟩), .set "a" [] (some Duration.max),
        .rank "ZADD" "-7" Int64.minValue, .unrankRange "7" 7 (-7)]
    commands ≠ [] ∧
      ∃ requests,
        ofCall (.execute commands) = [word "MULTI"] :: requests ++ [[word "EXEC"]] ∧
          requests.mapM read? = some
            [.set "PX" (word "PX") (some ⟨1000000, by decide⟩),
              .set "a" (word "0") (some ⟨2000000, by decide⟩), .set "a" [] none,
              .rank "ZADD" "-7" Int64.minValue, .unrankRange "7" 7 (-7)] := by
  intro commands
  have hne : commands ≠ [] := by simp [commands]
  obtain ⟨⟨requests, hsent, hread⟩, -⟩ := batch_received commands hne
  refine ⟨hne, requests, hsent, hread.trans ?_⟩
  decide

end JobResults.Wire
