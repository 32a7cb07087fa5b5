import JobResults.StoreError
import JobResults.Wire.Reply
import JobResults.Wire.Request

/-!
  # Calls on a remote store

  A call sends its requests and reads one reply for each.  It fails if the replies are malformed,
  if there is a refusal anywhere in them, or if they do not answer what was asked.  A transaction
  that the server gave up answers nothing to `EXEC`, which is no failure.
-/

namespace JobResults.Wire

/-- What the reply to `EXEC` says of a batch. -/
def executed? : Reply → Option StoreAnswer
  | .nil => some .done
  | .array _ => some .done
  | _ => none

/-- The answer to a call, out of the replies to its requests. -/
def answer? (call : StoreCall) (replies : List Reply) : Option StoreAnswer :=
  if Reply.anyRefuses replies then none
  else
    match call, replies with
    | .get _, [reply] => reply.payload?.map .payload
    | .range .., [reply] => reply.texts?.map .members
    | .ping, [reply] => reply.text?.map fun _ => .done
    | .execute commands, replies =>
      if commands.isEmpty then some .done else replies.getLast?.bind executed?
    | .evict, [] => some (.evicted 0)
    | .close, [] => some .done
    | _, _ => none

/-- The answer to a call, out of what the server sends. -/
def answer (call : StoreCall) (input : Bytes) : Except StoreError StoreAnswer :=
  match (Reply.readMany (ofCall call).length input).bind (answer? call) with
  | some answer => .ok answer
  | none => .error .remote

end JobResults.Wire
