import JobResults.Data.Fields
import JobResults.Data.Finding
import JobResults.Json.Reader
import JobResults.Toml.Table

/-!
  # Values of settings

  A value in a layer of the configuration remembers which layer it came from, for the sake of
  complaints about it.  Tables that layers are merged into came from no layer.
-/

namespace JobResults.Config

/-- Where a value came from. -/
inductive Origin where
  | file (name : String)
  | environment
  deriving DecidableEq, Repr

def Origin.text : Origin → String
  | file name => name
  | environment => "the environment"

/-- A value that is no container. -/
inductive Scalar where
  | absent
  | boolean (value : Bool)
  | integer (value : Int64)
  | float (value : Binary64)
  | text (value : String)
  deriving DecidableEq, Repr

/-- A value with its origin. -/
inductive Value where
  | scalar (origin : Option Origin) (value : Scalar)
  | list (origin : Option Origin) (items : List Value)
  | table (origin : Option Origin) (fields : List (String × Value))
  deriving Repr

abbrev Fields := List (String × Value)

namespace Value

def absent : Value := .scalar none .absent

def origin : Value → Option Origin
  | scalar origin _ => origin
  | list origin _ => origin
  | table origin _ => origin

/-- The value in the words of a reader of documents. -/
def finding : Value → Data.Finding
  | scalar _ .absent => .absent
  | scalar _ (.boolean value) => .boolean value
  | scalar _ (.integer value) => .integer value.toInt
  | scalar _ (.float value) => .float value
  | scalar _ (.text value) => .text value
  | list .. => .sequence
  | table .. => .mapping

/-! ### Equality -/

mutual

def decEq : (v w : Value) → Decidable (v = w)
  | .scalar o a, .scalar o' a' => decidable_of_iff (o = o' ∧ a = a') (by simp)
  | .list o items, .list o' items' =>
    have := decEqItems items items'
    decidable_of_iff (o = o' ∧ items = items') (by simp)
  | .table o fields, .table o' fields' =>
    have := decEqFields fields fields'
    decidable_of_iff (o = o' ∧ fields = fields') (by simp)
  | .scalar .., .list .. | .scalar .., .table .. | .list .., .scalar .. | .list .., .table ..
  | .table .., .scalar .. | .table .., .list .. => .isFalse (by simp)

def decEqItems : (items others : List Value) → Decidable (items = others)
  | [], [] => .isTrue rfl
  | v :: items, w :: others =>
    have := decEq v w
    have := decEqItems items others
    decidable_of_iff (v = w ∧ items = others) (by simp)
  | [], _ :: _ | _ :: _, [] => .isFalse (by simp)

def decEqFields : (fields others : Fields) → Decidable (fields = others)
  | [], [] => .isTrue rfl
  | (name, v) :: fields, (other, w) :: others =>
    have := decEq v w
    have := decEqFields fields others
    decidable_of_iff ((name = other ∧ v = w) ∧ fields = others) (by simp)
  | [], _ :: _ | _ :: _, [] => .isFalse (by simp)

end

instance : DecidableEq Value := decEq

/-! ### Out of documents -/

mutual

def ofToml (origin : Option Origin) : Toml.Value → Value
  | .boolean b => .scalar origin (.boolean b)
  | .number (.integer n) => .scalar origin (.integer n)
  | .number (.float x) => .scalar origin (.float x)
  | .text s => .scalar origin (.text s)
  | .moment m => .scalar origin (.text m.text)
  | .array items => .list origin (listOfToml origin items)
  | .tables items => .list origin (listOfToml origin items)
  | .table _ fields => .table origin (fieldsOfToml origin fields)

def listOfToml (origin : Option Origin) : List Toml.Value → List Value
  | [] => []
  | v :: rest => ofToml origin v :: listOfToml origin rest

def fieldsOfToml (origin : Option Origin) : List (String × Toml.Value) → Fields
  | [] => []
  | (name, v) :: rest => (name, ofToml origin v) :: fieldsOfToml origin rest

end

/-- A number of a JSON text.  An integer that is no signed word becomes a float. -/
def ofNumber (origin : Option Origin) : Json.Number → Value
  | .integer n =>
    if -2 ^ 63 ≤ n ∧ n < 2 ^ 63 then .scalar origin (.integer (Int64.ofInt n))
    else .scalar origin (.float (Binary64.ofRatio (n < 0) n.natAbs 1))
  | .float x => .scalar origin (.float x)

mutual

def ofJson (origin : Option Origin) : Json.Value → Value
  | .null => .scalar origin .absent
  | .boolean b => .scalar origin (.boolean b)
  | .number n => ofNumber origin n
  | .text s => .scalar origin (.text s)
  | .array items => .list origin (listOfJson origin items)
  | .object members => .table origin (fieldsOfJson origin [] members)

def listOfJson (origin : Option Origin) : List Json.Value → List Value
  | [] => []
  | v :: rest => ofJson origin v :: listOfJson origin rest

/-- The fields of an object, added to those before them.  The last of two members with one name
    counts. -/
def fieldsOfJson (origin : Option Origin) (fields : Fields) :
    List (String × Json.Value) → Fields
  | [] => fields
  | (name, v) :: rest => fieldsOfJson origin (Data.assign name (ofJson origin v) fields) rest

end

end Value

end JobResults.Config
