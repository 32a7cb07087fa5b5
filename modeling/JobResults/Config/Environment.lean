import JobResults.Config.KeyPath
import JobResults.Text.LowerCase

/-!
  # The environment as a layer

  A variable `RESULTBOX__SECTION__NAME`, in any case, sets `section.name`.  Its text is read as a
  truth value, an integer or a float if it is one; the list of addresses is parted at commas.
-/

namespace JobResults.Config

abbrev Environment := List (String × String)

/-- The start of the names of variables that are settings. -/
def marker : List Char := "resultbox__".toList

def listSetting : String := "store.addrs"

/-- A name with every pair of underscores turned into a dot. -/
def dotted : List Char → List Char
  | '_' :: '_' :: rest => '.' :: dotted rest
  | c :: rest => c :: dotted rest
  | [] => []

/-- The setting that a variable sets, if its name starts with the marker. -/
def settingOf? (name : String) : Option String :=
  let name := Text.lower name.toList
  if marker.isPrefixOf name then some (String.ofList (dotted (name.drop marker.length))) else none

/-- The value that a text stands for, where no list is expected. -/
def scalarOf (s : String) : Scalar :=
  let word := String.ofList (Text.lower s.toList)
  if word = "true" then .boolean true
  else if word = "false" then .boolean false
  else
    match Text.signed64? s.toList, Binary64.parse? s.toList with
    | some n, _ => .integer n
    | none, some x => .float x
    | none, none => .text s

def commaList (s : String) : List Value :=
  (s.toList.splitOn ',').map fun item =>
    .scalar (some .environment) (.text (String.ofList item))

/-- The value that a text stands for in a setting. -/
def valueOf (setting s : String) : Value :=
  match scalarOf s with
  | .text s =>
    if setting = listSetting then .list (some .environment) (commaList s)
    else .scalar (some .environment) (.text s)
  | value => .scalar (some .environment) value

def environmentLayer (env : Environment) : Fields :=
  env.filterMap fun (name, s) =>
    (settingOf? name).map fun setting => (setting, valueOf setting s)

/-- The password of the remote server: the first of two variables that is set. -/
def password (env : Environment) : Option String :=
  (env.lookup "RESULTBOX_REDIS_PASSWORD").or (env.lookup "REDIS_PASSWORD")

end JobResults.Config
