import JobResults.Config.EnvironmentFile
import JobResults.Files
import JobResults.Text.Repaired
import JobResults.Toml.Document

/-!
  # The file as a layer

  The extension of a file's name tells how it is read.  A file with another extension is passed
  over, and for a directory the file beside it counts whose name has an extension more.
-/

namespace JobResults.Config

/-- How a file is written. -/
inductive Format where
  | toml
  | json
  deriving DecidableEq, Repr

namespace Format

def extension : Format → String
  | toml => "toml"
  | json => "json"

def all : List Format := [toml, json]

def ofExtension? (extension : String) : Option Format :=
  all.find? fun f => f.extension == extension

def parse? (f : Format) (origin : Option Origin) (s : List Char) : Option Fields :=
  match f with
  | toml => (Toml.document s).map (Value.fieldsOfToml origin)
  | json =>
    match Json.document s with
    | some (.object members) => some (Value.fieldsOfJson origin [] members)
    | _ => none

end Format

/-- What follows the last dot of a name, unless that is its first character. -/
def extension? (name : String) : Option String :=
  let chars := name.toList
  let last := chars.reverse.takeWhile (· != '.')
  if last.length + 1 < chars.length then some (String.ofList last.reverse) else none

/-- A file that is read. -/
structure Source where
  name : String
  format : Format
  content : Bytes
  deriving DecidableEq, Repr

/-- The name of a directory with the extension of a format more. -/
def besideName (path : String) (format : Format) : String :=
  plainPath path ++ "." ++ format.extension

/-- The file with the extension of a format more than a directory. -/
def besides? (files : Files) (path : String) (format : Format) : Option Source :=
  let name := besideName path format
  (files.read? name).map fun content => ⟨name, format, content⟩

def Source.find? (files : Files) (path : String) : Option Source :=
  let last := (stepsOf path).getLast?
  match files.find? path, last with
  | some (.file content), some last =>
    ((extension? last).bind Format.ofExtension?).map fun format =>
      ⟨plainPath path, format, content⟩
  | some .directory, some last =>
    if last = ".." then none else Format.all.findSome? (besides? files path)
  | _, _ => none

def Source.fields? (s : Source) : Option Fields :=
  s.format.parse? (some (.file s.name)) (Text.repaired (withoutMark s.content)).toList

end JobResults.Config
