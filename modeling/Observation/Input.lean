/-!
# Input files

* `FileError` - why a file cannot be read.
* `rawLines`, `chomp` - cutting a text into lines.
* `InputLines` - the lines of a file up to the first that is no text.
* `Folder` - named files side by side, and what a relative path leads to.
-/

namespace Observation

/-- Why a file cannot be read. -/
inductive FileError where
  | notFound
  | notADirectory
  | isADirectory
  | notText
  | other (reason : String)
  deriving DecidableEq, Repr

/-- The error in the words of the operating system. -/
def FileError.message : FileError → String
  | notFound => "No such file or directory (os error 2)"
  | notADirectory => "Not a directory (os error 20)"
  | isADirectory => "Is a directory (os error 21)"
  | notText => "stream did not contain valid UTF-8"
  | other reason => reason

/-- What a file holds, or why it cannot be read. -/
abbrev FileContent : Type := Except FileError ByteArray

/-- The text of a file. -/
def FileContent.text (content : FileContent) : Except FileError String := do
  match String.fromUTF8? (← content) with
  | some s => return s
  | none => throw .notText

/-! ## Lines -/

section Lines

variable {α : Type} [DecidableEq α]

/-- Cuts a sequence after every `newline`; what follows the last one is a line if there is
anything. -/
def rawLines (newline : α) (cs : List α) : List (List α) :=
  cs.foldr (fun c lines =>
    if c = newline then [c] :: lines
    else
      match lines with
      | [] => [[c]]
      | line :: lines => (c :: line) :: lines) []

/-- Drops the end of a line, and one `carriage` before it. -/
def chomp (newline carriage : α) (line : List α) : List α :=
  if line.getLast? = some newline then
    let line := line.dropLast
    if line.getLast? = some carriage then line.dropLast else line
  else line

end Lines

/-- The lines of a text. -/
def linesOf (s : String) : List String :=
  (rawLines '\n' s.toList).map fun line => String.ofList (chomp '\n' '\r' line)

/-- Lines that can be read one after the other, and why no further one can, if so. -/
structure InputLines where
  lines : List String
  fault : Option FileError := none
  deriving DecidableEq, Repr

namespace InputLines

/-- The lines of a text; all of them can be read. -/
def ofText (s : String) : InputLines :=
  { lines := linesOf s }

/-- The lines of a file before the first one that is no text. -/
def ofBytes (bytes : ByteArray) : InputLines :=
  match String.fromUTF8? bytes with
  | some s => ofText s
  | none =>
    let texts := (rawLines 0x0a bytes.toList).map fun line =>
      String.fromUTF8? ⟨(chomp 0x0a 0x0d line).toArray⟩
    { lines := (texts.takeWhile Option.isSome).filterMap id, fault := some .notText }

end InputLines

/-! ## Folders -/

/-- Named files side by side. -/
structure Folder where
  files : List (String × ByteArray) := []

namespace Folder

/-- Follows the parts of a path that starts in the folder. -/
def follow (folder : Folder) : List String → FileContent
  | [] => .error .isADirectory
  | part :: rest =>
    if part = "" ∨ part = "." then folder.follow rest
    else if part = ".." then
      if rest.all fun p => p = "" ∨ p = "." ∨ p = ".." then .error .isADirectory
      else .error .notFound
    else
      match folder.files.find? fun f => f.1 == part with
      | some file => if rest = [] then .ok file.2 else .error .notADirectory
      | none => .error .notFound

/-- What a path leads to.  Nothing is known outside the folder but the root. -/
def read (folder : Folder) (path : String) : FileContent :=
  match path.toList with
  | [] => .error .notFound
  | '/' :: rest =>
    if rest.all (· = '/') then .error .isADirectory else .error .notFound
  | _ => folder.follow (path.splitOn "/")

end Folder

end Observation
