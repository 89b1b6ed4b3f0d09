import Observation.Name

/-!
# What can be wrong with a path

* `PathError` - the errors of building, reading, resolving and comparing paths.
* `SyntaxFault`, `ElementFault` - the causes behind "cannot parse" and "invalid elements".
* `PathError.message`, `PathError.detail` - the error as a sentence and with its parts.
* `PathError.subject` - the text of the path the error is about.
-/

namespace Observation

/-- Why a text is no path, names apart. -/
inductive SyntaxFault where
  | emptyPath
  | emptySegment
  | unterminatedUri
  | unbalancedIndex (segment : String)
  | invalidIndex (segment : String)
  deriving DecidableEq, Repr

/-- The cause in words. -/
def SyntaxFault.message : SyntaxFault → String
  | emptyPath => "empty path"
  | emptySegment => "empty path segment"
  | unterminatedUri => "unterminated namespace URI"
  | unbalancedIndex segment => "unbalanced index in '" ++ segment ++ "'"
  | invalidIndex segment => "invalid index in '" ++ segment ++ "'"

/-- Why a list of elements is no path. -/
inductive ElementFault where
  | noElement
  | rootAt (position : Nat)
  | zeroIndex
  deriving DecidableEq, Repr

/-- The cause in words. -/
def ElementFault.message : ElementFault → String
  | noElement => "a path needs at least one element"
  | rootAt position => "root element at position " ++ toString position
  | zeroIndex => "same-name-sibling indexes start at 1"

/-- Errors about paths; texts in them are texts of paths, names or segments. -/
inductive PathError where
  | notAbsolute (path : String)
  | notNormalized (path : String)
  | ancestorOutOfRange (path : String) (degree depth : Nat)
  | escapesRoot (path : String)
  | unreadable (input reason : String)
  | invalidElements (reason : String)
  | name (error : NameError)
  deriving DecidableEq, Repr

namespace PathError

/-- The error for a text with a fault in its syntax. -/
def ofSyntax (input : String) (fault : SyntaxFault) : PathError :=
  unreadable input fault.message

/-- The error for a list of elements with a fault. -/
def ofElements (fault : ElementFault) : PathError :=
  invalidElements fault.message

/-- The error as a sentence. -/
def message : PathError → String
  | notAbsolute path => "path is not absolute: " ++ path
  | notNormalized path => "path is not normalized: " ++ path
  | ancestorOutOfRange path degree depth =>
    "ancestor of degree " ++ toString degree ++ " does not exist for " ++ path
      ++ " (depth " ++ toString depth ++ ")"
  | escapesRoot path => "'..' escapes the root in " ++ path
  | unreadable input reason => "cannot parse path '" ++ input ++ "': " ++ reason
  | invalidElements reason => "invalid path elements: " ++ reason
  | name error => "invalid name in path: " ++ error.message

/-- The error with its parts spelled out. -/
def detail : PathError → String
  | notAbsolute path => Text.record "NotAbsolute" [("path", Text.quote path)]
  | notNormalized path => Text.record "NotNormalized" [("path", Text.quote path)]
  | ancestorOutOfRange path degree depth =>
    Text.record "AncestorOutOfRange"
      [("path", Text.quote path), ("degree", toString degree), ("depth", toString depth)]
  | escapesRoot path => Text.record "EscapesRoot" [("path", Text.quote path)]
  | unreadable input reason =>
    Text.record "Parse" [("input", Text.quote input), ("reason", Text.quote reason)]
  | invalidElements reason => Text.record "InvalidElements" [("reason", Text.quote reason)]
  | name error => Text.wrapped "Name" error.detail

/-- The text of the path at fault, where the error holds one. -/
def subject : PathError → Option String
  | notAbsolute path => some path
  | notNormalized path => some path
  | ancestorOutOfRange path _ _ => some path
  | escapesRoot path => some path
  | unreadable input _ => some input
  | invalidElements _ => none
  | name _ => none

end PathError

end Observation
