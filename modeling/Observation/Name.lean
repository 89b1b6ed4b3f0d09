import Observation.Text.Quoted

/-!
# Qualified names

A qualified name is a namespace URI and a local name.  Its text is the local name alone in the
default namespace, and the URI between braces before the local name otherwise.

* `QualifiedName` - the validated pair; no other value of the type exists.
* `QualifiedName.make`, `QualifiedName.parse` - the two ways to obtain one.
* `QualifiedName.text` - the text that `parse` reads back.
* `NameError` - why a pair or a text is no name.
* Names are ordered by namespace URI, then by local name.
-/

namespace Observation

/-- Why a pair of texts, or one text, is not a qualified name. -/
inductive NameError where
  | emptyLocalName (input : String)
  | illegalCharacter (input : String) (character : Char)
  | reservedLocalName (input : String)
  | illegalNamespaceCharacter (uri : String) (character : Char)
  | unterminatedNamespace (input : String)
  deriving DecidableEq, Repr

namespace NameError

/-- The error as a sentence. -/
def message : NameError → String
  | emptyLocalName input => "empty local name in '" ++ input ++ "'"
  | illegalCharacter input c =>
    "illegal character '" ++ c.toString ++ "' in local name '" ++ input ++ "'"
  | reservedLocalName input => "'" ++ input ++ "' is a path step, not a local name"
  | illegalNamespaceCharacter uri c =>
    "illegal character '" ++ c.toString ++ "' in namespace URI '" ++ uri ++ "'"
  | unterminatedNamespace input => "unterminated namespace URI in '" ++ input ++ "'"

/-- The error with its parts spelled out. -/
def detail : NameError → String
  | emptyLocalName input => Text.record "EmptyLocalName" [("input", Text.quote input)]
  | illegalCharacter input c =>
    Text.record "IllegalCharacter" [("input", Text.quote input), ("ch", Text.quoteChar c)]
  | reservedLocalName input => Text.record "ReservedLocalName" [("input", Text.quote input)]
  | illegalNamespaceCharacter uri c =>
    Text.record "IllegalNamespaceCharacter" [("uri", Text.quote uri), ("ch", Text.quoteChar c)]
  | unterminatedNamespace input =>
    Text.record "UnterminatedNamespace" [("input", Text.quote input)]

end NameError

/-- Whether a character is a brace; braces delimit the namespace URI in the text of a name. -/
def isBrace (c : Char) : Bool :=
  c == '{' || c == '}'

/-- The characters that have a meaning of their own in names and paths. -/
def reservedCharacters : List Char :=
  ['/', ':', '[', ']', '*', '|', '{', '}']

/-- Whether a character may not stand in a local name. -/
def isReserved (c : Char) : Bool :=
  reservedCharacters.contains c

/-- A namespace URI is any text without braces. -/
def ValidNamespaceUri (uri : String) : Prop :=
  ∀ c ∈ uri.toList, isBrace c = false

theorem validNamespaceUri_empty : ValidNamespaceUri "" :=
  fun _ h => nomatch h

/-- A local name is not empty, is no path step and holds no reserved character. -/
structure ValidLocalName (localName : String) : Prop where
  ne_empty : localName ≠ ""
  ne_here : localName ≠ "."
  ne_up : localName ≠ ".."
  unreserved : ∀ c ∈ localName.toList, isReserved c = false

/-- A namespace URI and a local name, both valid. -/
structure QualifiedName where
  namespaceUri : String
  localName : String
  validUri : ValidNamespaceUri namespaceUri
  validLocal : ValidLocalName localName
  deriving DecidableEq

namespace QualifiedName

/-- Checks the URI, then the local name; errors about the local name quote `input`. -/
def check (uri localName input : String) : Except NameError QualifiedName :=
  match hu : uri.toList.find? isBrace with
  | some c => .error (.illegalNamespaceCharacter uri c)
  | none =>
    if he : localName = "" then .error (.emptyLocalName input)
    else if hs : localName = "." ∨ localName = ".." then .error (.reservedLocalName input)
    else
      match hl : localName.toList.find? isReserved with
      | some c => .error (.illegalCharacter input c)
      | none =>
        .ok ⟨uri, localName, by simpa [ValidNamespaceUri] using hu,
          ⟨he, fun h => hs (.inl h), fun h => hs (.inr h), by simpa using hl⟩⟩

/-- The name with a namespace URI and a local name. -/
def make (uri localName : String) : Except NameError QualifiedName :=
  check uri localName localName

/-- Reads a local name, with a namespace URI in braces before it or without one. -/
def parse (s : String) : Except NameError QualifiedName :=
  match s.toList with
  | '{' :: rest =>
    match rest.dropWhile (· != '}') with
    | _ :: localName =>
      check (String.ofList (rest.takeWhile (· != '}'))) (String.ofList localName) s
    | [] => .error (.unterminatedNamespace s)
  | _ => check "" s s

/-- The characters of the text of a name. -/
def chars (n : QualifiedName) : List Char :=
  if n.namespaceUri = "" then n.localName.toList
  else '{' :: n.namespaceUri.toList ++ '}' :: n.localName.toList

/-- The text of a name. -/
def text (n : QualifiedName) : String :=
  String.ofList n.chars

instance : ToString QualifiedName := ⟨text⟩

instance : Repr QualifiedName := ⟨fun n _ => repr n.text⟩

theorem ext_parts {m n : QualifiedName} (hu : m.namespaceUri = n.namespaceUri)
    (hl : m.localName = n.localName) : m = n := by
  cases m; cases n; cases hu; cases hl; rfl

/-- Names go by namespace URI, then by local name. -/
instance : Ord QualifiedName :=
  ⟨compareLex (compareOn namespaceUri) (compareOn localName)⟩

theorem compare_def (m n : QualifiedName) :
    compare m n
      = (compare m.namespaceUri n.namespaceUri).then (compare m.localName n.localName) := rfl

instance : Std.TransOrd QualifiedName :=
  inferInstanceAs (Std.TransCmp (compareLex (compareOn namespaceUri) (compareOn localName)))

instance : Std.LawfulEqOrd QualifiedName where
  eq_of_compare h := by
    rw [compare_def, Ordering.then_eq_eq] at h
    exact ext_parts (Std.LawfulEqOrd.eq_of_compare h.1) (Std.LawfulEqOrd.eq_of_compare h.2)

end QualifiedName

namespace Namespace

/-- The default namespace. -/
def default : String := ""

/-- The namespace of the repository's own items. -/
def jcr : String := "http://www.jcp.org/jcr/1.0"

/-- The namespace of primary node types. -/
def nt : String := "http://www.jcp.org/jcr/nt/1.0"

/-- The namespace of mixin node types. -/
def mix : String := "http://www.jcp.org/jcr/mix/1.0"

end Namespace

/-- The name of a predefined primary node type. -/
def QualifiedName.nt (localName : String) : Except NameError QualifiedName :=
  make Namespace.nt localName

/-- The name of a predefined mixin node type. -/
def QualifiedName.mix (localName : String) : Except NameError QualifiedName :=
  make Namespace.mix localName

end Observation
