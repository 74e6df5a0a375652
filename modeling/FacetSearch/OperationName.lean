import FacetSearch.Failure
import FacetSearch.Text.Blank
import FacetSearch.Text.Word

/-!
# `FacetSearch.OperationName`: the name of an operation in a document

The name is the first run of word characters that follows one of the three operation keywords and at
least one blank, wherever in the document this occurs first.
-/

set_option autoImplicit false

namespace FacetSearch.OperationName

/-- The keywords that open an operation, in the order in which they are tried. -/
def keywords : List String := ["query", "mutation", "subscription"]

/-- What follows a word at the start of a text, with no regard to what stands before or behind the
word. -/
def after? : List Char → List CodePoint → Option (List CodePoint)
  | [], text => some text
  | _ :: _, [] => none
  | w :: word, point :: text => if point = .char w then after? word text else none

/-- The word characters that follow at least one blank, as many as there are. What follows them
makes no difference. -/
def nameAfterBlanks? (text : List CodePoint) : Option (List CodePoint) :=
  let name := (text.dropWhile CodePoint.isBlank).takeWhile CodePoint.isWord
  if (text.takeWhile CodePoint.isBlank).isEmpty || name.isEmpty then none else some name

/-- The name of an operation whose keyword starts the text. The keyword may be the end of a longer
word of the document. -/
def nameHere? (text : List CodePoint) : Option (List CodePoint) :=
  keywords.findSome? fun keyword => (after? keyword.toList text).bind nameAfterBlanks?

/-- The first name anywhere in the text. The search is anchored to nothing, so a keyword inside of a
selection set is found as well. -/
def find? : List CodePoint → Option (List CodePoint)
  | [] => none
  | point :: rest =>
      match nameHere? (point :: rest) with
      | some name => some name
      | none => find? rest

/-- The name of the operation in a document, if the search finds one. -/
def ofText? (document : Text) : Option Text := (find? document.toList).map Text.ofList

/-- The name of the operation in a value that should be a document. What counts as false is the
empty document; anything else that is no text is refused. -/
def ofValue? (document : Value) : Except Failure (Option Text) :=
  match document.text? with
  | some text => .ok (ofText? text)
  | none => if document.isTruthy then .error .unsupported else .ok none

end FacetSearch.OperationName
