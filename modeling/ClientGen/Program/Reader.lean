import ClientGen.Document.Reader
import ClientGen.Program.Decode

/-!
# Reading programs

A program is read out of a document, which is an object with an array as its body.
-/

namespace ClientGen.Program

/-- Why a document gives no program. -/
inductive Error where
  | document (error : Document.Error)
  | notObject
  | noBody
  | bodyNotArray
  | wrongForm (error : DecodeError)

/-- The wording of an error about the form of a program. -/
def invalid (reason : String) : String :=
  "Invalid program: " ++ reason

/-- The wording of an error. -/
def Error.message : Error → String
  | .document error => error.message
  | .notObject => invalid "expected an object at the top level"
  | .noBody => invalid "missing required field \"body\""
  | .bodyNotArray => invalid "\"body\" must be an array"
  | .wrongForm error => invalid error.message

/-- The program that a value writes. -/
def ofValue (v : Value) : Except Error Program :=
  match v with
  | .object fields =>
    match fields.lookup "body" with
    | none => .error .noBody
    | some body =>
      if body.isArray then
        ((v.toRecord .direct "struct Program"
          ["originalLanguage", "sourceType", "body"]).bind ofRecord).mapError .wrongForm
      else
        .error .bodyNotArray
  | _ => .error .notObject

/-- The program that a document writes; the ending of the path tells its notation. -/
def parse (text : String) (path : Option String) (readers : Document.Readers := {}) :
    Except Error Program :=
  match Document.parse text path readers with
  | .ok v => ofValue v
  | .error error => .error (.document error)

end ClientGen.Program
