import CodeAtlas.Json.Shown
import CodeAtlas.Text.Numeral
import CodeAtlas.Text.Utf8

/-! Why an operation fails. Each cause is a constructor; the words that a message
uses for it are in one place. -/

namespace CodeAtlas

inductive Failure where
  /-- A fault that comes with a text of its own. -/
  | reported (text : String)
  | unsupportedLanguage (name : String)
  | unreadableNumber (why : Text.NumeralError)
  /-- A whole number with too many digits inside JSON text. -/
  | tooManyDigits (count : Nat)
  /-- A value that is refused, with the words for it. -/
  | badValue (text : String)
  | missingKey (key : Json)
  /-- A member is asked of a value that has none of that name. -/
  | noMember (owner member : String)
  | wrongType (text : String)
  | outOfRange
  | divisionByZero
  /-- Data that does not fit the fields that it is meant for. -/
  | invalidData
  | undecodable (why : Text.Utf8.Malformed)
  /-- Half of a surrogate pair, at a place in a text, cannot be encoded. -/
  | unencodable (point place : Nat)
  | malformedJson
  /-- Something is nested too deeply to be followed. -/
  | tooDeep
  /-- Something is nested too deeply to be read. -/
  | exhausted
  /-- A fault that cannot be told. -/
  | untold
  | unmetAssumption
  | missingFile (path : String)
  | isFolder (path : String)
  | notAFolder (path : String)
  | nameTooLong (path : String)
  deriving Repr

/-- The words for bytes that are no text. -/
def undecodableText (why : Text.Utf8.Malformed) : String :=
  let stretch :=
    if why.length = 1 then
      "byte 0x" ++ String.ofList (Text.hex 2 why.byte) ++ " in position " ++ toString why.place
    else
      "bytes in position " ++ toString why.place ++ "-" ++ toString (why.place + why.length - 1)
  let reason :=
    match why.reason with
    | .start => "invalid start byte"
    | .continuation => "invalid continuation byte"
    | .unfinished => "unexpected end of data"
  "'utf-8' codec can't decode " ++ stretch ++ ": " ++ reason

/-- The words for a failure. -/
def Failure.message : Failure → String
  | .reported text => text
  | .unsupportedLanguage name => "Unsupported language: " ++ name
  | .unreadableNumber why => why.message
  | .tooManyDigits n => (Text.NumeralError.tooLong n).message
  | .badValue text => text
  | .missingKey key => key.quoted
  | .noMember owner member => "'" ++ owner ++ "' object has no attribute '" ++ member ++ "'"
  | .wrongType text => text
  | .outOfRange => "list index out of range"
  | .divisionByZero => "float division by zero"
  | .invalidData => "invalid data"
  | .undecodable why => undecodableText why
  | .unencodable point place =>
    "'utf-8' codec can't encode character " ++ Text.quotedPoints [point] ++ " in position " ++
      toString place ++ ": surrogates not allowed"
  | .malformedJson => "malformed JSON"
  | .tooDeep => "maximum recursion depth exceeded"
  | .exhausted => ""
  | .untold => "Negative size passed to PyUnicode_New"
  | .unmetAssumption => ""
  | .missingFile path => "[Errno 2] No such file or directory: " ++ Text.quoted path
  | .isFolder path => "[Errno 21] Is a directory: " ++ Text.quoted path
  | .notAFolder path => "[Errno 20] Not a directory: " ++ Text.quoted path
  | .nameTooLong path => "[Errno 36] File name too long: " ++ Text.quoted path

end CodeAtlas
