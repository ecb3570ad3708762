import Scrip.Http.Credentials

/-!
# Media types

Whether the `Content-Type` of a request says that its body is JSON.

* `isJson`: the type `application` with the subtype `json`, or with the suffix `json` after a plus
  sign. Parameters may follow, but they have to be well formed.
-/

namespace Scrip.Http

/-- The characters of tokens besides letters and digits. -/
def tokenMarks : List Char :=
  "!#$%&'*+-.^_`|~".toList

/-- Whether a character may stand in a token. -/
def isToken (c : Char) : Bool :=
  c.isAlphanum || tokenMarks.contains c

/-- Whether a character may stand in a header that is read as text. -/
def isVisible (c : Char) : Bool :=
  c == '\t' || (' ' ≤ c && c ≤ '~')

/-- The text after the closing quote of a quoted value. A backslash takes the next character with
it. A tab must not stand there. -/
def afterQuoted : List Char → Option (List Char)
  | [] => none
  | '"' :: cs => some cs
  | ['\\'] => none
  | '\\' :: c :: cs => if c = '\t' then none else afterQuoted cs
  | c :: cs => if c = '\t' then none else afterQuoted cs

/-- The text after a quoted value whose opening quote was passed. The first character belongs to the
value even if it is a quote, so that no quoted value is empty. -/
def afterValue : List Char → Option (List Char)
  | '"' :: cs | cs => afterQuoted cs

/-- Whether a text is a list of parameters: each a name, an equals sign and a value, which may be
quoted. Semicolons stand between them, and nothing needs to follow the last one. -/
def areParameters : (fuel : Nat) → List Char → Bool
  | 0, _ => false
  | fuel + 1, cs =>
    let cs := cs.dropWhile (· == ' ')
    let name := cs.takeWhile isToken
    match cs.dropWhile isToken with
    | [] => name.isEmpty
    | '=' :: value =>
      !name.isEmpty && match value with
        | '"' :: quoted =>
          match afterValue quoted with
          | none => false
          | some rest =>
            match rest.dropWhile (· == ' ') with
            | [] => true
            | ';' :: rest => areParameters fuel rest
            | _ => false
        | value =>
          match value.dropWhile isToken with
          | [] => true
          | ';' :: rest => !(value.takeWhile isToken).isEmpty && areParameters fuel rest
          | _ => false
    | _ => false

/-- Where the suffix of a subtype begins: at the last plus sign that is not its first
character. -/
def splitSuffix (subtype : List Char) : List Char × Option (List Char) :=
  match subtype with
  | [] => ([], none)
  | first :: rest =>
    match rest.reverse.dropWhile (· != '+') with
    | [] => (subtype, none)
    | _ :: before => (first :: before.reverse, some (rest.drop (before.length + 1)))

/-- Whether a content type says that the body is JSON. -/
def isJson (contentType : List UInt8) : Bool :=
  let cs := (charsOf contentType).map Char.toLower
  let kind := cs.takeWhile isToken
  match cs.dropWhile isToken with
  | '/' :: rest =>
    let subtype := rest.takeWhile isToken
    let (base, suffix) := splitSuffix subtype
    let isWellFormed := match rest.dropWhile isToken with
      | [] => true
      | ';' :: parameters => areParameters (parameters.length + 1) parameters
      | _ => false
    cs.all isVisible && kind == "application".toList &&
      (base == "json".toList || suffix == some "json".toList) && isWellFormed
  | _ => false

end Scrip.Http
