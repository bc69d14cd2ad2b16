/-
What can be wrong with a document.

* `Yaml.Problem`: the faults of its text; `Yaml.Problem.message` is their
  wording;
* `Yaml.Mismatch`: a part that is not of the wanted kind;
* `Yaml.Error`: why a document has no value.
-/
import RegisterMachine.Text.Quoted

namespace RegisterMachine.Yaml

/-- A fault in the text of a document. -/
inductive Problem where
  -- Characters.
  | controlCharacter
  | leadingOctet
  | trailingOctet
  | incompleteSequence
  | sequenceLength
  | invalidCharacter
  | incompleteUnit
  | incompletePair
  | unexpectedLowSurrogate
  | expectedLowSurrogate
  -- Tokens.
  | noToken
  | missingColon
  | valueNotAllowed
  | keyNotAllowed
  | entryNotAllowed
  | tooDeep
  | anchorName
  | closingAngle
  | afterTag
  | tagText
  | tagMark
  | escapedOctet
  | escapedLeadingOctet
  | escapedTrailingOctet
  | directiveName
  | missingDirectiveName
  | directiveCharacter
  | versionNumber
  | longVersionNumber
  | versionPoint
  | whiteSpace
  | lineEnd
  | zeroIndentation
  | tabForIndentation
  | tabInPlainText
  | documentMarkInQuotes
  | unclosedQuotes
  | unknownEscape
  | hexadecimalDigit
  | escapedCharacter
  -- Structure.
  | documentStart
  | repeatedVersion
  | incompatibleVersion
  | repeatedTagHandle
  | undefinedTagHandle
  | nodeContent
  | sequenceEntry
  | mappingKey
  | sequenceSeparator
  | mappingSeparator
deriving DecidableEq, Repr

/-- The wording of a fault. -/
def Problem.message : Problem → Bytes
  | .controlCharacter => utf8 "control characters are not allowed"
  | .leadingOctet => utf8 "invalid leading UTF-8 octet"
  | .trailingOctet => utf8 "invalid trailing UTF-8 octet"
  | .incompleteSequence => utf8 "incomplete UTF-8 octet sequence"
  | .sequenceLength => utf8 "invalid length of a UTF-8 sequence"
  | .invalidCharacter => utf8 "invalid Unicode character"
  | .incompleteUnit => utf8 "incomplete UTF-16 character"
  | .incompletePair => utf8 "incomplete UTF-16 surrogate pair"
  | .unexpectedLowSurrogate => utf8 "unexpected low surrogate area"
  | .expectedLowSurrogate => utf8 "expected low surrogate area"
  | .noToken => utf8 "found character that cannot start any token"
  | .missingColon => utf8 "could not find expected ':'"
  | .valueNotAllowed => utf8 "mapping values are not allowed in this context"
  | .keyNotAllowed => utf8 "mapping keys are not allowed in this context"
  | .entryNotAllowed => utf8 "block sequence entries are not allowed in this context"
  | .tooDeep => utf8 "exceeded max depth of 10000"
  | .anchorName => utf8 "did not find expected alphabetic or numeric character"
  | .closingAngle => utf8 "did not find the expected '>'"
  | .afterTag => utf8 "did not find expected whitespace or line break"
  | .tagText => utf8 "did not find expected tag URI"
  | .tagMark => utf8 "did not find expected '!'"
  | .escapedOctet => utf8 "did not find URI escaped octet"
  | .escapedLeadingOctet => utf8 "found an incorrect leading UTF-8 octet"
  | .escapedTrailingOctet => utf8 "found an incorrect trailing UTF-8 octet"
  | .directiveName => utf8 "found unknown directive name"
  | .missingDirectiveName => utf8 "could not find expected directive name"
  | .directiveCharacter => utf8 "found unexpected non-alphabetical character"
  | .versionNumber => utf8 "did not find expected version number"
  | .longVersionNumber => utf8 "found extremely long version number"
  | .versionPoint => utf8 "did not find expected digit or '.' character"
  | .whiteSpace => utf8 "did not find expected whitespace"
  | .lineEnd => utf8 "did not find expected comment or line break"
  | .zeroIndentation => utf8 "found an indentation indicator equal to 0"
  | .tabForIndentation => utf8 "found a tab character where an indentation space is expected"
  | .tabInPlainText => utf8 "found a tab character that violates indentation"
  | .documentMarkInQuotes => utf8 "found unexpected document indicator"
  | .unclosedQuotes => utf8 "found unexpected end of stream"
  | .unknownEscape => utf8 "found unknown escape character"
  | .hexadecimalDigit => utf8 "did not find expected hexdecimal number"
  | .escapedCharacter => utf8 "found invalid Unicode character escape code"
  | .documentStart => utf8 "did not find expected <document start>"
  | .repeatedVersion => utf8 "found duplicate %YAML directive"
  | .incompatibleVersion => utf8 "found incompatible YAML document"
  | .repeatedTagHandle => utf8 "found duplicate %TAG directive"
  | .undefinedTagHandle => utf8 "found undefined tag handle"
  | .nodeContent => utf8 "did not find expected node content"
  | .sequenceEntry => utf8 "did not find expected '-' indicator"
  | .mappingKey => utf8 "did not find expected key"
  | .sequenceSeparator => utf8 "did not find expected ',' or ']'"
  | .mappingSeparator => utf8 "did not find expected ',' or '\x7d'"

/-- A fault and the line it is reported on, where one is told. -/
structure SyntaxError where
  line : Option Nat
  problem : Problem
deriving DecidableEq, Repr

/-- The wording of a fault with its line. -/
def SyntaxError.message (e : SyntaxError) : Bytes :=
  match e.line with
  | none => e.problem.message
  | some n => utf8 "line " ++ decimal n ++ utf8 ": " ++ e.problem.message

/-- A part of a document that is not of the wanted kind. -/
inductive Mismatch where
  /-- The key on `line` stands on the line `first` already. -/
  | repeatedKey (line : Nat) (key : Bytes) (first : Nat)
  /-- The node on `line`, with its text if it is a scalar, is not `wanted`. -/
  | kind (line : Nat) (tag : Bytes) (text : Option Bytes) (wanted : Bytes)
deriving DecidableEq, Repr

/-- The start of a text in backquotes, cut when the text is long. -/
def excerpt (s : Bytes) : Bytes :=
  utf8 " `" ++ (if 10 < s.length then s.take 7 ++ utf8 "..." else s) ++ utf8 "`"

/-- The wording of a mismatch. -/
def Mismatch.message : Mismatch → Bytes
  | .repeatedKey line key first =>
    utf8 "line " ++ decimal line ++ utf8 ": mapping key " ++ Quoted.double key
      ++ utf8 " already defined at line " ++ decimal first
  | .kind line tag text wanted =>
    utf8 "line " ++ decimal line ++ utf8 ": cannot unmarshal " ++ tag
      ++ (text.map excerpt).getD [] ++ utf8 " into " ++ wanted

/-- What is wrong with a document. -/
inductive Error where
  | malformed (e : SyntaxError)
  | unknownAnchor (name : Bytes)
  | selfReference (name : Bytes)
  /-- The text with the tag `found` is not a value with the tag `wanted`. -/
  | wrongTag (found text wanted : Bytes)
  | invalidLetters
  | mergeKind
  | invalidKey (key : Bytes)
  | tooManyAliases
  | mismatches (ms : List Mismatch)
deriving DecidableEq, Repr

/-- The wording of an error. -/
def Error.message (e : Error) : Bytes :=
  utf8 "yaml: " ++ match e with
    | .malformed e => e.message
    | .unknownAnchor name => utf8 "unknown anchor '" ++ name ++ utf8 "' referenced"
    | .selfReference name => utf8 "anchor '" ++ name ++ utf8 "' value contains itself"
    | .wrongTag found text wanted =>
      utf8 "cannot decode " ++ found ++ utf8 " `" ++ text ++ utf8 "` as a " ++ wanted
    | .invalidLetters => utf8 "!!binary value contains invalid base64 data"
    | .mergeKind => utf8 "map merge requires map or sequence of maps as the value"
    | .invalidKey key => utf8 "invalid map key: " ++ key
    | .tooManyAliases => utf8 "document contains excessive aliasing"
    | .mismatches ms =>
      utf8 "unmarshal errors:\n  " ++ Bytes.joined (utf8 "\n  ") (ms.map Mismatch.message)

end RegisterMachine.Yaml
