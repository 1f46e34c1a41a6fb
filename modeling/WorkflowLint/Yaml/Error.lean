import WorkflowLint.Text.Quoted
import WorkflowLint.Yaml.Mark
import WorkflowLint.Yaml.Value

/-!
# Why a document cannot be read

The causes form three layers. A `SyntaxError` says what the notation does not allow, where,
and while what was being read. A `ContentError` says why well-formed content has no value of
the wanted type. An `Error` is either of these with its place, or one of the limits on a
stream of documents. Each cause has one wording, given by `Error.message`.
-/

namespace WorkflowLint
namespace Yaml

/-! ## Syntax -/

/-- What the notation does not allow. -/
inductive Problem
  | noKeyColon
  | blockEntryMisplaced
  | keyMisplaced
  | valueMisplaced
  | noTokenStart
  | noDirectiveName
  | directiveNameBroken
  | unknownDirective
  | noLineEnd
  | noVersionSeparator
  | longVersionNumber
  | noVersionNumber
  | noWhitespace
  | noWhitespaceOrBreak
  | noNameChar
  | noHandleMark
  | noTagEnd
  | noTagUri
  | noUriOctet
  | badLeadingOctet
  | badTrailingOctet
  | zeroIndentation
  | tabInBlockIndentation
  | documentMarkerInside
  | unexpectedEnd
  | unknownEscape
  | noHexNumber
  | badCodePoint
  | unexpectedColon
  | tabInIndentation
  | noDocumentStart
  | duplicateVersion
  | incompatibleVersion
  | duplicateTagDirective
  | undefinedHandle
  | noNodeContent
  | noDash
  | noKey
  | noSequenceEnd
  | noMappingEnd
  deriving DecidableEq, Repr

namespace Problem

def message : Problem → String
  | .noKeyColon => "could not find expected ':'"
  | .blockEntryMisplaced => "block sequence entries are not allowed in this context"
  | .keyMisplaced => "mapping keys are not allowed in this context"
  | .valueMisplaced => "mapping values are not allowed in this context"
  | .noTokenStart => "found character that cannot start any token"
  | .noDirectiveName => "could not find expected directive name"
  | .directiveNameBroken => "found unexpected non-alphabetical character"
  | .unknownDirective => "found unknown directive name"
  | .noLineEnd => "did not find expected comment or line break"
  | .noVersionSeparator => "did not find expected digit or '.' character"
  | .longVersionNumber => "found extremely long version number"
  | .noVersionNumber => "did not find expected version number"
  | .noWhitespace => "did not find expected whitespace"
  | .noWhitespaceOrBreak => "did not find expected whitespace or line break"
  | .noNameChar => "did not find expected alphabetic or numeric character"
  | .noHandleMark => "did not find expected '!'"
  | .noTagEnd => "did not find the expected '>'"
  | .noTagUri => "did not find expected tag URI"
  | .noUriOctet => "did not find URI escaped octet"
  | .badLeadingOctet => "found an incorrect leading UTF-8 octet"
  | .badTrailingOctet => "found an incorrect trailing UTF-8 octet"
  | .zeroIndentation => "found an indentation indicator equal to 0"
  | .tabInBlockIndentation => "found a tab character where an indentation space is expected"
  | .documentMarkerInside => "found unexpected document indicator"
  | .unexpectedEnd => "found unexpected end of stream"
  | .unknownEscape => "found unknown escape character"
  | .noHexNumber => "did not find expected hexadecimal number"
  | .badCodePoint => "found invalid Unicode character escape code"
  | .unexpectedColon => "found unexpected ':'"
  | .tabInIndentation => "found a tab character that violates indentation"
  | .noDocumentStart => "did not find expected <document start>"
  | .duplicateVersion => "found duplicate %YAML directive"
  | .incompatibleVersion => "found incompatible YAML document"
  | .duplicateTagDirective => "found duplicate %TAG directive"
  | .undefinedHandle => "found undefined tag handle"
  | .noNodeContent => "did not find expected node content"
  | .noDash => "did not find expected '-' indicator"
  | .noKey => "did not find expected key"
  | .noSequenceEnd => "did not find expected ',' or ']'"
  | .noMappingEnd => "did not find expected ',' or '\x7d'"

end Problem

/-- What was being read when a problem appeared. -/
inductive Activity
  | nextToken
  | simpleKey
  | directive
  | versionDirective
  | tagDirectiveSpacing
  | tagDirectiveHandle
  | tagDirectiveHandleEnd
  | tagDirectiveUri
  | anchor
  | alias
  | tag
  | tagUri
  | blockScalar
  | quotedScalar
  | quotedEscape
  | plainScalar
  | node
  | blockNode
  | flowNode
  | blockCollection
  | blockMapping
  | flowSequence
  | flowMapping
  deriving DecidableEq, Repr

namespace Activity

def message : Activity → String
  | .nextToken => "while scanning for the next token"
  | .simpleKey => "while scanning a simple key"
  | .directive => "while scanning a directive"
  | .versionDirective => "while scanning a %YAML directive"
  | .tagDirectiveSpacing => "while scanning a %TAG directive"
  | .tagDirectiveHandle => "while scanning a tag directive"
  | .tagDirectiveHandleEnd => "while parsing a tag directive"
  | .tagDirectiveUri => "while parsing a %TAG directive"
  | .anchor => "while scanning an anchor"
  | .alias => "while scanning an alias"
  | .tag => "while scanning a tag"
  | .tagUri => "while parsing a tag"
  | .blockScalar => "while scanning a block scalar"
  | .quotedScalar => "while scanning a quoted scalar"
  | .quotedEscape => "while parsing a quoted scalar"
  | .plainScalar => "while scanning a plain scalar"
  | .node => "while parsing a node"
  | .blockNode => "while parsing a block node"
  | .flowNode => "while parsing a flow node"
  | .blockCollection => "while parsing a block collection"
  | .blockMapping => "while parsing a block mapping"
  | .flowSequence => "while parsing a flow sequence"
  | .flowMapping => "while parsing a flow mapping"

end Activity

/-- A problem, the place where it shows, and what had been begun where. -/
structure SyntaxError where
  problem : Problem
  place : Mark
  during : Option (Activity × Mark)
  deriving DecidableEq, Repr

namespace SyntaxError

/-- The wording: the place of the activity is left out where it repeats the problem's. -/
def message (e : SyntaxError) : String :=
  e.problem.message ++ e.place.suffix ++
    match e.during with
    | none => ""
    | some (activity, start) =>
      ", " ++ activity.message ++ (if start.sameSpot e.place then "" else start.suffix)

end SyntaxError

/-! ## Content -/

/-- What stands where a value of another type was wanted. -/
inductive Found
  | bool (b : Bool)
  | integer (n : Int)
  | wideInteger (n : Int)
  | real (x : Binary64)
  | string (s : String)
  | unit
  | sequence
  | map
  deriving Repr

/-- The wording of what was found. -/
def Found.message : Found → String
  | .bool b => "boolean `" ++ toString b ++ "`"
  | .integer n => "integer `" ++ toString n ++ "`"
  | .wideInteger n => "integer `" ++ toString n ++ "` as " ++ (if n < 0 then "i128" else "u128")
  | .real x => "floating point `" ++ Number.plainRealText x ++ "`"
  | .string s => "string " ++ Text.quoted s
  | .unit => "unit value"
  | .sequence => "sequence"
  | .map => "map"

/-- Why content has no value of the wanted type. -/
inductive ContentError
  | invalidType (found : Found) (wanted : String)
  | invalidValue (text wanted : String)
  | duplicateKey (key : Value)
  | unknownField (name : String) (fields : List String)
  | duplicateField (name : String)
  deriving Repr

/-- How a message names a key. -/
def keyMessage : Value → String
  | .null => "with null key"
  | .bool b => "with key `" ++ toString b ++ "`"
  | .number n => "with key " ++ n.text
  | .string s => "with key " ++ Text.quoted s
  | _ => "in YAML map"

/-- A name between the quotes that messages put around fields. -/
def fieldMessage (name : String) : String :=
  "`" ++ name ++ "`"

def ContentError.message : ContentError → String
  | .invalidType found wanted => "invalid type: " ++ found.message ++ ", expected " ++ wanted
  | .invalidValue text wanted =>
    "invalid value: string " ++ Text.quoted text ++ ", expected " ++ wanted
  | .duplicateKey key => "duplicate entry " ++ keyMessage key
  | .unknownField name fields =>
    "unknown field " ++ fieldMessage name ++ ", expected one of " ++
      String.intercalate ", " (fields.map fieldMessage)
  | .duplicateField name => "duplicate field " ++ fieldMessage name

/-! ## Paths -/

/-- The way from the root of a document to a node. -/
inductive Path
  | root
  | item (parent : Path) (index : Nat)
  | entry (parent : Path) (key : String)
  | unnamed (parent : Path)
  | alias (parent : Path)
  deriving DecidableEq, Repr

namespace Path

/-- The path as messages print it, the root being a lone point. -/
def text : Path → String
  | .root => "."
  | .item parent index => parent.text ++ "[" ++ toString index ++ "]"
  | .entry .root key => key
  | .entry parent key => parent.text ++ "." ++ key
  | .unnamed .root => "?"
  | .unnamed parent => parent.text ++ ".?"
  | .alias parent => parent.text

/-- What a message begins with: the path of the node, unless that is the root. -/
def lead (p : Path) : String :=
  let t := p.text
  if t == "." then "" else t ++ ": "

end Path

/-! ## All causes -/

/-- Why a stream cannot be read as one document with a value of the wanted type. -/
inductive Error
  /-- A character that may not stand in a text, after so many octets. -/
  | inadmissible (offset : Nat)
  | malformed (e : SyntaxError)
  | unknownAnchor (place : Mark)
  | content (e : ContentError) (place : Mark) (path : Path)
  | tooDeep (place : Mark)
  | tooManyAliases
  | severalDocuments
  deriving Repr

def Error.message : Error → String
  | .inadmissible offset =>
    "control characters are not allowed" ++
      (if offset == 0 then "" else " at position " ++ toString offset)
  | .malformed e => e.message
  | .unknownAnchor place => "unknown anchor" ++ place.suffix
  | .content e place path => path.lead ++ e.message ++ place.suffix
  | .tooDeep place => "recursion limit exceeded" ++ place.suffix
  | .tooManyAliases => "repetition limit exceeded"
  | .severalDocuments =>
    "deserializing from YAML containing more than one document is not supported"

end Yaml
end WorkflowLint
