/-! # Tokens of a block document

The documents meant here are written with indentation, dashes and colons, or with brackets and
braces. A token is the smallest part of such a document; where a block begins and ends is made
explicit. -/

namespace FolderTag.Document.Yaml

/-- What is wrong with a document. -/
inductive Cause where
  | unprintable
  | unexpectedCharacter
  | misplacedEntry
  | misplacedKey
  | misplacedValue
  | keyWithoutColon
  | unclosedText
  | badEscape
  | badBlockHeader
  | badDirective
  | badAnchor
  | badTag
  | missingNode
  | missingBlockEnd
  | missingComma
  | missingDocumentStart
  | severalDocuments
  | undefinedAlias
  | repeatedAnchor
  | unknownTag
  | wrongKind
  | badMergeKey
  | listAsKey
deriving Repr, DecidableEq

def Cause.message : Cause → String
  | .unprintable => "a character is not printable"
  | .unexpectedCharacter => "no token begins with this character"
  | .misplacedEntry => "a list entry is not allowed here"
  | .misplacedKey => "a key is not allowed here"
  | .misplacedValue => "a value is not allowed here"
  | .keyWithoutColon => "a key has no colon behind it"
  | .unclosedText => "a quoted text is not closed"
  | .badEscape => "an escape is malformed"
  | .badBlockHeader => "the header of a block of text is malformed"
  | .badDirective => "a directive is malformed"
  | .badAnchor => "an anchor or alias is malformed"
  | .badTag => "a tag is malformed"
  | .missingNode => "a value is missing"
  | .missingBlockEnd => "the indentation does not fit"
  | .missingComma => "a comma is missing"
  | .missingDocumentStart => "a document has no start"
  | .severalDocuments => "there is more than one document"
  | .undefinedAlias => "an alias stands for nothing"
  | .repeatedAnchor => "an anchor occurs twice"
  | .unknownTag => "a tag is not known"
  | .wrongKind => "a value is not of the kind its tag asks for"
  | .badMergeKey => "only mappings can be merged"
  | .listAsKey => "a list or mapping cannot be a key"

/-- Why a text of a document has no value. -/
inductive NoValue where
  /-- A number is malformed, or there is no such day, moment or character. -/
  | noSuchThing
  /-- Nothing stands where a number is announced. -/
  | noNumber
  /-- A truth value is announced, but the word is none. -/
  | notAWord
  /-- A moment is announced, but the text has not its form. -/
  | notAMoment
  /-- A character has a number beyond all limits. -/
  | beyondLimits
deriving Repr, DecidableEq

/-- Why no value comes out of a document. -/
inductive Failure where
  /-- The document is malformed. -/
  | malformed (cause : Cause)
  /-- The document is well formed, but one of its texts has no value. -/
  | noValue (why : NoValue)
deriving Repr, DecidableEq

def refuse {α : Type} (cause : Cause) : Except Failure α := .error (.malformed cause)

/-- The name of a kind of value, in parts as it is written. -/
structure Tag where
  handle : Option String
  suffix : String
deriving Repr, DecidableEq

/-- A token. -/
inductive Token where
  | version (major : Nat)
  | tagHandle (handle expansion : String)
  | otherDirective
  | documentStart
  | documentEnd
  | blockListStart
  | blockMapStart
  | blockEnd
  | flowListStart
  | flowListEnd
  | flowMapStart
  | flowMapEnd
  | entry
  | comma
  | key
  | value
  | alias (name : String)
  | anchor (name : String)
  | tag (t : Tag)
  | scalar (text : String) (plain : Bool)
deriving Repr, DecidableEq

end FolderTag.Document.Yaml
