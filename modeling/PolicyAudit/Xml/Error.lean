import PolicyAudit.Text.Quoted

/-! # Errors of an XML text

A text that is no well-formed document is refused with the first error that a reader from left to
right meets.  Most errors say where they stand, by line and column, both counted from one and in
characters. -/

namespace PolicyAudit.Xml

structure Position where
  row : Nat
  column : Nat
deriving DecidableEq, Repr

namespace Position

def start : Position := ⟨1, 1⟩

/-- The position behind a character. -/
def after (p : Position) (c : Char) : Position :=
  if c = '\n' then ⟨p.row + 1, 1⟩ else ⟨p.row, p.column + 1⟩

def text (p : Position) : String := toString p.row ++ ":" ++ toString p.column

end Position

inductive Error where
  | xmlMappedToWrongUri (at_ : Position)
  | xmlUriForOtherName (at_ : Position)
  | xmlnsUriDeclared (at_ : Position)
  | xmlnsElement (at_ : Position)
  | repeatedNamespace (name : String) (at_ : Position)
  | unknownNamespace (name : String) (at_ : Position)
  | tooManyNamespaces
  | wrongCloseTag (expected actual : String) (at_ : Position)
  | unknownEntity (name : String) (at_ : Position)
  | malformedReference (at_ : Position)
  | repeatedAttribute (name : String) (at_ : Position)
  | noRoot
  | unclosedRoot
  | misplacedDeclaration (at_ : Position)
  | doctype
  | invalidName (at_ : Position)
  | nonXmlCharacter (c : Char) (at_ : Position)
  /-- Another byte than the expected character; bytes are shown as the characters of their number. -/
  | wrongByte (expected : Char) (byte : UInt8) (at_ : Position)
  | wrongKind (expected : String) (byte : UInt8) (at_ : Position)
  | missingString (expected : String) (at_ : Position)
  | hyphensInComment (at_ : Position)
  | cdataEndInText (at_ : Position)
  | unknownToken (at_ : Position)
  | unexpectedEnd
deriving DecidableEq, Repr

/-- The character with the number of a byte. -/
def byteChar (b : UInt8) : String := (Char.ofNat b.toNat).toString

def Error.message : Error → String
  | xmlMappedToWrongUri p => "'xml' namespace prefix mapped to wrong URI at " ++ p.text
  | xmlUriForOtherName p => "the 'xml' namespace URI is used for not 'xml' prefix at " ++ p.text
  | xmlnsUriDeclared p =>
    "the 'xmlns' URI is used at " ++ p.text ++ ", but it must not be declared"
  | xmlnsElement p => "the 'xmlns' prefix is used at " ++ p.text ++ ", but it must not be"
  | repeatedNamespace name p => "namespace '" ++ name ++ "' at " ++ p.text ++ " is already defined"
  | unknownNamespace name p => "an unknown namespace prefix '" ++ name ++ "' at " ++ p.text
  | tooManyNamespaces => "more than 2^16 unique namespaces were parsed"
  | wrongCloseTag expected actual p =>
    "expected '" ++ expected ++ "' tag, not '" ++ actual ++ "' at " ++ p.text
  | unknownEntity name p => "unknown entity reference '" ++ name ++ "' at " ++ p.text
  | malformedReference p => "malformed entity reference at " ++ p.text
  | repeatedAttribute name p => "attribute '" ++ name ++ "' at " ++ p.text ++ " is already defined"
  | noRoot => "the document does not have a root node"
  | unclosedRoot => "the root node was opened but never closed"
  | misplacedDeclaration p => "unexpected XML declaration at " ++ p.text
  | doctype => "XML with DTD detected"
  | invalidName p => "invalid name token at " ++ p.text
  | nonXmlCharacter c p => "a non-XML character " ++ Text.quotedChar c ++ " found at " ++ p.text
  | wrongByte expected byte p =>
    "expected '" ++ expected.toString ++ "' not '" ++ byteChar byte ++ "' at " ++ p.text
  | wrongKind expected byte p =>
    "expected " ++ expected ++ " not '" ++ byteChar byte ++ "' at " ++ p.text
  | missingString expected p => "expected '" ++ expected ++ "' at " ++ p.text
  | hyphensInComment p => "comment at " ++ p.text ++ " contains '--'"
  | cdataEndInText p => "']]>' at " ++ p.text ++ " is not allowed inside a character data"
  | unknownToken p => "unknown token at " ++ p.text
  | unexpectedEnd => "unexpected end of stream"

end PolicyAudit.Xml
