import PolicyAudit.Xml.Namespace
import PolicyAudit.Xml.Text

/-! # Reading a document

`Xml.read` takes a text to the nodes at the top of the document, or to the first error.  A document
may begin with a byte order mark and a declaration; around its one element there may be comments,
processing instructions and blanks.  Document types are refused.

The elements that are open at some place are kept on a stack, the innermost first.  A start tag
that the end of the text cuts off right behind its name or an attribute adds no element. -/

namespace PolicyAudit.Xml

/-! ### Open elements -/

/-- An element whose end tag has not come yet, with its children so far, last one first. -/
structure OpenElement where
  name : QName
  namespaceUri : Option String
  attributes : List Attribute
  scope : Scope
  children : List Node

namespace OpenElement

/-- The element when its end tag comes. -/
def close (e : OpenElement) : Node :=
  .element e.namespaceUri e.name.localName e.attributes e.children.reverse

end OpenElement

/-- The part of a document that has been read: the open elements, innermost first, the nodes at the
top, last one first, and the different bindings in all of it. -/
structure Progress where
  stack : List OpenElement
  top : List Node
  known : Scope

namespace Progress

def empty : Progress := ⟨[], [], .initial⟩

/-- Adds a node inside the innermost open element, or at the top. -/
def add (p : Progress) (node : Node) : Progress :=
  match p.stack with
  | [] => ⟨[], node :: p.top, p.known⟩
  | e :: stack =>
    ⟨⟨e.name, e.namespaceUri, e.attributes, e.scope, node :: e.children⟩ :: stack, p.top, p.known⟩

/-- The namespaces that are bound here. -/
def scope (p : Progress) : Scope := (p.stack.head?.map (·.scope)).getD []

end Progress

/-! ### Markup -/

/-- The opening quote of an attribute value. -/
def readQuote : Reader Char := do
  let c ← peek
  if c = '"' ∨ c = '\'' then
    advance 1
    pure c
  else throw (.wrongKind "a quote" (firstByte c) (← here))

/-- A name, an equals sign and a value in quotes, in which references are not yet resolved. -/
def readRawAttribute : Reader (QName × Position × List Char) := do
  let name ← readQName
  skipSpaces
  expect '='
  skipSpaces
  let quote ← readQuote
  let start ← here
  let value ← takeUntil fun cs => cs.head? = some quote || cs.head? = some '<'
  expect quote
  pure (name, start, value)

/-- One more attribute of a start tag. -/
def readAttribute (t : TagContent) : Reader TagContent := do
  let position ← here
  let (name, start, raw) ← readRawAttribute
  let value ← pieces start raw
  t.add ⟨name, String.ofList (attributeChars value), position⟩

/-- How a start tag ends; a text may end first. -/
inductive TagEnd where
  | opened
  | closed
  | cutOff
deriving DecidableEq, Repr

/-- The attributes and the end of a start tag.  Each attribute takes some of the text. -/
def readTagContent : Nat → TagContent → Reader (TagContent × TagEnd)
  | 0, t => pure (t, .cutOff)
  | fuel + 1, t => do
    if ← atEnd then return (t, .cutOff)
    let spaces ← takeWhile isSpace
    let c ← peek
    if c = '/' then
      advance 1
      expect '>'
      pure (t, .closed)
    else if c = '>' then
      advance 1
      pure (t, .opened)
    else if spaces.isEmpty then throw (.wrongKind "a whitespace" (firstByte c) (← here))
    else readTagContent fuel (← readAttribute t)

/-- A start tag, or an element without content. -/
def readStartTag (p : Progress) : Reader Progress := do
  advance 1
  let position ← here
  let name ← readQName
  if name.qualifier = "xmlns" then throw (.xmlnsElement position)
  let (t, tagEnd) ← readTagContent ((← get).rest.length + 1) (.empty p.known)
  if tagEnd = .cutOff then return p
  let attributes ← t.resolve p.scope
  let scope := t.scope p.scope
  let uri ← scope.resolve name.qualifier position
  let e : OpenElement := ⟨name, uri, attributes, scope, []⟩
  if tagEnd = .opened then pure ⟨e :: p.stack, p.top, t.known⟩
  else pure ((⟨p.stack, p.top, t.known⟩ : Progress).add e.close)

/-- An end tag, which must repeat the name of the innermost open element. -/
def readEndTag (p : Progress) : Reader Progress := do
  let position ← here
  advance 2
  let name ← readQName
  skipSpaces
  expect '>'
  match p.stack with
  | [] => throw (.unknownToken position)
  | e :: stack =>
    if name = e.name then pure ((⟨stack, p.top, p.known⟩ : Progress).add e.close)
    else throw (.wrongCloseTag e.name.text name.text position)

/-- Two hyphens in a row occur. -/
def hasTwoHyphens : List Char → Bool
  | '-' :: '-' :: _ => true
  | _ :: cs => hasTwoHyphens cs
  | [] => false

def readComment (p : Progress) : Reader Progress := do
  let position ← here
  advance 4
  let value ← takeUntil fun cs => "-->".toList.isPrefixOf cs
  expectString "-->"
  if hasTwoHyphens value || value.getLast? = some '-' then throw (.hyphensInComment position)
  pure (p.add (.comment (String.ofList value)))

def readInstruction (p : Progress) : Reader Progress := do
  if ← looksAt "<?xml " then throw (.misplacedDeclaration (← here))
  advance 2
  let target ← readName
  skipSpaces
  let value ← takeUntil fun cs => "?>".toList.isPrefixOf cs
  expectString "?>"
  pure (p.add (.instruction target (String.ofList value)))

def readCdata (p : Progress) : Reader Progress := do
  advance 9
  let value ← takeUntil fun cs => "]]>".toList.isPrefixOf cs
  expectString "]]>"
  pure (p.add (.text (String.ofList (textChars (value.map .literal)))))

/-- The mark that ends a CDATA section occurs. -/
def hasCdataEnd : List Char → Bool
  | ']' :: ']' :: '>' :: _ => true
  | _ :: cs => hasCdataEnd cs
  | [] => false

def readText (p : Progress) : Reader Progress := do
  let start ← here
  let raw ← takeUntil fun cs => cs.head? = some '<'
  if hasCdataEnd raw then throw (.cdataEndInText (← here))
  let value ← pieces start raw
  pure (p.add (.text (String.ofList (textChars value))))

/-- The next part of the content of an element. -/
def readPart (p : Progress) : Reader Progress := do
  match (← get).rest with
  | '<' :: '!' :: _ =>
    if ← looksAt "<!--" then readComment p
    else if ← looksAt "<![CDATA[" then readCdata p
    else throw (.unknownToken (← here))
  | '<' :: '?' :: _ => readInstruction p
  | '<' :: '/' :: _ => readEndTag p
  | ['<'] => throw (.unknownToken (← here))
  | '<' :: _ => readStartTag p
  | _ => readText p

/-- The content of the open elements, up to the end of the outermost one or of the text.  Each part
takes some of the text. -/
def readContent : Nat → Progress → Reader Progress
  | 0, p => pure p
  | fuel + 1, p => do
    if p.stack.isEmpty || (← atEnd) then pure p else readContent fuel (← readPart p)

/-! ### Around the element -/

/-- Comments, processing instructions and blanks.  Each round takes some of the text. -/
def readMisc : Nat → Progress → Reader Progress
  | 0, p => pure p
  | fuel + 1, p => do
    skipSpaces
    if ← looksAt "<!--" then readMisc fuel (← readComment p)
    else if ← looksAt "<?" then readMisc fuel (← readInstruction p)
    else pure p

/-- The blanks behind an attribute of the declaration. -/
def declarationSpaces : Reader Unit := do
  let spaces ← takeWhile isSpace
  if spaces.isEmpty && !(← looksAt "?>") && !(← atEnd) then
    throw (.wrongKind "a whitespace" (firstByte (← peek)) (← here))

def readDeclaration : Reader Unit := do
  advance 5
  declarationSpaces
  unless ← looksAt "version" do throw (.missingString "version" (← here))
  let _ ← readRawAttribute
  declarationSpaces
  if ← looksAt "encoding" then
    let _ ← readRawAttribute
    declarationSpaces
  if ← looksAt "standalone" then
    let _ ← readRawAttribute
  skipSpaces
  expectString "?>"

/-- A whole document. -/
def readDocument : Reader Progress := do
  if ← looksAt "\ufeff" then advance 1
  if ← looksAt "<?xml " then readDeclaration
  let fuel := (← get).rest.length + 1
  let p ← readMisc fuel Progress.empty
  if ← looksAt "<!DOCTYPE" then throw .doctype
  let p ← if ← looksAt "<" then readStartTag p else pure p
  let p ← readContent fuel p
  let p ← readMisc fuel p
  unless ← atEnd do throw (.unknownToken (← here))
  pure p

/-- The nodes at the top of the document that a text holds. -/
def read (s : String) : Except Error (List Node) := do
  let (p, _) ← readDocument ⟨s.toList, Position.start⟩
  if p.stack.isEmpty then
    if (p.top.filterMap Node.element?).isEmpty then throw .noRoot
    pure p.top.reverse
  else throw .unclosedRoot

end PolicyAudit.Xml
