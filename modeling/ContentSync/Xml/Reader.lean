import ContentSync.Text.Utf8

/-!
# Reading markup

A markup document is read as a sequence of tokens: start tags, empty-element tags, end tags,
and the rest (text, comments, character data, document type declarations, processing
instructions), which the content reader skips but which must still be well-formed enough to
be stepped over.

The rules are those of a lenient streaming reader:

* a UTF-8 byte order mark at the start is dropped, and blanks before markup are skipped;
* text runs up to the next `<`, and is not looked into;
* after `<!` comes a comment (`<!--` … `-->`, at least `<!---->`), character data
  (`<![CDATA[` … `]]>`, the keyword in capitals: `<![cdata[` is unclosed character data) or a
  document type declaration (`<!DOCTYPE` name …, the keyword in any case, where `<` and `>`
  inside must balance); anything else after `<!` is a fault;
* `<?` … `?>` is a declaration or processing instruction;
* a tag runs to the first `>` outside quotes; it is empty when its content ends with `/`;
  its name runs to the first blank;
* an end tag's name loses its trailing blanks and must be the name of the innermost open tag.

Faults carry their message; the reader stops at the first one.

Main definitions: `Token`, `XmlFault`, `Scanner`, `Scanner.next`.
-/

namespace ContentSync.Xml

/-- Why a document cannot be read. -/
inductive XmlFault where
  /-- A syntax error, with its description. -/
  | lexical (detail : String)
  /-- A document that is not well-formed, with its description. -/
  | illFormed (detail : String)
  /-- A malformed attribute, with its description. -/
  | attribute (detail : String)
  /-- Bytes that are not UTF-8. -/
  | encoding (detail : String)
  /-- A bad character or entity reference. -/
  | escape (detail : String)
  /-- A name that is not UTF-8 (detected by the element reader). -/
  | badName (detail : String)
deriving DecidableEq, Repr

/-- The description of a fault. -/
def XmlFault.describe : XmlFault → String
  | .lexical d => "syntax error: " ++ d
  | .illFormed d => "ill-formed document: " ++ d
  | .attribute d => "error while parsing attribute: " ++ d
  | .encoding d => d
  | .escape d => d
  | .badName d => d

/-- A token of a document. -/
inductive Token where
  /-- A start tag: its content after `<` (name and attributes). -/
  | start (content : List UInt8)
  /-- An empty-element tag: its content without the final `/`. -/
  | empty (content : List UInt8)
  /-- An end tag with its name. -/
  | finish (name : List UInt8)
  /-- Text, a comment, character data, a declaration or an instruction. -/
  | skipped
  /-- The end of the document. -/
  | eof
deriving DecidableEq, Repr

/-- Whether a byte is a markup blank. -/
def isBlankByte (b : UInt8) : Bool :=
  b = 32 || b = 9 || b = 13 || b = 10

/-- The byte of an ASCII character. -/
def ascii (c : Char) : UInt8 :=
  c.toNat.toUInt8

/-- The bytes of an ASCII text. -/
def asciiBytes (s : String) : List UInt8 :=
  s.toList.map ascii

/-- The length of the name at the start of a tag's content: up to the first blank. -/
def nameLength (content : List UInt8) : Nat :=
  (content.takeWhile (fun b => !isBlankByte b)).length

/-- Text of bytes for a message, or empty when they are not UTF-8. -/
def lossless (bytes : List UInt8) : String :=
  (Text.stringOfUtf8? bytes).getD ""

/-- Where reading stands. -/
inductive Phase where
  /-- At the very start, before the byte order mark. -/
  | init
  /-- Between markup. -/
  | inText
  /-- Just after a `<`. -/
  | inMarkup
  /-- After the end of input or a fatal fault. -/
  | done
deriving DecidableEq, Repr

/-- The state of a reader: the bytes left, the phase, and the names of open tags (innermost
first). -/
structure Scanner where
  rest : List UInt8
  phase : Phase
  opened : List (List UInt8)
deriving Repr

/-- A reader at the start of a document. -/
def Scanner.ofBytes (bytes : List UInt8) : Scanner :=
  { rest := bytes, phase := .init, opened := [] }

/-- Splits at the first byte satisfying `p`, dropping that byte. -/
def splitAtFirst (p : UInt8 → Bool) (bytes : List UInt8) : Option (List UInt8 × List UInt8) :=
  match bytes.findIdx? p with
  | some i => some (bytes.take i, bytes.drop (i + 1))
  | none => none

/-- Finds the end of a tag: the first `>` outside quotes. `quote` is the open quote, if any. -/
def tagEnd (quote : Option UInt8) : List UInt8 → List UInt8 → Option (List UInt8 × List UInt8)
  | [], _ => none
  | b :: rest, acc =>
    match quote with
    | none =>
      if b = ascii '>' then some (acc.reverse, rest)
      else if b = ascii '\'' ∨ b = ascii '"' then tagEnd (some b) rest (b :: acc)
      else tagEnd none rest (b :: acc)
    | some q => if b = q then tagEnd none rest (b :: acc) else tagEnd (some q) rest (b :: acc)

/-- Whether the reversed bytes `acc` end (in reading order) with two bytes `c`. -/
def endsWithTwice (acc : List UInt8) (c : Char) : Bool :=
  match acc with
  | x :: y :: _ => x = ascii c && y = ascii c
  | _ => false

/-- Finds the end of a comment in bytes starting at `!`: the first `>` at index above 4 with
`--` before it. -/
def commentEnd (index : Nat) : List UInt8 → List UInt8 → Option (List UInt8 × List UInt8)
  | [], _ => none
  | b :: rest, acc =>
    if b = ascii '>' ∧ index > 4 ∧ endsWithTwice acc '-' then some (acc.reverse, rest)
    else commentEnd (index + 1) rest (b :: acc)

/-- Finds the end of character data: the first `>` with `]]` before it. -/
def cdataEnd : List UInt8 → List UInt8 → Option (List UInt8 × List UInt8)
  | [], _ => none
  | b :: rest, acc =>
    if b = ascii '>' ∧ endsWithTwice acc ']' then some (acc.reverse, rest)
    else cdataEnd rest (b :: acc)

/-- Finds the end of a document type declaration: the first `>` where the `<` and `>` before
it balance. -/
def doctypeEnd (balance : Nat) : List UInt8 → List UInt8 → Option (List UInt8 × List UInt8)
  | [], _ => none
  | b :: rest, acc =>
    if b = ascii '<' then doctypeEnd (balance + 1) rest (b :: acc)
    else if b = ascii '>' then
      if balance = 0 then some (acc.reverse, rest) else doctypeEnd (balance - 1) rest (b :: acc)
    else doctypeEnd balance rest (b :: acc)

/-- Finds the end of an instruction: the first `>` right after a `?`. -/
def instructionEnd : List UInt8 → List UInt8 → Option (List UInt8 × List UInt8)
  | [], _ => none
  | b :: rest, acc =>
    if b = ascii '>' ∧ acc.head? = some (ascii '?') then some (acc.reverse, rest)
    else instructionEnd rest (b :: acc)

/-- Whether `bytes` start with the ASCII text `word`, ignoring the case of letters. -/
def startsWithIgnoringCase (bytes : List UInt8) (word : String) : Bool :=
  let lower (b : UInt8) : UInt8 := if 65 ≤ b ∧ b ≤ 90 then b + 32 else b
  let w := asciiBytes word
  w.length ≤ bytes.length ∧ (bytes.take w.length).map lower = w.map lower

/-- Reads the markup after `<!`; `bytes` start at the `!`. -/
def readBang (bytes : List UInt8) : Except XmlFault (List UInt8) :=
  let unclosedComment := XmlFault.lexical "comment not closed: `-->` not found before end of input"
  let unclosedCdata := XmlFault.lexical "CDATA not closed: `]]>` not found before end of input"
  let unclosedDoctype := XmlFault.lexical "DOCTYPE not closed: `>` not found before end of input"
  match bytes.drop 1 with
  | b :: _ =>
    if b = ascii '[' then
      match cdataEnd bytes [] with
      | none => .error unclosedCdata
      | some (body, rest) =>
        if asciiBytes "![CDATA[" |>.isPrefixOf body then .ok rest else .error unclosedCdata
    else if b = ascii '-' then
      match commentEnd 0 bytes [] with
      | none => .error unclosedComment
      | some (body, rest) =>
        if asciiBytes "!--" |>.isPrefixOf body then .ok rest else .error unclosedComment
    else if b = ascii 'D' ∨ b = ascii 'd' then
      match doctypeEnd 0 bytes [] with
      | none => .error unclosedDoctype
      | some (body, rest) =>
        if startsWithIgnoringCase body "!DOCTYPE" then
          if (body.drop 8).all isBlankByte then
            .error (.illFormed
              "`<!DOCTYPE>` declaration does not contain a name of a document type")
          else .ok rest
        else .error unclosedDoctype
    else .error (.lexical "unknown or missed symbol in markup")
  | [] => .error (.lexical "unknown or missed symbol in markup")

/-- Drops blanks at the end of a name. -/
def trimEndBlanks (bytes : List UInt8) : List UInt8 :=
  (bytes.reverse.dropWhile isBlankByte).reverse

/-- Reads the token after `<`. -/
def Scanner.readMarkup (s : Scanner) : Except XmlFault (Token × Scanner) :=
  let unclosedTag := XmlFault.lexical "tag not closed: `>` not found before end of input"
  let s := { s with phase := .inText }
  match s.rest with
  | [] => .error unclosedTag
  | b :: _ =>
    if b = ascii '!' then
      match readBang s.rest with
      | .ok rest => .ok (.skipped, { s with rest })
      | .error e => .error e
    else if b = ascii '/' then
      match tagEnd none s.rest [] with
      | none => .error unclosedTag
      | some (content, rest) =>
        let name := trimEndBlanks (content.drop 1)
        match s.opened with
        | [] =>
          .error (.illFormed s!"close tag `</{lossless name}>` does not match any open tag")
        | expected :: outer =>
          if name = expected then .ok (.finish name, { s with rest, opened := outer })
          else
            .error (.illFormed
              s!"expected `</{lossless expected}>`, but `</{lossless name}>` was found")
    else if b = ascii '?' then
      match instructionEnd s.rest [] with
      | some (content, rest) =>
        if content.length > 1 then .ok (.skipped, { s with rest })
        else .error (.lexical
          "processing instruction or xml declaration not closed: `?>` not found before end of input")
      | none => .error (.lexical
          "processing instruction or xml declaration not closed: `?>` not found before end of input")
    else
      match tagEnd none s.rest [] with
      | none => .error unclosedTag
      | some (content, rest) =>
        match content.getLast? with
        | some l =>
          if l = ascii '/' then .ok (.empty content.dropLast, { s with rest })
          else
            .ok (.start content,
              { s with rest, opened := content.take (nameLength content) :: s.opened })
        | none => .ok (.start content, { s with rest, opened := [] :: s.opened })

/-- Reads the next token. -/
def Scanner.next (s : Scanner) : Except XmlFault (Token × Scanner) :=
  match s.phase with
  | .done => .ok (.eof, s)
  | .inMarkup => s.readMarkup
  | .init | .inText =>
    let rest := match s.phase, s.rest with
      | .init, 0xEF :: 0xBB :: 0xBF :: more => more
      | _, r => r
    let rest := rest.dropWhile isBlankByte
    match rest with
    | [] => .ok (.eof, { s with rest, phase := .done })
    | b :: more =>
      if b = ascii '<' then { s with rest := more, phase := .inMarkup }.readMarkup
      else
        match splitAtFirst (· = ascii '<') rest with
        | some (_, after) => .ok (.skipped, { s with rest := after, phase := .inMarkup })
        | none => .ok (.skipped, { s with rest := [], phase := .done })

end ContentSync.Xml
