import DocPress.Markdown.Line

/-!
# HTML within Markdown

* `tagAt?` — what follows the opening or closing tag that a text begins with.
* `inlineHtmlAt?` — what follows a tag, comment, instruction, declaration or character data section.
* `blockEnd?`, `startsBlockTag`, `startsLoneTag` — the three ways in which a line opens a block of
  HTML: up to a closing string, or up to a blank line.
-/

namespace DocPress.Markdown

/-- Whether a character is a letter or digit of ASCII or a hyphen. -/
def isTagNameChar (c : Char) : Bool := c.isAlphanum || c == '-'

/-- Skips the blanks of a tag; line ends among them only where `multiline`. A tag does not stop there. -/
def tagSpace? (multiline : Bool) (s : List Char) : Option (List Char) :=
  match s.dropWhile fun c => if multiline then isSpaceChar c else isBlankChar c with
  | [] => none
  | c :: rest => if c == '\n' || c == '\r' then none else some (c :: rest)

/-- What follows the name of an attribute. -/
def attributeName? (s : List Char) : Option (List Char) :=
  match s with
  | c :: rest =>
    if c.isAlpha || c == '_' || c == ':' then
      some (rest.dropWhile fun x => x.isAlphanum || x == '_' || x == '.' || x == ':' || x == '-')
    else none
  | [] => none

/-- Whether a character may stand in an attribute value without quotes. -/
def isBareValueChar (c : Char) : Bool :=
  !(c == '\x27' || c == '\x22' || c == ' ' || c == '=' || c == '>' || c == '<' || c == '\x60' ||
    c == '\n' || c == '\r')

/-- What follows the value of an attribute. -/
def attributeValue? (multiline : Bool) (s : List Char) : Option (List Char) :=
  match s with
  | c :: rest =>
    if c == '\x22' || c == '\x27' then
      let (value, more) := rest.span fun x => x != c
      if !multiline && value.any (fun x => x == '\n' || x == '\r') then none
      else
        match more with
        | _ :: after => some after
        | [] => none
    else if isBareValueChar c then some (rest.dropWhile isBareValueChar)
    else none
  | [] => none

/-- What follows an attribute. -/
def attribute? (multiline : Bool) (s : List Char) : Option (List Char) := do
  let named ← attributeName? s
  match ← tagSpace? multiline named with
  | '=' :: rest =>
    let value ← tagSpace? multiline rest
    attributeValue? multiline value
  | _ => some named

/-- The rest of an opening tag from its attributes on. -/
def openTagEnd? (multiline : Bool) : Nat → List Char → Option (List Char)
  | 0, _ => none
  | fuel + 1, s => do
    let t ← tagSpace? multiline s
    match t with
    | '>' :: rest => some rest
    | '/' :: '>' :: rest => some rest
    | _ =>
      if t.length = s.length then none
      else
        let rest ← attribute? multiline t
        openTagEnd? multiline fuel rest

/-- What follows the opening or closing tag that a text begins with. -/
def tagAt? (multiline : Bool) (s : List Char) : Option (List Char) :=
  match s with
  | '<' :: '/' :: rest =>
    if rest.head?.any Char.isAlpha then
      match tagSpace? multiline (rest.dropWhile isTagNameChar) with
      | some ('>' :: after) => some after
      | _ => none
    else none
  | '<' :: rest =>
    if rest.head?.any Char.isAlpha then
      openTagEnd? multiline (rest.length + 1) (rest.dropWhile isTagNameChar)
    else none
  | _ => none

/-- What follows the first occurrence of a pattern. -/
def afterPattern? (pattern : List Char) : List Char → Option (List Char)
  | [] => none
  | c :: rest =>
    match pattern.isPrefixOf? (c :: rest) with
    | some after => some after
    | none => afterPattern? pattern rest

/-- What follows the piece of HTML that a text begins with. -/
def inlineHtmlAt? (s : List Char) : Option (List Char) :=
  match s with
  | '<' :: '!' :: '-' :: '-' :: rest => afterPattern? "-->".toList ('-' :: '-' :: rest)
  | '<' :: '?' :: rest => afterPattern? "?>".toList rest
  | '<' :: '!' :: rest =>
    match "[CDATA[".toList.isPrefixOf? rest with
    | some inner => afterPattern? "]]>".toList inner
    | none => if rest.head?.any Char.isAlpha then afterPattern? ['>'] rest else none
  | _ => tagAt? true s

/-! ## Blocks -/

/-- Elements whose content is verbatim, each with the tag that ends it. -/
def verbatimElements : List (List Char × List Char) :=
  [("pre".toList, "</pre>".toList), ("style".toList, "</style>".toList),
   ("script".toList, "</script>".toList), ("textarea".toList, "</textarea>".toList)]

/-- The elements that open a block of HTML up to a blank line. -/
def blockElements : List String :=
  ["address", "article", "aside", "base", "basefont", "blockquote", "body", "caption", "center",
   "col", "colgroup", "dd", "details", "dialog", "dir", "div", "dl", "dt", "fieldset", "figcaption",
   "figure", "footer", "form", "frame", "frameset", "h1", "h2", "h3", "h4", "h5", "h6", "head",
   "header", "hr", "html", "iframe", "legend", "li", "link", "main", "menu", "menuitem", "nav",
   "noframes", "ol", "optgroup", "option", "p", "param", "search", "section", "summary", "table",
   "tbody", "td", "tfoot", "th", "thead", "title", "tr", "track", "ul"]

/-- Letters of ASCII in lower case. -/
def lowerCase (s : List Char) : List Char := s.map Char.toLower

/-- The string that ends the block of HTML opened by the text after a `<`. -/
def blockEnd? (s : List Char) : Option (List Char) :=
  let verbatim := verbatimElements.findSome? fun (name, stop) =>
    if lowerCase (s.take name.length) = name &&
        (s.drop name.length).head?.all (fun c => isSpaceChar c || c == '>') then some stop
    else none
  match verbatim with
  | some stop => some stop
  | none =>
    if "!--".toList.isPrefixOf s then some "-->".toList
    else if "?".toList.isPrefixOf s then some "?>".toList
    else if "![CDATA[".toList.isPrefixOf s then some "]]>".toList
    else
      match s with
      | '!' :: c :: _ => if c.isAlpha then some ">".toList else none
      | _ => none

/-- Whether the text after a `<` opens a block up to a blank line by the name of its element. -/
def startsBlockTag (s : List Char) : Bool :=
  let inner := match s with
    | '/' :: rest => rest
    | _ => s
  let (name, rest) := inner.span Char.isAlphanum
  blockElements.contains (String.ofList (lowerCase name)) &&
    (match rest with
     | [] => true
     | '/' :: '>' :: _ => true
     | c :: _ => c == ' ' || c == '\t' || c == '\r' || c == '\n' || c == '>')

/-- Whether a text begins with a complete tag that is alone on its line. -/
def startsLoneTag (s : List Char) : Bool :=
  match tagAt? false s with
  | some rest => (blankLine? rest).isSome
  | none => false

end DocPress.Markdown
